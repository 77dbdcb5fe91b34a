import PulpGame.Run.Command
import PulpGame.Run.Delivery
import PulpGame.Disk.Basic
import PulpGame.Document.Reading

namespace PulpGame.Run

open Disk (FileSystem)

inductive Failure where
  | noRuntime (path : String)
  | reading (path : String) (error : Disk.Error)
  | parsing (fault : Json.Fault)
  | building (failure : BuildFailure)
  | creating (path : String) (error : Disk.Error)
  | writingProgram (error : Disk.Error)
  | writingSheets (failure : Delivery.SheetFailure)
deriving Repr

def Failure.messages : Failure → List String
  | .noRuntime path => [s!"runtime support file {path} not found"]
  | .reading path e => [s!"Reading {path}", e.message]
  | .parsing fault => ["Parsing input JSON", Document.faultMessage fault]
  | .building f => ["Compiling game document", f.stage.words, f.failure.message]
  | .creating path e => [s!"Creating {path}", e.message]
  | .writingProgram e => ["Writing Lua program", e.message]
  | .writingSheets f => "Writing sprite sheets" :: f.messages

variable {m : Type → Type} [Monad m] [FileSystem m]

abbrev Running (m : Type → Type) := ExceptT Failure (StateT (List Journal.Entry) m)

def request {α : Type} (fail : Disk.Error → Failure) (x : m (Except Disk.Error α)) :
    Running m α := do
  match ← (monadLift (monadLift x : StateT (List Journal.Entry) m _) : Running m _) with
  | .ok a => return a
  | .error e => throw (fail e)

def compute {ε α : Type} (fail : ε → Failure) (x : Journaled ε α) : Running m α := do
  let (result, journal) := x.run.run (← get)
  set journal
  match result with
  | .ok a => return a
  | .error e => throw (fail e)

def note (entries : List Journal.Entry) : Running m Unit := modify (· ++ entries)

def prepare (c : Command) : Running m Product := do
  if !(← (monadLift (monadLift (FileSystem.isFile c.runtime : m Bool) :
      StateT (List Journal.Entry) m _) : Running m _)) then
    throw (.noRuntime c.runtime)
  let source ← request (.reading c.input) (FileSystem.readText c.input)
  let doc ← compute .parsing (Document.load source)
  compute .building (doc.build c.settings)

def deliver (c : Command) (p : Product) : Running m Unit := do
  request (.creating c.output) (Disk.createDirectories c.output)
  request .writingProgram (Delivery.deliverProgram p.program c.output c.runtime).run
  ExceptT.adapt Failure.writingSheets
    (Delivery.deliverSheets p.tiles p.border p.font c.output)

def run (c : Command) : Running m Unit := do
  let p ← prepare c
  deliver c p
  note (p.diagnostics.map fun d => ⟨.run, .warn, "--" ++ d⟩)
  note [⟨.run, .info, s!"files written to {c.output}"⟩]

end PulpGame.Run
