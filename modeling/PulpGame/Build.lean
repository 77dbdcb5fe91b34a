import PulpGame.Entity.Tables
import PulpGame.Mimic.Plan
import PulpGame.Program.Sections
import PulpGame.Sheet.Basic
import PulpGame.Variable.Storage

namespace PulpGame

structure Settings where
  fastSlots : Nat := Variable.fastDefault
  passes : Nat := Mimic.passesDefault
deriving DecidableEq, Repr

structure Product where
  program : String
  tiles : Sheet.Image
  border : Sheet.Image
  font : Sheet.Image
  storage : Variable.Storage
  diagnostics : List String

inductive Stage where
  | frames
  | border
  | font
  | tiles
  | scripts
  | storage
deriving DecidableEq, Repr

def Stage.words : Stage → String
  | .frames => "Rendering tile frames"
  | .border => "Rendering border"
  | .font => "Rendering font"
  | .tiles => "Serializing tiles"
  | .scripts => "Compiling scripts"
  | .storage => "Allocating variables"

structure BuildFailure where
  stage : Stage
  failure : Failure
deriving Repr

/-- A build with an event compiler, whose state outlives a failure. -/
abbrev Building (σ : Type) := ExceptT BuildFailure (StateM (σ × List Journal.Entry))

namespace Building

variable {σ α : Type}

def write (entries : List Journal.Entry) : Building σ Unit := modify fun (s, j) => (s, j ++ entries)

def step (stage : Stage) : Except Failure α → Building σ α
  | .ok a => pure a
  | .error e => throw ⟨stage, e⟩

end Building

def Document.buildWith {σ : Type} (doc : Document) (settings : Settings)
    (compiler : EventCompiler σ) : Building σ Product := do
  let packing := Sheet.pack doc.frames
  Building.write (packing.entries doc.frames)
  let tiles ← Building.step .frames (Sheet.frameStrip packing)
  let border ← Building.step .border (Sheet.glyphStrip doc.font.border)
  let font ← Building.step .font (Sheet.glyphStrip doc.font.glyphs)
  let (tileTable, ledger) := (Entity.tileTable packing doc.tiles).run.run {}
  let tileTable ← Building.step .tiles tileTable
  let (compilation, state, ledger) :=
    (Compilation.compileAll doc compiler doc.scripts).run ((← get).1, ledger)
  modify fun (_, j) => (state, j ++ compilation.entries)
  let scripts ← Building.step .scripts compilation.result
  let allotted := Variable.Storage.allot ledger.usage settings.fastSlots
  Building.write (Variable.Storage.entries settings.fastSlots allotted)
  let storage ← Building.step .storage allotted
  let plan := Mimic.plan ledger.mimics
  Building.write plan.entries
  let sections : Sections := {
    declarations := Lua.chunkText storage.declare
    tiles := tileTable
    rooms := Entity.roomTable doc.rooms
    sounds := Entity.soundTable doc.sounds
    scripts := scripts
    mimics := plan.code settings.passes
    accessors := Lua.chunkText storage.access }
  return {
    program := Program.text doc sections
    tiles := tiles
    border := border
    font := font
    storage := storage
    diagnostics := ledger.diagnostics }

def Document.build (doc : Document) (settings : Settings) : Journaled BuildFailure Product :=
  fun journal =>
    let (result, _, journal) := (doc.buildWith settings blockCompiler).run.run ((), journal)
    (result, journal)

end PulpGame
