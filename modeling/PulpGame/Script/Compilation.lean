import PulpGame.Block.Handler
import PulpGame.Document.Basic
import PulpGame.Failure
import PulpGame.Journal

namespace PulpGame

/-- A computation on the ledger and the state of an event compiler. A failure keeps both. -/
abbrev Compiling (σ : Type) := ExceptT Failure (StateM (σ × Ledger))

abbrev EventCompiler (σ : Type) :=
  (script event : String) → (blocks : List Json.Value) → (root : Nat) → Compiling σ String

namespace Compiling

variable {σ : Type}

def ledger : Compiling σ Ledger := return (← get).2

def modifyLedger (f : Ledger → Ledger) : Compiling σ Unit := modify fun (s, l) => (s, f l)

def note (n : Note) : Compiling σ Unit := modifyLedger (·.note n)

end Compiling

/-- Compiles blocks. What it notes depends on the ledger only through the ids of the tiles. -/
def blockCompiler : EventCompiler Unit := fun script event blocks root => do
  let site : Block.Site := ⟨script, event, (← Compiling.ledger).tileId?⟩
  let (result, notes) := (Block.handler site blocks root).run.run []
  Compiling.modifyLedger fun l => { l with notes := l.notes ++ notes }
  match result with
  | .ok handler => return Lua.chunkText [handler]
  | .error fault => throw (.malformedBlock script event fault)

structure CompiledScript where
  name : String
  code : String
deriving DecidableEq, Repr, Inhabited

namespace Script

def blocksKey : String := "__blocks"

def blocks (data : List (String × Json.Value)) : List Json.Value :=
  match data.find? (·.1 == blocksKey) with
  | some (_, .list blocks) => blocks
  | _ => []

def nameAt {α : Type} (entities : List (Option α)) (name : α → String) (id : Int) : Option String :=
  if id < 0 then none else ((entities[id.toNat]?).join).map name

def ownerName? (doc : Document) : Owner → Int → Option String
  | .global, id => if id = 0 then some "game" else none
  | .room, id => nameAt doc.rooms Room.name id
  | .tile, id => nameAt doc.tiles Tile.name id

/-- The name of a script. An owner that does not exist is noted and gets a name of its own. -/
def name {σ : Type} (doc : Document) (owner : Owner) (id : Int) : Compiling σ String :=
  match ownerName? doc owner id with
  | some name => pure name
  | none => do
    Compiling.note (.diagnostic s!"unknown script, type {owner.toNat}, id {id}")
    return s!"__UNKNOWN_SCRIPT_{owner.toNat}_{id}"

/-- The lines that make a script known. It is bound to its name if that can be a name in Lua. -/
def registration (name : String) (owner : Owner) (id : Int) : List Lua.Stat :=
  Program.runtimeCall "newScript" [.string name] ::
    ((if Lua.isName name then [.action (.assign (.name name) (Program.script name))] else []) ++
      [Program.runtimeCall "associateScript"
        [.string name, .string owner.word, .numeral (toString id)]])

def events (data : List (String × Json.Value)) : List (String × Json.Value) :=
  data.filter fun (key, _) => !Variable.isReserved key

def compileEvent {σ : Type} (compiler : EventCompiler σ) (script : String)
    (blocks : List Json.Value) (event : String × Json.Value) : Compiling σ String :=
  match Block.ref? event.2 with
  | some root => compiler script event.1 blocks root
  | none => throw (.malformedEvent script event.1)

def compile {σ : Type} (doc : Document) (compiler : EventCompiler σ) (script : Script) :
    Compiling σ (CompiledScript × Nat) := do
  match Owner.ofNat? script.kind with
  | none => throw (.unknownOwner script.kind)
  | some owner =>
    let name ← Script.name doc owner script.id
    let data := script.data.getD []
    let bodies ← (events data).mapM (compileEvent compiler name (blocks data))
    let code := Lua.chunkText (registration name owner script.id) ++
      String.join (bodies.map ("\n" ++ ·))
    return (⟨name, code⟩, bodies.length)

end Script

structure Compilation where
  done : List (CompiledScript × Nat)
  failure : Option Failure

namespace Compilation

def compileAll {σ : Type} (doc : Document) (compiler : EventCompiler σ) :
    List Script → StateM (σ × Ledger) Compilation
  | [] => return ⟨[], none⟩
  | s :: ss => do
    match ← (s.compile doc compiler).run with
    | .error e => return ⟨[], some e⟩
    | .ok c =>
      let rest ← compileAll doc compiler ss
      return { rest with done := c :: rest.done }

def entries (c : Compilation) : List Journal.Entry :=
  c.done.map (fun (s, events) => ⟨.scripts, .debug, s!"script `{s.name}`: {events} events"⟩) ++
    match c.failure with
    | none => [⟨.scripts, .info, s!"Compiled {c.done.length} scripts"⟩]
    | some _ => []

def result (c : Compilation) : Except Failure (List CompiledScript) :=
  match c.failure with
  | none => .ok (c.done.map (·.1))
  | some e => .error e

end Compilation

end PulpGame
