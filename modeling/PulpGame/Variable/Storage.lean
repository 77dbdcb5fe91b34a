import PulpGame.Program.Interface
import PulpGame.Failure
import PulpGame.Ledger
import PulpGame.Journal

namespace PulpGame

def localsLimit : Nat := 200

def preambleLocals : Nat := 16

def loopLocals : Nat := 10 -- six for a loop over a table, four for the loop around it

namespace Variable

def fastLimit : Nat := localsLimit - preambleLocals - loopLocals

def fastDefault : Nat := 160

structure Storage where
  fast : List String
  dynamic : List String
deriving DecidableEq, Repr, Inhabited

/-- Variables that are used more come first, among equals the lesser name. -/
def before (a b : String × Nat) : Bool :=
  b.2 < a.2 || (a.2 == b.2 && decide (a.1 ≤ b.1))

def ranked (usage : List (String × Nat)) : List String :=
  (usage.mergeSort before).map (·.1)

namespace Storage

/-- Makes the first `capacity` variables locals that can be; a reserved name is fatal. -/
def allot (usage : List (String × Nat)) (capacity : Nat) : Except Failure Storage :=
  let names := ranked usage
  match names.find? isReserved with
  | some name => .error (.reservedVariable name)
  | none =>
    let fast := (names.filter isBare).take (min capacity fastLimit)
    .ok ⟨fast, names.filter fun n => !fast.contains n⟩

def entries (capacity : Nat) (result : Except Failure Storage) : List Journal.Entry :=
  (if fastLimit < capacity then
    [⟨.storage, .warn, s!"{capacity} fast slots requested, using {fastLimit}"⟩] else []) ++
    match result with
    | .ok s => [⟨.storage, .info, s!"Variables: {s.fast.length} fast, {s.dynamic.length} dynamic"⟩]
    | .error _ => []

def isFast (s : Storage) (name : String) : Bool := s.fast.contains name

def all (s : Storage) : List String := s.fast ++ s.dynamic

def reset (name : String) : Lua.Stat := .action (.assign (place name) (.numeral "0"))

def declare (s : Storage) : List Lua.Stat :=
  (s.fast.map fun n => .action (.declare n (.numeral "0"))) ++ s.dynamic.map reset

def asked : Lua.Expr := .name "varname"

def shadowedTable : Lua.Expr := Program.runtimeField "shadowed"

def namespacing : Lua.Stat :=
  .branchAction
    (.binary "or" (.invoke asked "find" [.string reserved]) (.index shadowedTable asked))
    (.assign asked (.concat [.string reserved, asked])) "keep clear of builtins"

def dispatch (s : Storage) (own : String → Lua.Action) (other : Lua.Action) : Lua.Stat :=
  match s.fast.map fun n => (Lua.Expr.binary "==" asked (.string n), own n) with
  | [] => .action other
  | first :: others => .choose first others other

def access (s : Storage) : List Lua.Stat :=
  let global : Lua.Expr := .index (.name "_G") asked
  [.action (.assign shadowedTable
      (.tableOf .inline (shadowed.map fun n => (n, .boolean true)))),
    .define (Program.runtimeField "setvariable") ["varname", "value"]
      [namespacing, s.dispatch (fun n => .assign (.name n) (.name "value"))
        (.assign global (.name "value"))],
    .define (Program.runtimeField "getvariable") ["varname"]
      [namespacing, s.dispatch (fun n => .giveBack (.name n)) (.giveBack global)],
    .define (Program.runtimeField "resetvars") [] (s.all.map reset)]

end Storage

end Variable

end PulpGame
