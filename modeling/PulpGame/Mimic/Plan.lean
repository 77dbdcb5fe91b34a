import PulpGame.Ledger
import PulpGame.Journal
import PulpGame.Program.Interface

namespace PulpGame.Mimic

structure Group where
  script : String
  requests : List Request
deriving DecidableEq, Repr

def groups (requests : List Request) : List Group :=
  (requests.map Request.script).eraseDups.map fun s =>
    ⟨s, requests.filter fun r => r.script == s⟩

/-- Whether all that the group borrows is complete: its own handlers, those of scripts that borrow
nothing, and those of scripts that are resolved. -/
def Group.isReady (mimicking resolved : List String) (g : Group) : Bool :=
  g.requests.all fun r =>
    r.target == g.script || !mimicking.contains r.target || resolved.contains r.target

def order (mimicking : List String) (resolved : List String) (pending : List Group) :
    List Group × List Group :=
  match _h : pending.find? (·.isReady mimicking resolved) with
  | none => ([], pending) -- what is left never gets ready
  | some g =>
    let (ordered, cyclic) := order mimicking (g.script :: resolved)
      (pending.eraseP (·.isReady mimicking resolved))
    (g :: ordered, cyclic)
termination_by pending.length
decreasing_by
  have hmem := List.mem_of_find?_eq_some _h
  have hlength : (pending.eraseP (·.isReady mimicking resolved)).length = pending.length - 1 :=
    List.length_eraseP_of_mem hmem (List.find?_some _h)
  have hpos := List.length_pos_of_mem hmem
  omega

structure Plan where
  ordered : List Group
  cyclic : List Group
deriving DecidableEq, Repr

def plan (requests : List Request) : Plan :=
  let gs := groups requests
  let (ordered, cyclic) := order (gs.map Group.script) [] gs
  ⟨ordered, cyclic⟩

def Plan.entries (p : Plan) : List Journal.Entry :=
  p.cyclic.map fun g => ⟨.mimics, .warn, s!"mimics of `{g.script}` depend on a cycle"⟩

def Plan.orderedRequests (p : Plan) : List Request := p.ordered.flatMap Group.requests

def Plan.cyclicRequests (p : Plan) : List Request := p.cyclic.flatMap Group.requests

def passesDefault : Nat := 5

def Request.resolve (r : Request) : Lua.Stat :=
  let script := Program.script r.script
  let target := Program.script r.target
  if r.isWildcard then
    -- Only what the script does not have is copied.
    let own : Lua.Expr := .index script (.name "name")
    let isFunction : Lua.Expr :=
      .binary "==" (.call (.name "type") [.name "fn"]) (.string "function")
    .forPairs "name" "fn" target
      [.branch (.binary "and" (.negation own) isFunction) [.action (.assign own (.name "fn"))]]
  else
    .action (.assign (.field script r.event)
      (.binary "or" (.field target r.event) (.field target anyEvent)))

def Plan.resolve (p : Plan) (passes : Nat) : List Lua.Stat :=
  p.orderedRequests.map Request.resolve ++
    if p.cyclic.isEmpty then []
    else [.forCount "_" (.numeral (toString passes)) (p.cyclicRequests.map Request.resolve)]

def Plan.code (p : Plan) (passes : Nat) : String :=
  match p.resolve passes with
  | [] => ""
  | body => "\n" ++ Lua.chunkText (.comment "mimics" :: body)

end PulpGame.Mimic
