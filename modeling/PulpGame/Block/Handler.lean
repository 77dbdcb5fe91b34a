import PulpGame.Block.Reading
import PulpGame.Ledger
import PulpGame.Program.Interface
/-!
Event handlers out of blocks.

A block that a statement refers to is written in its place, so it may be referred to any number
of times, but not from within itself: a block can be opened only while it is among those that are
not open yet, which also bounds the nesting.
-/

namespace PulpGame

namespace Block

/-- A computation that takes notes and may fail; a failure keeps the notes taken before it. -/
abbrev Noting := ExceptT Fault (StateM (List Note))

def note (n : Note) : Noting Unit := modify (· ++ [n])

structure Site where
  script : String
  event : String
  tileId? : String → Option Int

def Operator.symbol : Operator → String
  | .plus => "+"
  | .minus => "-"
  | .times => "*"
  | .over => "/"
  | .equal => "=="
  | .unequal => "~="
  | .less => "<"
  | .greater => ">"
  | .atMost => "<="
  | .atLeast => ">="

def Function.localName : Function → String
  | .floor => "__floor"
  | .ceil => "__ceil"
  | .round => "__round"
  | .sin => "__sin"
  | .cos => "__cos"
  | .tan => "__tan"

def Update.symbol : Update → String
  | .add => "+"
  | .sub => "-"
  | .mul => "*"
  | .div => "/"

def Site.unsupported (site : Site) (what word : String) : Note :=
  .diagnostic (s!"unsupported {what} `{word}` in " ++ site.script ++ "." ++ site.event)

def formatted (parts : List Lua.Expr) : Lua.Expr :=
  match parts with
  | [] => .string ""
  | _ => .group (.concat (parts.map fun p => .call (.name "__tostring") [p]))

mutual

def Expr.toLua (site : Site) : Expr → Noting Lua.Expr
  | .number n => return .numeral n.text
  | .text s => return .string s
  | .boolean b => return .boolean b
  | .nothing => return .nil
  | .var name => do
    note (.use name)
    return Variable.place name
  | .tile name => do
    match site.tileId? name with
    | some id => return .numeral (toString id)
    | none =>
      note (.diagnostic s!"unknown tile `{name}`")
      return .nil
  | .event key => return .field (.name "event") key
  | .format parts => return formatted (← Expr.allToLua site parts)
  | .binary op left right => do
    let l ← left.toLua site
    let r ← right.toLua site
    return .group (.binary op.symbol l r)
  | .apply f operand => do
    let x ← operand.toLua site
    return .call (.name f.localName) [x]
  | .random least greatest => do
    let l ← least.toLua site
    let g ← greatest.toLua site
    return .call (.name "__random") [l, g]
  | .unsupported word => do
    note (site.unsupported "expression" word)
    return .nil
  | .malformed fault => throw fault

def Expr.allToLua (site : Site) : List Expr → Noting (List Lua.Expr)
  | [] => return []
  | e :: es => do
    let x ← e.toLua site
    let xs ← Expr.allToLua site es
    return x :: xs

end

def Statement.toLua (site : Site) (block : Nat → Noting (List Lua.Stat)) :
    Statement → Noting Lua.Stat
  | .set name value => do
    let v ← value.toLua site
    note (.use name)
    return .action (.assign (Variable.place name) v)
  | .increment name => do
    note (.use name)
    let var := Variable.place name
    return .action (.assign var (.binary "+" var (.numeral "1")))
  | .decrement name => do
    note (.use name)
    let var := Variable.place name
    return .action (.assign var (.binary "-" var (.numeral "1")))
  | .update name how operand => do
    let v ← operand.toLua site
    note (.use name)
    let var := Variable.place name
    return .action (.assign var (.binary how.symbol var (.group v)))
  | .branch condition body other => do
    let c ← condition.toLua site
    let b ← block (← liftExcept body)
    match other with
    | none => return .branch c b
    | some other =>
      let o ← block (← liftExcept other)
      return .branchElse c b o
  | .loop condition body => do
    let c ← condition.toLua site
    let b ← block (← liftExcept body)
    return .loop c b
  | .mimic target => do
    note (.mimic ⟨site.script, site.event, target⟩)
    return .comment ("mimic " ++ Lua.quote target)
  | .done => return .action .leave
  | .log value => do
    let v ← value.toLua site
    return .action (.call (.call (.name "__print") [v]))
  | .say value => do
    let v ← value.toLua site
    return Program.runtimeCall "say" [.name "__self", .name "event", v]
  | .call event => return Program.runtimeCall "call" [.name "__self", .string event, .name "event"]
  | .emit event => return Program.runtimeCall "emit" [.string event, .name "event"]
  | .sound value => do
    let v ← value.toLua site
    return Program.runtimeCall "sound" [v]
  | .goto operands => do
    let vs ← Expr.allToLua site operands
    if vs.length < 2 then throw .gotoOperands
    return Program.runtimeCall "gotoroom" vs
  | .unsupported word => do
    note (site.unsupported "statement" word)
    return .comment ("unsupported: " ++ Lua.escape word)
  | .malformed fault => throw fault
where
  liftExcept {α : Type} : Except Fault α → Noting α
    | .ok a => pure a
    | .error fault => throw fault

/-- The block of that number, where those of `closed` may be opened in it. -/
def toLua (site : Site) (bodies : List Body) (closed : List Nat) (index : Nat) :
    Noting (List Lua.Stat) :=
  match bodies[index]? with
  | none => throw (.missingBlock index)
  | some none => throw (.notAList index)
  | some (some statements) =>
    if _h : index ∈ closed then
      statements.mapM
        (Statement.toLua site fun i => toLua site bodies (closed.erase index) i)
    else throw (.containsItself index)
termination_by closed.length
decreasing_by
  have := List.length_erase_of_mem _h
  have := List.length_pos_of_mem _h
  omega

def handler (site : Site) (blocks : List Json.Value) (root : Nat) : Noting Lua.Stat := do
  let body ← toLua site (blocks.map Body.ofValue) (List.range blocks.length) root
  return .assignFunction (.field (Program.script site.script) site.event) ["__self", "event"] body

end Block

end PulpGame
