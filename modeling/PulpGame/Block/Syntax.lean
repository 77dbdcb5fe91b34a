import PulpGame.Json.Value
/-!
The blocks of a script: statements and expressions as they were authored.

Writing a block as code has effects in the order of its operands, up to the first one that is
malformed. So a tree can be malformed in places: what cannot be read stands in the tree where it was
found.
-/

namespace PulpGame.Block

inductive Fault where
  | notAList (block : Nat)
  | missingBlock (block : Nat)
  | containsItself (block : Nat)
  | notAnOperation (found : Json.Value)
  | missingOperand (position : Nat)
  | notAName (position : Nat)
  | notABlock (found : Json.Value)
  | objectValue
  | gotoOperands
  | other (reason : String)
deriving Repr, Inhabited

def Fault.message : Fault → String
  | .notAList block => s!"block {block} is not a list"
  | .missingBlock block => s!"block {block} does not exist"
  | .containsItself block => s!"block {block} contains itself"
  | .notAnOperation found => "expected [op, ...], got " ++ found.compact
  | .missingOperand position => s!"missing operand {position}"
  | .notAName position => s!"operand {position} must be a name"
  | .notABlock found => "expected [\"block\", n], got " ++ found.compact
  | .objectValue => "objects are not expressions"
  | .gotoOperands => "goto needs x and y"
  | .other reason => reason

inductive Operator where
  | plus
  | minus
  | times
  | over
  | equal
  | unequal
  | less
  | greater
  | atMost
  | atLeast
deriving DecidableEq, Repr

def Operator.ofWord? : String → Option Operator
  | "+" => some .plus
  | "-" => some .minus
  | "*" => some .times
  | "/" => some .over
  | "==" => some .equal
  | "!=" => some .unequal
  | "<" => some .less
  | ">" => some .greater
  | "<=" => some .atMost
  | ">=" => some .atLeast
  | _ => none

inductive Function where
  | floor
  | ceil
  | round
  | sin
  | cos
  | tan
deriving DecidableEq, Repr

def Function.ofWord? : String → Option Function
  | "floor" => some .floor
  | "ceil" => some .ceil
  | "round" => some .round
  | "sin" => some .sin
  | "cos" => some .cos
  | "tan" => some .tan
  | _ => none

inductive Expr where
  | number (value : Json.Number)
  | text (value : String)
  | boolean (value : Bool)
  | nothing
  | var (name : String)
  | tile (name : String)
  | event (key : String)
  | format (parts : List Expr)
  | binary (operator : Operator) (left right : Expr)
  | apply (function : Function) (operand : Expr)
  | random (least greatest : Expr)
  | unsupported (word : String)
  | malformed (fault : Fault)
deriving Repr, Inhabited

abbrev Ref := Except Fault Nat

inductive Update where
  | add
  | sub
  | mul
  | div
deriving DecidableEq, Repr

inductive Statement where
  | set (name : String) (value : Expr)
  | increment (name : String)
  | decrement (name : String)
  | update (name : String) (how : Update) (operand : Expr)
  | branch (condition : Expr) (body : Ref) (other : Option Ref)
  | loop (condition : Expr) (body : Ref)
  | mimic (target : String)
  | done
  | log (value : Expr)
  | say (value : Expr)
  | call (event : String)
  | emit (event : String)
  | sound (value : Expr)
  /-- At least two coordinates and at most a room. -/
  | goto (operands : List Expr)
  | unsupported (word : String)
  | malformed (fault : Fault)

/-- A block is a list of statements; nothing stands for what is no list. -/
abbrev Body := Option (List Statement)

end PulpGame.Block
