import PulpGame.Block.Syntax

namespace PulpGame.Block

open Json (Value)

def ref? : Value → Option Nat
  | .list [.text "block", .number (.integer (.ofNat n))] => some n
  | _ => none

def Ref.ofValue (v : Value) : Ref :=
  match ref? v with
  | some n => .ok n
  | none => .error (.notABlock v)

def name (operands : List Value) (i : Nat) : Except Fault String :=
  match operands[i]? with
  | none => .error (.missingOperand (i + 1))
  | some (.text s) => .ok s
  | some _ => .error (.notAName (i + 1))

def refOperand (operands : List Value) (i : Nat) : Ref :=
  match operands[i]? with
  | none => .error (.missingOperand (i + 1))
  | some v => Ref.ofValue v

namespace Expr

def named (operands : List Value) (make : String → Expr) : Expr :=
  match name operands 0 with
  | .ok s => make s
  | .error fault => .malformed fault

def operand (operands : List Expr) (i : Nat) : Expr :=
  (operands[i]?).getD (.malformed (.missingOperand (i + 1)))

def operation (word : String) (values : List Value) (operands : List Expr) : Expr :=
  match word with
  | "var" => named values .var
  | "id" => named values .tile
  | "event" => named values .event
  | "fmt" => .format operands
  | "random" => .random (operand operands 0) (operand operands 1)
  | _ =>
    match Operator.ofWord? word, Function.ofWord? word with
    | some op, _ => .binary op (operand operands 0) (operand operands 1)
    | none, some f => .apply f (operand operands 0)
    | none, none => .unsupported word

mutual

def ofValue : Value → Expr
  | .null => .nothing
  | .boolean b => .boolean b
  | .number n => .number n
  | .text s => .text s
  | .object _ => .malformed .objectValue
  | .list (.text word :: operands) => operation word operands (ofValues operands)
  | .list items => .malformed (.notAnOperation (.list items))

def ofValues : List Value → List Expr
  | [] => []
  | v :: vs => ofValue v :: ofValues vs

end

end Expr

namespace Statement

def named (operands : List Value) (make : String → Statement) : Statement :=
  match name operands 0 with
  | .ok s => make s
  | .error fault => .malformed fault

def operand (operands : List Value) (i : Nat) : Expr := Expr.operand (Expr.ofValues operands) i

def updating (operands : List Value) (how : Update) : Statement :=
  named operands fun s => .update s how (operand operands 1)

def operation (word : String) (operands : List Value) : Statement :=
  match word with
  | "set" => named operands fun s => .set s (operand operands 1)
  | "inc" => named operands .increment
  | "dec" => named operands .decrement
  | "add" => updating operands .add
  | "sub" => updating operands .sub
  | "mul" => updating operands .mul
  | "div" => updating operands .div
  | "if" =>
    .branch (operand operands 0) (refOperand operands 1) ((operands[2]?).map Ref.ofValue)
  | "while" => .loop (operand operands 0) (refOperand operands 1)
  | "mimic" => named operands .mimic
  | "done" => .done
  | "log" => .log (operand operands 0)
  | "say" => .say (operand operands 0)
  | "call" => named operands .call
  | "emit" => named operands .emit
  | "sound" => .sound (operand operands 0)
  | "goto" => .goto (Expr.ofValues (operands.take 3))
  | _ => .unsupported word

def ofValue : Value → Statement
  | .list (.text word :: operands) => operation word operands
  | v => .malformed (.notAnOperation v)

end Statement

def Body.ofValue : Value → Body
  | .list items => some (items.map Statement.ofValue)
  | _ => none

end PulpGame.Block
