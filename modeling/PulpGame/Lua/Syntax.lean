import PulpGame.Lua.Token
/-!
The part of Lua in which programs are generated, and its text.

A tree keeps everything its text shows except blanks: parentheses are nodes of their own, and so are
comments. A field with a name for a key is written after a point, any other between brackets.
-/

namespace PulpGame.Lua

inductive TableLayout where
  | inline
  | lines (indent : Nat)
deriving DecidableEq, Repr

inductive Expr where
  | nil
  | boolean (value : Bool)
  | numeral (text : String)
  | string (value : String)
  | name (name : String)
  | field (table : Expr) (key : String)
  /-- A field whose key is written between brackets, whatever it is. -/
  | index (table key : Expr)
  | call (function : Expr) (arguments : List Expr)
  | callString (function : Expr) (argument : String)
  | invoke (object : Expr) (method : String) (arguments : List Expr)
  | binary (operator : String) (left right : Expr)
  | negation (operand : Expr)
  | concat (parts : List Expr)
  | group (inner : Expr)
  | tableOf (layout : TableLayout) (fields : List (String × Expr))
  | lambda (parameters : List String) (result : Expr)
deriving Repr, Inhabited

namespace Expr

def fieldText (table key : String) : String :=
  if isName key then table ++ "." ++ key else table ++ "[" ++ quote key ++ "]"

def tableText (layout : TableLayout) (fields : List String) : String :=
  if fields.isEmpty then "\x7b\x7d"
  else
    match layout with
    | .inline => "\x7b" ++ String.join (fields.map fun f => " " ++ f ++ ",") ++ " \x7d"
    | .lines indent =>
      let pad := String.ofList (List.replicate indent ' ')
      "\x7b\n" ++ ",\n".intercalate (fields.map (pad ++ ·)) ++ "\n\x7d"

mutual

def text : Expr → String
  | .nil => "nil"
  | .boolean value => if value then "true" else "false"
  | .numeral digits => digits
  | .string value => quote value
  | .name n => n
  | .field table key => fieldText table.text key
  | .index table key => table.text ++ "[" ++ key.text ++ "]"
  | .call f arguments => f.text ++ "(" ++ ", ".intercalate (texts arguments) ++ ")"
  | .callString f argument => f.text ++ " " ++ quote argument
  | .invoke object method arguments =>
    object.text ++ ":" ++ method ++ "(" ++ ", ".intercalate (texts arguments) ++ ")"
  | .binary op left right => left.text ++ " " ++ op ++ " " ++ right.text
  | .negation operand => "not " ++ operand.text
  | .concat parts => " .. ".intercalate (texts parts)
  | .group inner => "(" ++ inner.text ++ ")"
  | .tableOf layout fields => tableText layout (fieldTexts fields)
  | .lambda parameters result =>
    "function(" ++ ", ".intercalate parameters ++ ") return " ++ result.text ++ " end"

def texts : List Expr → List String
  | [] => []
  | e :: es => e.text :: texts es

def fieldTexts : List (String × Expr) → List String
  | [] => []
  | (key, e) :: fs => (key ++ " = " ++ e.text) :: fieldTexts fs

end

end Expr

inductive Action where
  | assign (target value : Expr)
  | call (call : Expr)
  | declare (name : String) (value : Expr)
  | declareConst (name : String) (value : Expr)
  /-- Leaves the function, wherever in its body. -/
  | leave
  | giveBack (value : Expr)
deriving Repr, Inhabited

def Action.text : Action → String
  | .assign target value => target.text ++ " = " ++ value.text
  | .call e => e.text
  | .declare name value => "local " ++ name ++ " = " ++ value.text
  | .declareConst name value => "local " ++ name ++ " <const> = " ++ value.text
  | .leave => "do return end"
  | .giveBack value => "return " ++ value.text

inductive Stat where
  | action (action : Action)
  | branch (condition : Expr) (body : List Stat)
  | branchElse (condition : Expr) (body other : List Stat)
  | branchAction (condition : Expr) (action : Action) (comment : String)
  | choose (first : Expr × Action) (others : List (Expr × Action)) (other : Action)
  | loop (condition : Expr) (body : List Stat)
  | forPairs (key value : String) (table : Expr) (body : List Stat)
  | forCount (counter : String) (last : Expr) (body : List Stat)
  | assignFunction (target : Expr) (parameters : List String) (body : List Stat)
  | define (target : Expr) (parameters : List String) (body : List Stat)
  | comment (text : String)
deriving Repr, Inhabited

namespace Stat

def line (depth : Nat) (code : String) : String :=
  String.ofList (List.replicate (2 * depth) ' ') ++ code ++ "\n"

def arm (word : String) (a : Expr × Action) : String :=
  word ++ " " ++ a.1.text ++ " then " ++ a.2.text

mutual

def text (depth : Nat) : Stat → String
  | .action a => line depth a.text
  | .branch condition body =>
    line depth ("if " ++ condition.text ++ " then") ++ String.join (texts (depth + 1) body) ++
      line depth "end"
  | .branchElse condition body other =>
    line depth ("if " ++ condition.text ++ " then") ++ String.join (texts (depth + 1) body) ++
      line depth "else" ++ String.join (texts (depth + 1) other) ++ line depth "end"
  | .branchAction condition a words =>
    line depth (arm "if" (condition, a) ++ " end -- " ++ words)
  | .choose first others other =>
    line depth (arm "if" first) ++ String.join (others.map fun a => line depth (arm "elseif" a)) ++
      line depth ("else " ++ other.text ++ " end")
  | .loop condition body =>
    line depth ("while " ++ condition.text ++ " do") ++ String.join (texts (depth + 1) body) ++
      line depth "end"
  | .forPairs key value table body =>
    line depth ("for " ++ key ++ ", " ++ value ++ " in pairs(" ++ table.text ++ ") do") ++
      String.join (texts (depth + 1) body) ++ line depth "end"
  | .forCount counter last body =>
    line depth ("for " ++ counter ++ " = 1, " ++ last.text ++ " do") ++
      String.join (texts (depth + 1) body) ++ line depth "end"
  | .assignFunction target parameters body =>
    line depth (target.text ++ " = function(" ++ ", ".intercalate parameters ++ ")") ++
      String.join (texts (depth + 1) body) ++ line depth "end"
  | .define target parameters body =>
    line depth ("function " ++ target.text ++ "(" ++ ", ".intercalate parameters ++ ")") ++
      String.join (texts (depth + 1) body) ++ line depth "end"
  | .comment words => line depth ("-- " ++ words)

def texts (depth : Nat) : List Stat → List String
  | [] => []
  | s :: ss => s.text depth :: texts depth ss

end

end Stat

def chunkText (body : List Stat) : String := String.join (Stat.texts 0 body)

end PulpGame.Lua
