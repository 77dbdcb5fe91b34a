import PulpGame.Lua.Token

namespace PulpGame.Entity

inductive Literal where
  | integer (value : Int)
  | numeral (value : Binary64)
  | boolean (value : Bool)
  | quoted (value : String)
  | passage (value : String)
deriving DecidableEq, Repr

def Literal.text : Literal → String
  | .integer value => toString value
  | .numeral value => Lua.numeral value
  | .boolean value => if value then "true" else "false"
  | .quoted value => Lua.quote value
  | .passage value => Lua.longBracket value

structure Scalar where
  key : String
  value : Literal
deriving DecidableEq, Repr

def Scalar.line (indent : Nat) (s : Scalar) : String :=
  String.ofList (List.replicate indent ' ') ++ s.key ++ " = " ++ s.value.text ++ ",\n"

inductive Content where
  | literal (value : Literal)
  | places (values : List Nat)
  | grid (width : Nat) (values : List Int)
  | numerals (values : List Binary64)
  | records (values : List (List Scalar))
deriving DecidableEq, Repr

def padded (n : Int) : String :=
  let digits := toString n
  String.ofList (List.replicate (4 - digits.length) ' ') ++ digits

def cellText (width place : Nat) (n : Int) : String :=
  (if place % width = 0 then "\n    " else "") ++ padded n ++ ","

def gridText (width : Nat) (values : List Int) : String :=
  String.join (values.zipIdx.map fun (n, place) => cellText width place n)

def recordText (fields : List Scalar) : String :=
  "    \x7b\n" ++ String.join (fields.map (Scalar.line 6)) ++ "    \x7d,\n"

def Content.text : Content → String
  | .literal value => value.text
  | .places values => "\x7b" ++ String.join (values.map fun n => s!" {n},") ++ " \x7d"
  | .grid width values => "\x7b" ++ gridText width values ++ " \x7d"
  | .numerals values =>
    "\x7b" ++ String.join (values.map fun x => Lua.numeral x ++ ", ") ++ "\x7d"
  | .records values => "\x7b\n" ++ String.join (values.map recordText) ++ "  \x7d"

structure Field where
  key : String
  content : Content
deriving DecidableEq, Repr

def Field.text (indent : Nat) (f : Field) : String :=
  String.ofList (List.replicate indent ' ') ++ f.key ++ " = " ++ f.content.text ++ ",\n"

def one (key : String) (value : Literal) : List Field := [⟨key, .literal value⟩]

def maybe {α : Type} (key : String) (make : α → Literal) : Option α → List Field
  | some a => one key (make a)
  | none => []

structure Record where
  id : Int
  fields : List Field
deriving DecidableEq, Repr

def Record.text (table : String) (indent : Nat) (r : Record) : String :=
  s!"__pulp.{table}[{r.id}] = \x7b\n" ++ String.join (r.fields.map (Field.text indent)) ++ "\x7d\n"

def tableText (table : String) (indent : Nat) (records : List Record) : String :=
  s!"\n__pulp.{table} = \x7b\x7d\n" ++ String.join (records.map (Record.text table indent))

end PulpGame.Entity
