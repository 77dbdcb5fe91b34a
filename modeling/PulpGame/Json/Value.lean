import PulpGame.Number.Finite
import PulpGame.Number.Layout

namespace PulpGame.Json

inductive Number where
  | integer (n : Int)
  | double (x : Binary64) (isFinite : x.isFinite)
deriving DecidableEq, Repr

/-- Doubles always show a point or an exponent, the latter outside `1e-5` to `1e16`; of two nearest
decimals the one with the even last digit is taken. -/
def doubleLayout : Layout := ⟨some (-5, 15), true, .toEven⟩

def Number.text : Number → String
  | .integer n => toString n
  | .double x _ => doubleLayout.text x

def Number.isExact : Number → Bool
  | .integer n => Int64.minValue.toInt ≤ n && n < UInt64.size
  | .double _ _ => true

inductive Value where
  | null
  | boolean (value : Bool)
  | number (value : Number)
  | text (value : String)
  | list (items : List Value)
  | object (members : List (String × Value))
deriving Repr, Inhabited

def escapeChar (c : Char) : List Char :=
  if c = '"' then ['\\', '"']
  else if c = '\\' then ['\\', '\\']
  else if c = '\x08' then ['\\', 'b']
  else if c = '\x0c' then ['\\', 'f']
  else if c = '\n' then ['\\', 'n']
  else if c = '\r' then ['\\', 'r']
  else if c = '\t' then ['\\', 't']
  else if c.toNat < 32 then
    ['\\', 'u', '0', '0', Nat.digitChar (c.toNat / 16), Nat.digitChar (c.toNat % 16)]
  else [c]

def quote (s : String) : String := "\"" ++ String.ofList (s.toList.flatMap escapeChar) ++ "\""

namespace Value

mutual

def compact : Value → String
  | .null => "null"
  | .boolean value => if value then "true" else "false"
  | .number value => value.text
  | .text value => quote value
  | .list items => "[" ++ ",".intercalate (compactItems items) ++ "]"
  | .object members => "\x7b" ++ ",".intercalate (compactMembers members) ++ "\x7d"

def compactItems : List Value → List String
  | [] => []
  | v :: vs => v.compact :: compactItems vs

def compactMembers : List (String × Value) → List String
  | [] => []
  | (k, v) :: ms => (quote k ++ ":" ++ v.compact) :: compactMembers ms

end

end Value

/-- Puts a member into an object: a key that is there keeps its place and takes the new value. -/
def putMember (members : List (String × Value)) (key : String) (value : Value) :
    List (String × Value) :=
  if members.any (·.1 == key) then members.map fun m => if m.1 == key then (key, value) else m
  else members ++ [(key, value)]

end PulpGame.Json
