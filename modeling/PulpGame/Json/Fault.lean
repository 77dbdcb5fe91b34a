import PulpGame.Json.Value
import PulpGame.Text.Display

namespace PulpGame.Json

inductive Found where
  | null
  | boolean (value : Bool)
  | number (value : Number)
  | text (value : String)
  | sequence
  | mapping
deriving DecidableEq, Repr

def Found.words : Found → String
  | .null => "null"
  | .boolean value => s!"boolean `{value}`"
  | .number (.integer n) => s!"integer `{n}`"
  | .number (.double x _) => "floating point `" ++ doubleLayout.text x ++ "`"
  | .text value => "string " ++ Text.display value
  | .sequence => "sequence"
  | .mapping => "map"

inductive Fault where
  | endInValue
  | endInList
  | endInObject
  | endInText
  | valueExpected
  | wordExpected
  | colonExpected
  | listSeparatorExpected
  | objectSeparatorExpected
  | keyExpected
  | trailingComma
  | trailingText
  | badNumber
  | numberTooLarge
  | badEscape
  | pairCutShort
  | loneSurrogate
  | controlCharacter
  | tooDeep
  | unexpected (found : Found) (wanted : String)
  | outOfRange (n : Int) (wanted : String)
  | missingField (name : String)
  | duplicateField (name : String)
  | tooShort (length : Nat) (record : String) (size : Nat)
  | notAnEntity
deriving DecidableEq, Repr

def Fault.message : Fault → String
  | .endInValue => "EOF while parsing a value"
  | .endInList => "EOF while parsing a list"
  | .endInObject => "EOF while parsing an object"
  | .endInText => "EOF while parsing a string"
  | .valueExpected => "expected value"
  | .wordExpected => "expected ident"
  | .colonExpected => "expected `:`"
  | .listSeparatorExpected => "expected `,` or `]`"
  | .objectSeparatorExpected => "expected `,` or `\x7d`"
  | .keyExpected => "key must be a string"
  | .trailingComma => "trailing comma"
  | .trailingText => "trailing characters"
  | .badNumber => "invalid number"
  | .numberTooLarge => "number out of range"
  | .badEscape => "invalid escape"
  | .pairCutShort => "unexpected end of hex escape"
  | .loneSurrogate => "lone leading surrogate in hex escape"
  | .controlCharacter => "control character (\\u0000-\\u001F) found while parsing a string"
  | .tooDeep => "recursion limit exceeded"
  | .unexpected found wanted => "invalid type: " ++ found.words ++ ", expected " ++ wanted
  | .outOfRange n wanted => s!"invalid value: integer `{n}`, expected {wanted}"
  | .missingField name => "missing field `" ++ name ++ "`"
  | .duplicateField name => "duplicate field `" ++ name ++ "`"
  | .tooShort length record size =>
    s!"invalid length {length}, expected {record} with {size} elements"
  | .notAnEntity => "data did not match any variant of untagged enum Slot"

/-- What keeps a text from being read on, as the two manners of reading report it: with everything
kept, or with the value only skipped. -/
structure Defect where
  kept : Fault
  skipped : Fault
deriving DecidableEq, Repr

def Defect.plain (f : Fault) : Defect := ⟨f, f⟩

end PulpGame.Json
