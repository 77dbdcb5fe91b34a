import PulpGame.Number.Layout
/-!
The words of Lua: names, numerals, and string literals between double quotes and long brackets.

A long bracket of level `n` has `n` equals signs between its two square brackets. A literal takes
the least level whose closing bracket does not occur in the text, the last character of which may
pair with the closing bracket itself.
-/
namespace PulpGame.Lua

def keywords : List String :=
  ["and", "break", "do", "else", "elseif", "end", "false", "for", "function", "goto", "if", "in",
    "local", "nil", "not", "or", "repeat", "return", "then", "true", "until", "while"]

def isNameStart (c : Char) : Bool := c.isAlpha || c == '_'

def isNamePart (c : Char) : Bool := c.isAlphanum || c == '_'

/-- Letters, digits and underscores, no digit at the front. Letters beyond ASCII do not count. -/
def isWord : List Char → Bool
  | [] => false
  | c :: cs => isNameStart c && cs.all isNamePart

def isName (s : String) : Bool := isWord s.toList && !keywords.contains s

/-- All digits are written out and a whole number has no point; of two nearest decimals the greater
one is taken. -/
def numeralLayout : Layout := ⟨none, false, .up⟩

def numeral (x : Binary64) : String := numeralLayout.text x

def digitChar (d : Nat) : Char := Char.ofNat (48 + d)

def isControl (c : Char) : Bool := c.toNat < 32 || c.toNat == 127

def escapeChar (c : Char) : List Char :=
  if c = '\\' then ['\\', '\\']
  else if c = '"' then ['\\', '"']
  else if c = '\n' then ['\\', 'n']
  else if c = '\r' then ['\\', 'r']
  else if c = '\t' then ['\\', 't']
  else if isControl c then
    ['\\', digitChar (c.toNat / 100), digitChar (c.toNat / 10 % 10), digitChar (c.toNat % 10)]
  else [c]

def escape (s : String) : String := String.ofList (s.toList.flatMap escapeChar)

def quote (s : String) : String := "\"" ++ escape s ++ "\""

def occurs (needle : List Char) : List Char → Bool
  | [] => needle.isEmpty
  | c :: cs => needle.isPrefixOf (c :: cs) || occurs needle cs

def closingBracket (level : Nat) : List Char := ']' :: (List.replicate level '=' ++ [']'])

def openingBracket (level : Nat) : List Char := '[' :: (List.replicate level '=' ++ ['['])

def freeLevel (cs : List Char) (level fuel : Nat) : Nat :=
  match fuel with
  | 0 => level
  | fuel + 1 => if occurs (closingBracket level) cs then freeLevel cs (level + 1) fuel else level

def bracketLevel (text : List Char) : Nat :=
  -- A text of `n` characters holds closing brackets of fewer than `n + 1` levels.
  freeLevel (text ++ [']']) 0 (text.length + 1)

def startsLine : List Char → Bool
  | c :: _ => c == '\n' || c == '\r'
  | [] => false

def longBracketChars (text : List Char) : List Char :=
  let level := bracketLevel text
  -- A line break right after the opening bracket is not part of a literal.
  openingBracket level ++ (if startsLine text then ['\n'] else []) ++ text ++ closingBracket level

def longBracket (s : String) : String := String.ofList (longBracketChars s.toList)

end PulpGame.Lua
