import PulpGame.Pattern.Reader
import PulpGame.Pattern.Syntax

namespace PulpGame.Pattern

/-- Characters that stand for themselves behind a backslash: of ASCII all but letters, digits and
the two signs that are assertions. -/
def isEscapable (c : Char) : Bool := c.toNat < 128 && !c.isAlphanum && c ≠ '<' && c ≠ '>'

def controlLetter? : Char → Option Char
  | 'a' => some '\x07'
  | 'f' => some '\x0c'
  | 't' => some '\t'
  | 'n' => some '\n'
  | 'r' => some '\r'
  | 'v' => some '\x0b'
  | _ => none

def assertionLetter? : Char → Option Assertion
  | 'A' => some .textStart
  | 'z' => some .textEnd
  | 'b' => some .wordBoundary
  | 'B' => some .noWordBoundary
  | '<' => some .wordStart
  | '>' => some .wordEnd
  | _ => none

def shorthandLetter? : Char → Option (Shorthand × Bool)
  | 'd' => some (.digit, false)
  | 's' => some (.space, false)
  | 'w' => some (.word, false)
  | 'D' => some (.digit, true)
  | 'S' => some (.space, true)
  | 'W' => some (.word, true)
  | _ => none

def Assertion.ofWord? : String → Option Assertion
  | "start" => some .wordStart
  | "end" => some .wordEnd
  | "start-half" => some .wordStartHalf
  | "end-half" => some .wordEndHalf
  | _ => none

def hexValue? (c : Char) : Option Nat :=
  if c.isDigit then some (c.toNat - '0'.toNat)
  else if 'a' ≤ c ∧ c ≤ 'f' then some (c.toNat - 'a'.toNat + 10)
  else if 'A' ≤ c ∧ c ≤ 'F' then some (c.toNat - 'A'.toNat + 10)
  else none

def ofHex? (digits : List Char) : Option Char :=
  let n := digits.foldl (fun n c => n * 16 + (hexValue? c).getD 0) 0
  if h : n.isValidChar then some (Char.ofNatAux n h) else none

namespace Reading

def hexWidth? : Char → Option Nat
  | 'x' => some 2
  | 'u' => some 4
  | 'U' => some 8
  | _ => none

def hexDigits : Nat → Reading (List Char)
  | 0 => return []
  | n + 1 => do
    match ← peek with
    | none => fail .escapeUnfinished (.empty (← here))
    | some c =>
      if (hexValue? c).isNone then fail .hexDigitInvalid (← charSpan)
      advance
      return c :: (← hexDigits n)

def bracedHex : Reading Char := do
  let brace ← here
  let start := (← charSpan).stop
  advance
  let digits ← takeWhile fun c => (hexValue? c).isSome
  match ← peek with
  | none => fail .escapeUnfinished (← since brace)
  | some '\x7d' => pure ()
  | some _ => fail .hexDigitInvalid (← charSpan)
  let stop ← here
  advance
  if digits.isEmpty then fail .hexEmpty (← since brace)
  match ofHex? digits with
  | none => fail .hexInvalid ⟨start, stop⟩
  | some c => return c

def hexLiteral (start : Position) (width : Nat) : Reading Term := do
  advance
  match ← peek with
  | none => fail .escapeUnfinished (.empty (← here))
  | some '\x7b' =>
    let c ← bracedHex
    return .literal { span := ← since start, value := c }
  | some _ =>
    let first ← here
    let digits ← hexDigits width
    match ofHex? digits with
    | none => fail .hexInvalid (← since first)
    | some c => return .literal { span := ← since start, value := c, byte := width == 2 }

def propertyName? (name : List Char) : Option String :=
  if name.contains ':' || name.contains '=' then none else some (String.ofList name)

def property (start : Position) (negated : Bool) : Reading Term := do
  advance
  match ← peek with
  | none => fail .escapeUnfinished (.empty (← here))
  | some '\x7b' =>
    advance
    let name ← takeWhile (· ≠ '\x7d')
    if ← atEnd then fail .escapeUnfinished (.empty (← here))
    bump
    return .property (← since start) (propertyName? name) negated
  | some '\\' => fail .propertyInvalid (← charSpan)
  | some c =>
    advance
    return .property (← since start) (some (String.singleton c)) negated

/-- Reads a word between braces behind a word boundary. What is no word may be a count, and is left
to be read as one. -/
def boundaryWord? (start : Position) : Reading (Option Assertion) := do
  let before ← get
  let brace ← here
  let isPart (c : Char) : Bool := c.isAlpha || c == '-'
  advance
  match ← peek with
  | none => fail .boundaryUnfinished (← since start)
  | some c =>
    if isPart c then
      let first ← here
      let word ← takeWhile isPart
      if (← peek) ≠ some '\x7d' then fail .boundaryUnclosed (← since brace)
      let stop ← here
      bump
      match Assertion.ofWord? (String.ofList word) with
      | some a => return some a
      | none => fail .boundaryUnrecognized ⟨first, stop⟩
    else
      set before
      return none

def assertion (start : Position) (a : Assertion) : Reading Term := do
  let span ← since start
  if a = .wordBoundary ∧ (← peek) = some '\x7b' then
    match ← boundaryWord? start with
    | some word => return .assertion (← since start) word
    | none => return .assertion span a
  else
    return .assertion span a

def escape : Reading Term := do
  let start ← here
  bump
  match ← peek with
  | none => fail .escapeUnfinished (← since start)
  | some c =>
    if c.isDigit then fail .backreference ⟨start, (← charSpan).stop⟩
    if let some width := hexWidth? c then return ← hexLiteral start width
    if c = 'p' ∨ c = 'P' then return ← property start (c = 'P')
    bump
    let span ← since start
    if let some (kind, negated) := shorthandLetter? c then return .shorthand span kind negated
    if let some a := assertionLetter? c then return ← assertion start a
    if let some value := controlLetter? c then return .literal { span, value }
    if isEscapable c then return .literal { span, value := c }
    fail .escapeUnrecognized span

end Reading

end PulpGame.Pattern
