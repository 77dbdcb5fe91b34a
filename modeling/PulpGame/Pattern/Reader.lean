import PulpGame.Pattern.Fault
import PulpGame.Text.Basic

namespace PulpGame.Pattern

structure Reader where
  rest : List Char
  position : Position := {}
  loose : Bool := false
  names : List (String × Span) := []
deriving Repr

namespace Reader

def bump (r : Reader) : Reader :=
  match r.rest with
  | [] => r
  | c :: cs => { r with rest := cs, position := r.position.after c }

def dropBlanks (r : Reader) (comment : Bool) : List Char → Position → Reader
  | [], p => { r with rest := [], position := p }
  | c :: cs, p =>
    if comment then dropBlanks r (c ≠ '\n') cs (p.after c)
    else if Text.isBlank c then dropBlanks r false cs (p.after c)
    else if c = '#' then dropBlanks r true cs (p.after c)
    else { r with rest := c :: cs, position := p }

def skipBlanks (r : Reader) : Reader :=
  if r.loose then r.dropBlanks false r.rest r.position else r

def advance (r : Reader) : Reader := r.bump.skipBlanks

def drop (r : Reader) : Nat → Reader
  | 0 => r
  | n + 1 => r.bump.drop n

def firstSolid? (comment : Bool) : List Char → Option Char
  | [] => none
  | c :: cs =>
    if Text.isBlank c then firstSolid? comment cs
    else if !comment && c == '#' then firstSolid? true cs
    else some c

def second? (r : Reader) : Option Char :=
  let behind := r.rest.drop 1
  if r.loose then (firstSolid? false behind).or behind.head? else behind.head?

end Reader

abbrev Reading := StateT Reader (Except Fault)

namespace Reading

def fail {α : Type} (cause : Cause) (span : Span) : Reading α := throw ⟨cause, span, none⟩

def here : Reading Position := return (← get).position

def since (start : Position) : Reading Span := return ⟨start, ← here⟩

def peek : Reading (Option Char) := return (← get).rest.head?

def atEnd : Reading Bool := return (← get).rest.isEmpty

def charSpan : Reading Span := do
  let r ← get
  return ⟨r.position, r.bump.position⟩

def bump : Reading Unit := modify Reader.bump

def skipBlanks : Reading Unit := modify Reader.skipBlanks

def advance : Reading Unit := modify Reader.advance

def accept (text : String) : Reading Bool := do
  let r ← get
  if text.toList.isPrefixOf r.rest then
    set (r.drop text.toList.length)
    return true
  else
    return false

def takeWhile (test : Char → Bool) : Reading (List Char) := do go (← get).rest.length
where
  go : Nat → Reading (List Char)
    | 0 => return []
    | n + 1 => do
      match ← peek with
      | none => return []
      | some c =>
        if test c then
          advance
          return c :: (← go n)
        else
          return []

/-- Reads a number of 32 bits. A fault in it may not be the first one that counts. -/
def decimal : Reading (Except Fault Nat) := do
  let _ ← takeWhile Text.isBlank
  let start ← here
  let digits ← takeWhile Char.isDigit
  let span ← since start
  let _ ← takeWhile Text.isBlank
  let n := digits.foldl (fun n c => n * 10 + (c.toNat - '0'.toNat)) 0
  if digits.isEmpty then return .error ⟨.countEmpty, span, none⟩
  else if UInt32.size ≤ n then return .error ⟨.countTooLarge, span, none⟩
  else return .ok n

end Reading

end PulpGame.Pattern
