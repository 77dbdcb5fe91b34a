import PulpGame.Pattern.Fault
import PulpGame.Pattern.Regular
import PulpGame.Pattern.Syntax
/-!
The meaning of a pattern.

There are no tables of the properties and the cases of characters beyond ASCII, so what would need
them is a fault. Where the flag for Unicode is taken back, classes are ASCII, and what could take a
part of a character is a fault.
-/

namespace PulpGame.Pattern

structure Flags where
  caseless : Bool := false
  multiline : Bool := false
  dotAll : Bool := false
  unicode : Bool := true
  returns : Bool := false
deriving DecidableEq, Repr

def Flags.update (f : Flags) (items : List FlagItem) : Flags :=
  let state (flag : Flag) (current : Bool) : Bool := (FlagItem.state? items flag).getD current
  { caseless := state .caseless f.caseless
    multiline := state .multiline f.multiline
    dotAll := state .dotAll f.dotAll
    unicode := state .unicode f.unicode
    returns := state .returns f.returns }

def Shorthand.chars : Shorthand → CharSet
  | .digit => .range '0' '9'
  | .space => .ofRanges [('\t', '\r'), (' ', ' ')]
  | .word => .ofRanges [('0', '9'), ('A', 'Z'), ('_', '_'), ('a', 'z')]

def ClassName.chars : ClassName → CharSet
  | .alnum => .ofRanges [('0', '9'), ('A', 'Z'), ('a', 'z')]
  | .alpha => .ofRanges [('A', 'Z'), ('a', 'z')]
  | .ascii => .range '\x00' '\x7f'
  | .blank => .ofRanges [('\t', '\t'), (' ', ' ')]
  | .cntrl => .ofRanges [('\x00', '\x1f'), ('\x7f', '\x7f')]
  | .digit => .range '0' '9'
  | .graph => .range '!' '~'
  | .lower => .range 'a' 'z'
  | .print => .range ' ' '~'
  | .punct => .ofRanges [('!', '/'), (':', '@'), ('[', '\x60'), ('\x7b', '~')]
  | .space => .ofRanges [('\t', '\r'), (' ', ' ')]
  | .upper => .range 'A' 'Z'
  | .word => .ofRanges [('0', '9'), ('A', 'Z'), ('_', '_'), ('a', 'z')]
  | .xdigit => .ofRanges [('0', '9'), ('A', 'F'), ('a', 'f')]

structure ClassMeaning where
  chars : CharSet
  named : Bool

namespace Flags

def fault {α : Type} (cause : Cause) (span : Span) : Except Fault α := .error ⟨cause, span, none⟩

def plainName (name : String) : String :=
  let isWords := name.toLower.startsWith "is"
  let cs := ((name.toList.drop (if isWords then 2 else 0)).filter fun c =>
    c.toNat < 128 && c ≠ ' ' && c ≠ '_' && c ≠ '-').map Char.toLower
  String.ofList (if isWords ∧ cs = ['c'] then ['i', 's', 'c'] else cs)

def valueNames : List String := ["cf", "sc", "lc"]

/-- A class of characters with a property, which always is a fault. -/
def property {α : Type} (f : Flags) (span : Span) (name : Option String) : Except Fault α :=
  if !f.unicode then fault .unicodeNotAllowed span
  else if name.any fun n => valueNames.contains (plainName n) then fault .propertyValueUnknown span
  else fault .propertyUnknown span

def shorthand (f : Flags) (span : Span) (kind : Shorthand) (negated : Bool) :
    Except Fault CharSet :=
  if f.unicode then fault .shorthandUnknown span
  else if negated then fault .notText span
  else .ok kind.chars

def close (f : Flags) (span : Span) (negated : Bool) (m : ClassMeaning) :
    Except Fault ClassMeaning :=
  if f.unicode then
    if f.caseless && m.named then fault .caseUnknown span
    else .ok { m with chars := if negated then .complement m.chars else m.chars }
  else if negated then fault .notText span
  else .ok { m with chars := if f.caseless then .caseless m.chars else m.chars }

def classChar (f : Flags) (l : Literal) : Except Fault Char :=
  if f.unicode || l.value.toNat < 128 then .ok l.value
  else if l.byte then fault .notText l.span
  else fault .unicodeNotAllowed l.span

def side (f : Flags) (span : Span) (m : ClassMeaning) : Except Fault CharSet :=
  if !f.caseless then .ok m.chars
  else if !f.unicode then .ok (.caseless m.chars)
  else if m.named then fault .caseUnknown span
  else .ok m.chars

def combine : ClassOperation → CharSet → CharSet → CharSet
  | .intersection => .intersection
  | .difference => .difference
  | .symmetricDifference => .symmetricDifference

mutual

def members (f : Flags) : Members → Except Fault ClassMeaning
  | .nothing _ => .ok ⟨.nothing, false⟩
  | .literal l => do return ⟨.singleton (← f.classChar l), true⟩
  | .range _ first last => do return ⟨.range (← f.classChar first) (← f.classChar last), true⟩
  | .named span name negated => f.close span negated ⟨name.chars, true⟩
  | .shorthand span kind negated => do return ⟨← f.shorthand span kind negated, true⟩
  | .property span name _ => f.property span name
  | .bracketed span negated m => do f.close span negated (← f.members m)
  | .union _ ms => f.allMembers ms
  | .operation _ kind l r => do
    let left ← f.members l
    let right ← f.members r
    let rightChars ← f.side r.span right
    let leftChars ← f.side l.span left
    return ⟨combine kind leftChars rightChars, left.named || right.named⟩

def allMembers (f : Flags) : List Members → Except Fault ClassMeaning
  | [] => .ok ⟨.nothing, false⟩
  | m :: ms => do
    let first ← f.members m
    let rest ← f.allMembers ms
    return ⟨.union first.chars rest.chars, first.named || rest.named⟩

end

def literal (f : Flags) (l : Literal) : Except Fault Regular :=
  if f.unicode then
    if f.caseless then fault .caseUnknown l.span else .ok (.char l.value)
  else if l.byte && 128 ≤ l.value.toNat then fault .notText l.span
  else if f.caseless && l.value.isAlpha then .ok (.oneOf (.caseless (.singleton l.value)))
  else .ok (.char l.value)

def dot (f : Flags) (span : Span) : Except Fault Regular :=
  if !f.unicode then fault .notText span
  else if f.dotAll then .ok (.oneOf (.complement .nothing))
  else if f.returns then .ok (.oneOf (.complement (.ofRanges [('\n', '\n'), ('\r', '\r')])))
  else .ok (.oneOf (.complement (.singleton '\n')))

def edge (f : Flags) (e : WordEdge) : Regular := if f.unicode then .unknownEdge else .look (.word e)

def assertion (f : Flags) : Assertion → Regular
  | .lineStart =>
    .look (if !f.multiline then .textStart else if f.returns then .returnLineStart else .lineStart)
  | .lineEnd =>
    .look (if !f.multiline then .textEnd else if f.returns then .returnLineEnd else .lineEnd)
  | .textStart => .look .textStart
  | .textEnd => .look .textEnd
  | .wordBoundary => f.edge .boundary
  | .noWordBoundary => f.edge .noBoundary
  | .wordStart => f.edge .start
  | .wordEnd => f.edge .stop
  | .wordStartHalf => f.edge .startHalf
  | .wordEndHalf => f.edge .stopHalf

end Flags

abbrev Meaning := StateT Flags (Except Fault)

mutual

/-- The meaning of a part of a pattern under the flags in front of it. Flags hold on through the
branches that follow. -/
def Term.meaning : Term → Meaning Regular
  | .empty _ => return .empty
  | .flags _ items => do
    modify fun f => f.update items
    return .empty
  | .literal l => do (← get).literal l
  | .dot span => do (← get).dot span
  | .assertion _ kind => do return (← get).assertion kind
  | .shorthand span kind negated => do return .oneOf (← (← get).shorthand span kind negated)
  | .property span name _ => do (← get).property span name
  | .bracketed span negated m => do
    let f ← get
    return .oneOf (← f.close span negated (← f.members m)).chars
  | .repetition _ least most t => do return .times least most (← t.meaning)
  | .group _ captures items t => do
    let f ← get
    set (f.update items)
    let r ← t.meaning
    set f
    return if captures then .capture r else r
  | .concatenation _ ts => do return (← Term.meanings ts).foldr .both .empty
  | .alternation _ ts => do
    match ← Term.meanings ts with
    | [] => return .empty
    | r :: rs => return rs.foldl .either r

def Term.meanings : List Term → Meaning (List Regular)
  | [] => return []
  | t :: ts => do
    let r ← t.meaning
    return r :: (← Term.meanings ts)

end

end PulpGame.Pattern
