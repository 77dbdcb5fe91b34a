namespace PulpGame.Pattern

structure Position where
  line : Nat := 1
  column : Nat := 1
deriving DecidableEq, Repr

namespace Position

def after (p : Position) (c : Char) : Position :=
  if c = '\n' then ⟨p.line + 1, 1⟩ else ⟨p.line, p.column + 1⟩

def upTo (p q : Position) : Bool := p.line < q.line || (p.line == q.line && p.column ≤ q.column)

end Position

structure Span where
  start : Position
  stop : Position
deriving DecidableEq, Repr

namespace Span

def empty (p : Position) : Span := ⟨p, p⟩

def isOneLine (s : Span) : Bool := s.start.line == s.stop.line

def upTo (s t : Span) : Bool :=
  if s.start = t.start then s.stop.upTo t.stop else s.start.upTo t.start

end Span

inductive Flag where
  | caseless
  | multiline
  | dotAll
  | lazy
  | unicode
  | returns
  | loose
deriving DecidableEq, Repr

def Flag.ofChar? : Char → Option Flag
  | 'i' => some .caseless
  | 'm' => some .multiline
  | 's' => some .dotAll
  | 'U' => some .lazy
  | 'u' => some .unicode
  | 'R' => some .returns
  | 'x' => some .loose
  | _ => none

inductive FlagItem where
  | negation
  | flag (value : Flag)
deriving DecidableEq, Repr

def FlagItem.state? (items : List FlagItem) (f : Flag) : Option Bool :=
  if items.contains (.flag f) then
    some (!(items.takeWhile (· != .flag f)).contains .negation)
  else none

inductive Assertion where
  | lineStart
  | lineEnd
  | textStart
  | textEnd
  | wordBoundary
  | noWordBoundary
  | wordStart
  | wordEnd
  | wordStartHalf
  | wordEndHalf
deriving DecidableEq, Repr

structure Literal where
  span : Span
  value : Char
  byte : Bool := false
deriving DecidableEq, Repr

inductive Shorthand where
  | digit
  | space
  | word
deriving DecidableEq, Repr

inductive ClassName where
  | alnum
  | alpha
  | ascii
  | blank
  | cntrl
  | digit
  | graph
  | lower
  | print
  | punct
  | space
  | upper
  | word
  | xdigit
deriving DecidableEq, Repr

def ClassName.ofString? : String → Option ClassName
  | "alnum" => some .alnum
  | "alpha" => some .alpha
  | "ascii" => some .ascii
  | "blank" => some .blank
  | "cntrl" => some .cntrl
  | "digit" => some .digit
  | "graph" => some .graph
  | "lower" => some .lower
  | "print" => some .print
  | "punct" => some .punct
  | "space" => some .space
  | "upper" => some .upper
  | "word" => some .word
  | "xdigit" => some .xdigit
  | _ => none

inductive ClassOperation where
  | intersection
  | difference
  | symmetricDifference
deriving DecidableEq, Repr

inductive Members where
  | nothing (span : Span)
  | literal (literal : Literal)
  | range (span : Span) (first last : Literal)
  | named (span : Span) (name : ClassName) (negated : Bool)
  | shorthand (span : Span) (kind : Shorthand) (negated : Bool)
  | property (span : Span) (name : Option String) (negated : Bool)
  | bracketed (span : Span) (negated : Bool) (members : Members)
  | union (span : Span) (items : List Members)
  | operation (span : Span) (kind : ClassOperation) (left right : Members)

def Members.span : Members → Span
  | .nothing s | .range s .. | .named s .. | .shorthand s .. | .property s .. | .bracketed s ..
  | .union s _ | .operation s .. => s
  | .literal l => l.span

inductive Term where
  | empty (span : Span)
  | flags (span : Span) (items : List FlagItem)
  | literal (literal : Literal)
  | dot (span : Span)
  | assertion (span : Span) (kind : Assertion)
  | shorthand (span : Span) (kind : Shorthand) (negated : Bool)
  | property (span : Span) (name : Option String) (negated : Bool)
  | bracketed (span : Span) (negated : Bool) (members : Members)
  | repetition (span : Span) (least : Nat) (most : Option Nat) (body : Term)
  | group (span : Span) (captures : Bool) (items : List FlagItem) (body : Term)
  | alternation (span : Span) (branches : List Term)
  | concatenation (span : Span) (parts : List Term)

def Term.span : Term → Span
  | .empty s | .flags s _ | .dot s | .assertion s _ | .shorthand s .. | .property s ..
  | .bracketed s .. | .repetition s .. | .group s .. | .alternation s _ | .concatenation s _ => s
  | .literal l => l.span

def Term.ofParts (span : Span) : List Term → Term
  | [] => .empty span
  | [t] => t
  | ts => .concatenation span ts

end PulpGame.Pattern
