import PulpGame.Pattern.Escape

namespace PulpGame.Pattern

structure OpenClass where
  start : Position
  opening : Span
  negated : Bool
  first : Position
  items : List Members
  pending : Option (ClassOperation × Members) := none

namespace OpenClass

def push (o : OpenClass) (m : Members) : OpenClass := { o with items := m :: o.items }

def side (o : OpenClass) : Members :=
  match o.items.reverse with
  | [] => .nothing (.empty o.first)
  | [m] => m
  | m :: ms => .union ⟨m.span.start, (ms.getLastD m).span.stop⟩ (m :: ms)

def members (o : OpenClass) : Members :=
  match o.pending with
  | none => o.side
  | some (kind, left) => .operation ⟨left.span.start, o.side.span.stop⟩ kind left o.side

def operate (o : OpenClass) (kind : ClassOperation) (first : Position) : OpenClass :=
  { o with pending := some (kind, o.members), items := [], first }

end OpenClass

namespace Reading

/-- Reads dashes, which stand for themselves at the start of a class. -/
def dashes (start : Position) : Nat → Reading (List Members)
  | 0 => return []
  | n + 1 => do
    if (← peek) = some '-' then
      let span ← charSpan
      advance
      if ← atEnd then fail .classUnclosed (.empty start)
      return .literal { span, value := '-' } :: (← dashes start n)
    else
      return []

def openClass : Reading OpenClass := do
  let start ← here
  advance
  if ← atEnd then fail .classUnclosed (← since start)
  let negated := (← peek) = some '^'
  if negated then
    advance
    if ← atEnd then fail .classUnclosed (← since start)
  let first ← here
  let dashes ← dashes start (← get).rest.length
  let mut items := dashes.reverse
  if items.isEmpty ∧ (← peek) = some ']' then
    items := [.literal { span := ← charSpan, value := ']' }]
    advance
    if ← atEnd then fail .classUnclosed (← since start)
  return { start, opening := ← since start, negated, first, items }

def className? : List Char → Option (ClassName × Bool × Nat)
  | '[' :: ':' :: cs =>
    let negated := cs.head? = some '^'
    let cs := if negated then cs.drop 1 else cs
    let name := cs.takeWhile (· ≠ ':')
    match cs.dropWhile (· ≠ ':') with
    | ':' :: ']' :: _ =>
      (ClassName.ofString? (String.ofList name)).map
        (·, decide negated, name.length + if negated then 5 else 4)
    | _ => none
  | _ => none

def namedClass? : Reading (Option Members) := do
  let r ← get
  match className? r.rest with
  | none => return none
  | some (name, negated, length) =>
    set (r.drop length)
    return some (.named (← since r.position) name negated)

def classAtom : Reading Term := do
  match ← peek with
  | some '\\' => escape
  | some c =>
    let span ← charSpan
    bump
    return .literal { span, value := c }
  | none => return .empty (.empty (← here))

def asMember : Term → Reading Members
  | .literal l => return .literal l
  | .shorthand span kind negated => return .shorthand span kind negated
  | .property span name negated => return .property span name negated
  | t => fail .classEscapeInvalid t.span

def asRangeEnd : Term → Reading Literal
  | .literal l => return l
  | t => fail .rangeEndInvalid t.span

/-- Reads a member or a range. A dash in front of the end of the class or of another dash makes no
range. -/
def classItem (opening : Span) : Reading Members := do
  let low ← classAtom
  skipBlanks
  if ← atEnd then fail .classUnclosed opening
  let second := (← get).second?
  if (← peek) ≠ some '-' ∨ second = some ']' ∨ second = some '-' then
    asMember low
  else
    advance
    if ← atEnd then fail .classUnclosed opening
    let high ← classAtom
    let span : Span := ⟨low.span.start, high.span.stop⟩
    let first ← asRangeEnd low
    let last ← asRangeEnd high
    if last.value < first.value then fail .rangeReversed span
    return .range span first last

def classOperations : List (String × ClassOperation) :=
  [("&&", .intersection), ("--", .difference), ("~~", .symmetricDifference)]

def classOperation? : Reading (Option ClassOperation) := do
  let rest := (← get).rest
  match classOperations.find? fun (text, _) => text.toList.isPrefixOf rest with
  | none => return none
  | some (text, kind) =>
    let _ ← accept text
    return some kind

def classMembers : Nat → OpenClass → Reading Members
  | 0, o => return o.members
  | n + 1, o => do
    skipBlanks
    match ← peek with
    | none => fail .classUnclosed o.opening
    | some '[' =>
      match ← namedClass? with
      | some m => classMembers n (o.push m)
      | none =>
        let m ← classMembers n (← openClass)
        classMembers n (o.push m)
    | some ']' =>
      bump
      return .bracketed (← since o.start) o.negated o.members
    | some _ =>
      match ← classOperation? with
      | some kind => classMembers n (o.operate kind (← here))
      | none => classMembers n (o.push (← classItem o.opening))

def bracketed : Reading Term := do
  let length := (← get).rest.length
  match ← classMembers length (← openClass) with
  | .bracketed span negated members => return .bracketed span negated members
  | m => return .bracketed m.span false m

end Reading

end PulpGame.Pattern
