import PulpGame.Pattern.Bracket
import PulpGame.Text.Letter

namespace PulpGame.Pattern

inductive Opening where
  | flags (span : Span) (items : List FlagItem)
  | group (span : Span) (captures : Bool) (items : List FlagItem)

structure OpenGroup where
  opening : Option Span
  start : Position
  branches : List Term := []
  branchStart : Position := start
  parts : List Term := []

namespace OpenGroup

def push (g : OpenGroup) (t : Term) : OpenGroup := { g with parts := t :: g.parts }

def branch (g : OpenGroup) (stop : Position) : Term :=
  .ofParts ⟨g.branchStart, stop⟩ g.parts.reverse

def split (g : OpenGroup) (stop next : Position) : OpenGroup :=
  { g with branches := g.branch stop :: g.branches, branchStart := next, parts := [] }

def term (g : OpenGroup) (stop : Position) : Term :=
  match g.branches with
  | [] => g.branch stop
  | bs => .alternation ⟨g.start, stop⟩ (bs.reverse ++ [g.branch stop])

def operand? (g : OpenGroup) : Option (Term × OpenGroup) :=
  match g.parts with
  | [] | .empty _ :: _ | .flags .. :: _ => none
  | t :: ts => some (t, { g with parts := ts })

end OpenGroup

def lookArounds : List String := ["?=", "?!", "?<=", "?<!"]

def isNamePart (c : Char) (leading : Bool) : Bool :=
  c = '_' || Text.isLetter c ||
    (!leading && (c = '.' || c = '[' || c = ']' || Text.isNumeral c))

namespace Reading

def flagItems (items : List (FlagItem × Span)) (dangling : Option Span) :
    Nat → Reading (List FlagItem)
  | 0 => return items.map (·.1)
  | n + 1 => do
    match ← peek with
    | none => fail .flagsUnfinished (.empty (← here))
    | some c =>
      let span ← charSpan
      if c = ':' ∨ c = ')' then
        match dangling with
        | some negation => fail .negationDangling negation
        | none => return items.map (·.1)
      else
        let item ←
          if c = '-' then pure FlagItem.negation
          else match Flag.ofChar? c with
            | some f => pure (FlagItem.flag f)
            | none => fail .flagUnrecognized span
        let cause := if c = '-' then Cause.negationRepeated else .flagDuplicate
        match items.find? (·.1 == item) with
        | some (_, first) => throw ⟨cause, span, some first⟩
        | none =>
          bump
          flagItems (items ++ [(item, span)]) (if c = '-' then some span else none) n

def nameParts (leading : Bool) : Nat → Reading (List Char)
  | 0 => return []
  | n + 1 => do
    match ← peek with
    | none | some '>' => return []
    | some c =>
      if !isNamePart c leading then fail .groupNameInvalid (← charSpan)
      bump
      return c :: (← nameParts false n)

def groupName : Reading Unit := do
  let start ← here
  let name ← nameParts true (← get).rest.length
  if ← atEnd then fail .groupNameUnfinished (.empty (← here))
  let span ← since start
  bump
  if name.isEmpty then fail .groupNameEmpty (.empty start)
  let name := String.ofList name
  match (← get).names.find? (·.1 == name) with
  | some (_, first) => throw ⟨.groupNameDuplicate, span, some first⟩
  | none => modify fun r => { r with names := (name, span) :: r.names }

def opening : Reading Opening := do
  let parenthesis ← charSpan
  bump
  skipBlanks
  let inner ← here
  let rest := (← get).rest
  if let some text := lookArounds.find? (·.toList.isPrefixOf rest) then
    let _ ← accept text
    fail .lookAround (← since parenthesis.start)
  if rest.head? ≠ some '?' then return .group parenthesis true []
  bump
  if ← accept "P<" then
    groupName
    return .group parenthesis true []
  else if ← accept "<" then
    groupName
    return .group parenthesis true []
  else if ← atEnd then
    fail .groupUnclosed parenthesis
  else
    let items ← flagItems [] none (← get).rest.length.succ
    let flagsOnly := (← peek) = some ')'
    bump
    if !flagsOnly then return .group parenthesis false items
    else if items.isEmpty then fail .operandMissing (.empty inner)
    else return .flags (← since parenthesis.start) items

def counts : Reading (Nat × Option Nat) := do
  let start ← here
  advance
  if ← atEnd then fail .countUnclosed (← since start)
  let least ← decimal
  let bounds ← match ← peek with
    | none => fail .countUnclosed (← since start)
    | some ',' => do
      advance
      match ← peek with
      | none => fail .countUnclosed (← since start)
      | some '\x7d' => do
        let least ← (least : Reading Nat)
        pure (least, none)
      | some _ => do
        let least ← (least : Reading Nat)
        let most ← ((← decimal) : Reading Nat)
        pure (least, some most)
    | some _ => do
      let least ← (least : Reading Nat)
      pure (least, some least)
  if (← peek) ≠ some '\x7d' then fail .countUnclosed (← since start)
  advance
  let _ ← accept "?"
  match bounds with
  | (least, some most) => if most < least then fail .countsReversed (← since start)
  | _ => pure ()
  return bounds

def quantity (c : Char) : Reading (Nat × Option Nat) := do
  if c = '\x7b' then
    counts
  else
    bump
    let _ ← accept "?"
    return match c with
      | '?' => (0, some 1)
      | '*' => (0, none)
      | _ => (1, none)

def atom (c : Char) : Reading Term := do
  if c = '\\' then return ← escape
  let span ← charSpan
  bump
  match c with
  | '.' => return .dot span
  | '^' => return .assertion span .lineStart
  | '$' => return .assertion span .lineEnd
  | c => return .literal { span, value := c }

/-- Reads a group up to its end, or a pattern up to its end. Flags hold up to the end of the group
that they stand in. -/
def groupParts : Nat → OpenGroup → Reading Term
  | 0, g => return g.term (← here)
  | n + 1, g => do
    skipBlanks
    match ← peek with
    | none =>
      match g.opening with
      | some span => fail .groupUnclosed span
      | none => return g.term (← here)
    | some ')' =>
      if g.opening.isNone then fail .groupUnopened (← charSpan)
      let t := g.term (← here)
      bump
      return t
    | some '|' =>
      let stop ← here
      bump
      groupParts n (g.split stop (← here))
    | some '(' =>
      let loose := (← get).loose
      match ← opening with
      | .flags span items =>
        modify fun r => { r with loose := (FlagItem.state? items .loose).getD loose }
        groupParts n (g.push (.flags span items))
      | .group parenthesis captures items =>
        modify fun r => { r with loose := (FlagItem.state? items .loose).getD loose }
        let body ← groupParts n { opening := some parenthesis, start := ← here }
        modify fun r => { r with loose }
        groupParts n (g.push (.group (← since parenthesis.start) captures items body))
    | some '[' => groupParts n (g.push (← bracketed))
    | some c =>
      if c = '?' ∨ c = '*' ∨ c = '+' ∨ c = '\x7b' then
        match g.operand? with
        | none => fail .operandMissing (.empty (← here))
        | some (body, g) =>
          let (least, most) ← quantity c
          groupParts n (g.push (.repetition (← since body.span.start) least most body))
      else
        groupParts n (g.push (← atom c))

end Reading

/-- How deep groups, repetitions, classes and lists of these may lie in each other. -/
def depthLimit : Nat := 250

def tooDeep? (depth : Nat) (span : Span) : Option Fault :=
  if depthLimit < depth then some ⟨.tooDeep depthLimit, span, none⟩ else none

mutual

def Members.tooDeep? (depth : Nat) : Members → Option Fault
  | .bracketed span _ m => (Pattern.tooDeep? (depth + 1) span).or (m.tooDeep? (depth + 1))
  | .union span ms => (Pattern.tooDeep? (depth + 1) span).or (Members.anyTooDeep? (depth + 1) ms)
  | .operation span _ l r =>
    (Pattern.tooDeep? (depth + 1) span).or ((l.tooDeep? (depth + 1)).or (r.tooDeep? (depth + 1)))
  | _ => none

def Members.anyTooDeep? (depth : Nat) : List Members → Option Fault
  | [] => none
  | m :: ms => (m.tooDeep? depth).or (Members.anyTooDeep? depth ms)

end

mutual

def Term.tooDeep? (depth : Nat) : Term → Option Fault
  | .bracketed span _ m => (Pattern.tooDeep? (depth + 1) span).or (m.tooDeep? (depth + 1))
  | .repetition span _ _ t | .group span _ _ t =>
    (Pattern.tooDeep? (depth + 1) span).or (t.tooDeep? (depth + 1))
  | .alternation span ts | .concatenation span ts =>
    (Pattern.tooDeep? (depth + 1) span).or (Term.anyTooDeep? (depth + 1) ts)
  | _ => none

def Term.anyTooDeep? (depth : Nat) : List Term → Option Fault
  | [] => none
  | t :: ts => (t.tooDeep? depth).or (Term.anyTooDeep? depth ts)

end

def Term.ofText (text : String) : Except Fault Term := do
  let reader : Reader := { rest := text.toList }
  let whole : OpenGroup := { opening := none, start := reader.position }
  let (t, _) ← (Reading.groupParts (text.length + 1) whole).run reader
  match t.tooDeep? 0 with
  | some fault => throw fault
  | none => return t

end PulpGame.Pattern
