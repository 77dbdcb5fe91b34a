namespace PulpGame.Pattern

inductive CharSet where
  | nothing
  | range (first last : Char)
  | union (a b : CharSet)
  | intersection (a b : CharSet)
  | difference (a b : CharSet)
  | symmetricDifference (a b : CharSet)
  | complement (a : CharSet)
  | caseless (a : CharSet)
deriving DecidableEq, Repr

namespace CharSet

def otherCase (c : Char) : Char := if c.isUpper then c.toLower else c.toUpper

def contains : CharSet → Char → Bool
  | .nothing, _ => false
  | .range first last, c => first ≤ c && c ≤ last
  | .union a b, c => a.contains c || b.contains c
  | .intersection a b, c => a.contains c && b.contains c
  | .difference a b, c => a.contains c && !b.contains c
  | .symmetricDifference a b, c => a.contains c != b.contains c
  | .complement a, c => !a.contains c
  | .caseless a, c => a.contains c || a.contains (otherCase c)

def singleton (c : Char) : CharSet := .range c c

def ofRanges (rs : List (Char × Char)) : CharSet :=
  rs.foldr (fun (first, last) s => .union (.range first last) s) .nothing

def isWide : CharSet → Bool
  | .nothing => false
  | .range _ last => '\x7f' < last
  | .union a b | .symmetricDifference a b => a.isWide || b.isWide
  | .intersection a b => a.isWide && b.isWide
  | .difference a _ | .caseless a => a.isWide
  | .complement _ => true

end CharSet

inductive WordEdge where
  | boundary
  | noBoundary
  | start
  | stop
  | startHalf
  | stopHalf
deriving DecidableEq, Repr

inductive Look where
  | textStart
  | textEnd
  | lineStart
  | lineEnd
  | returnLineStart
  | returnLineEnd
  | word (edge : WordEdge)
deriving DecidableEq, Repr

structure Place where
  before : Option Char
  behind : Option Char
deriving DecidableEq, Repr

namespace Place

def ofText (before : Option Char) : List Char → List Place
  | [] => [⟨before, none⟩]
  | c :: cs => ⟨before, some c⟩ :: ofText (some c) cs

def isWordChar (c : Char) : Bool := c.isAlphanum || c = '_'

def satisfies (p : Place) : Look → Bool
  | .textStart => p.before.isNone
  | .textEnd => p.behind.isNone
  | .lineStart => p.before.isNone || p.before == some '\n'
  | .lineEnd => p.behind.isNone || p.behind == some '\n'
  | .returnLineStart =>
    p.before.isNone || p.before == some '\n' || (p.before == some '\r' && p.behind != some '\n')
  | .returnLineEnd =>
    p.behind.isNone || p.behind == some '\r' || (p.behind == some '\n' && p.before != some '\r')
  | .word edge =>
    let before := p.before.any isWordChar
    let behind := p.behind.any isWordChar
    match edge with
    | .boundary => before != behind
    | .noBoundary => before == behind
    | .start => !before && behind
    | .stop => before && !behind
    | .startHalf => !before
    | .stopHalf => !behind

end Place

inductive Regular where
  | empty
  | char (c : Char)
  | oneOf (s : CharSet)
  | look (l : Look)
  /-- An edge of a word of any letters, for which there is no table. It is found nowhere. -/
  | unknownEdge
  | capture (r : Regular)
  | both (a b : Regular)
  | either (a b : Regular)
  | times (least : Nat) (most : Option Nat) (r : Regular)
deriving DecidableEq, Repr

namespace Regular

abbrev Marks := List Bool

def shift (accepts : Char → Bool) (carried : Bool) : List Place → Marks → Marks
  | p :: ps, m :: ms => carried :: shift accepts (m && p.behind.any accepts) ps ms
  | _, _ => []

def join (a b : Marks) : Marks := List.zipWith (· || ·) a b

def settle (step : Marks → Marks) : Nat → Marks → Marks
  | 0, ms => ms
  | n + 1, ms =>
    let next := step ms
    if next == ms then ms else settle step n next

/-- The places where the expression may end if it starts at one of the marked places. -/
def run (places : List Place) : Regular → Marks → Marks
  | .empty, ms => ms
  | .char c, ms => shift (· == c) false places ms
  | .oneOf s, ms => shift s.contains false places ms
  | .look l, ms => List.zipWith (fun p m => m && p.satisfies l) places ms
  | .unknownEdge, ms => ms.map fun _ => false
  | .capture r, ms => r.run places ms
  | .both a b, ms => b.run places (a.run places ms)
  | .either a b, ms => join (a.run places ms) (b.run places ms)
  | .times least most r, ms =>
    -- Behind as many repetitions as there are places, another one changes nothing.
    let bound := places.length
    let further := (most.map (· - least)).getD bound
    settle (fun ms => join ms (r.run places ms)) (min further bound)
      (settle (r.run places) (min least bound) ms)

def occursIn (r : Regular) (text : String) : Bool :=
  let places := Place.ofText none text.toList
  (r.run places (places.map fun _ => true)).any id

def takesChar : Regular → Bool
  | .empty | .look _ | .unknownEdge => false
  | .char _ | .oneOf _ => true
  | .capture r => r.takesChar
  | .both a b | .either a b => a.takesChar || b.takesChar
  | .times _ most r => r.takesChar && most != some 0

/-- Whether the expression holds an edge for which there is no table. What is repeated no times does
not count. -/
def hasUnknownEdge : Regular → Bool
  | .unknownEdge => true
  | .empty | .char _ | .oneOf _ | .look _ => false
  | .capture r => r.hasUnknownEdge
  | .both a b | .either a b => a.hasUnknownEdge || b.hasUnknownEdge
  | .times _ most r => r.hasUnknownEdge && most != some 0

def weight : Regular → Nat
  | .empty | .look _ | .unknownEdge => 32
  | .char c => 32 * c.utf8Size
  | .oneOf s => if s.isWide then 464 else 72
  | .capture r => r.weight + 64
  | .both a b => a.weight + b.weight
  | .either a b => a.weight + b.weight + 72
  | .times least most r =>
    if !r.takesChar then r.weight + 72
    else
      match most with
      | none => max 1 least * r.weight + 40
      | some m => m * r.weight + (m - least) * 40 + 32

end Regular

end PulpGame.Pattern
