import PulpGame.Number.Binary64
/-!
The shortest decimal that reads back as a given double.

A double `m * 2 ^ q` is read back from every decimal in the interval that reaches half way to its
neighbours, the ends included when `m` is even. `shortest` takes the coarsest decimal grid that has
a point in that interval, and on it the point nearest to the double. Which of two points at the same
distance is taken is left to the caller.
-/

namespace PulpGame

structure Decimal where
  digits : Nat
  exponent : Int
deriving DecidableEq, Repr, Inhabited

inductive Tie where
  | up
  | toEven
deriving DecidableEq, Repr

namespace Decimal

def length (n : Nat) : Nat :=
  if n = 0 then 0 else length (n / 10) + 1
termination_by n
decreasing_by omega

def leading (num den : Nat) : Int :=
  if den ≤ num then (length (num / den) : Int) - 1
  else -(length ((den - 1) / num) : Int)

/-- The decimals that read back as one double: from `low / den` to `high / den`. -/
structure Interval where
  low : Nat
  value : Nat
  high : Nat
  den : Nat
  closed : Bool

def Interval.of (m : Nat) (q : Int) : Interval :=
  let num (quarters : Nat) := quarters * Nat.pow 2 (q - 2).toNat
  -- Below a power of two the neighbour is half as far.
  let narrow := m = Nat.pow 2 52 ∧ Binary64.minExponent < q
  { low := num (4 * m - if narrow then 1 else 2)
    value := num (4 * m)
    high := num (4 * m + 2)
    den := Nat.pow 2 (2 - q).toNat
    closed := m % 2 = 0 }

def Interval.has (i : Interval) (n : Nat) (k : Int) : Bool :=
  let x := n * i.den * Nat.pow 10 k.toNat
  let scale := Nat.pow 10 (-k).toNat
  if i.closed then i.low * scale ≤ x && x ≤ i.high * scale
  else i.low * scale < x && x < i.high * scale

def Interval.nearest (tie : Tie) (i : Interval) (k : Int) : Option Nat :=
  let num := i.value * Nat.pow 10 (-k).toNat
  let den := i.den * Nat.pow 10 k.toNat
  let n := num / den
  match i.has n k, i.has (n + 1) k with
  | false, false => none
  | true, false => some n
  | false, true => some (n + 1)
  | true, true =>
    let rest := 2 * (num % den)
    if rest < den then some n
    else if den < rest then some (n + 1)
    else match tie with
      | .up => some (n + 1)
      | .toEven => some (if n % 2 = 0 then n else n + 1)

def trim (d : Decimal) : Decimal :=
  if d.digits ≠ 0 ∧ d.digits % 10 = 0 then trim ⟨d.digits / 10, d.exponent + 1⟩ else d
termination_by d.digits
decreasing_by omega

/-- The shortest decimal for the double `m * 2 ^ q`, without zeros at its end. -/
def shortest (tie : Tie) (m : Nat) (q : Int) : Decimal :=
  let i := Interval.of m q
  let top := leading i.value i.den
  let grid (n : Nat) : Option Decimal :=
    (i.nearest tie (top - n)).map (⟨·, top - n⟩)
  -- seventeen digits always suffice
  trim (((List.range 17).findSome? grid).getD default)

end Decimal

end PulpGame
