/-!
Double precision numbers as the 64 bits of their standard encoding.

Documents hold doubles that are read from decimals and written back as decimals; nothing is
computed with them on the way. So a number is kept as its bits, and rounding is done in exact
arithmetic on natural numbers: `ofRatio` is the double nearest to a quotient, a tie going to the
even significand.
-/

namespace PulpGame

structure Binary64 where
  bits : UInt64
deriving DecidableEq, Repr, Inhabited

namespace Binary64

inductive Value where
  | nan
  | infinity (negative : Bool)
  | finite (negative : Bool) (significand : Nat) (exponent : Int)
deriving DecidableEq, Repr

def minExponent : Int := -1074

def infinityBits : Nat := 0x7FF * Nat.pow 2 52

def negative (x : Binary64) : Bool := x.bits.toNat / Nat.pow 2 63 = 1

/-- The bits without the sign. Magnitudes are ordered as these bits are. -/
def magnitude (x : Binary64) : Nat := x.bits.toNat % Nat.pow 2 63

def value (x : Binary64) : Value :=
  let mag := x.magnitude
  let biased := mag / Nat.pow 2 52
  let fraction := mag % Nat.pow 2 52
  if biased = 0x7FF then
    if fraction = 0 then .infinity x.negative else .nan
  else if biased = 0 then .finite x.negative fraction minExponent
  else .finite x.negative (Nat.pow 2 52 + fraction) (minExponent + (biased - 1 : Nat))

def isZero (x : Binary64) : Bool := x.magnitude = 0

def isFinite (x : Binary64) : Bool := x.magnitude < infinityBits

def ofMagnitude (negative : Bool) (mag : Nat) : Binary64 :=
  ⟨UInt64.ofNat (if negative then Nat.pow 2 63 + mag else mag)⟩

def roundHalfEven (num den : Nat) : Nat :=
  let q := num / den
  let r := num % den
  if 2 * r < den then q
  else if den < 2 * r then q + 1
  else if q % 2 = 0 then q else q + 1

/-- The magnitude nearest to `num / den`, or that of infinity when the quotient is beyond the largest
number. -/
def magnitudeOfRatio (num den : Nat) : Nat :=
  if num = 0 then 0
  else
    let guess : Int := (num.log2 : Int) - den.log2
    let below := num * Nat.pow 2 (-guess).toNat < den * Nat.pow 2 guess.toNat
    -- The exponent that leaves a significand of 53 bits.
    let exponent := max minExponent (if below then guess - 53 else guess - 52)
    let significand :=
      roundHalfEven (num * Nat.pow 2 (-exponent).toNat) (den * Nat.pow 2 exponent.toNat)
    -- A significand rounded up to `2 ^ 53` carries into the exponent by itself.
    min infinityBits ((exponent - minExponent).toNat * Nat.pow 2 52 + significand)

def ofRatio (negative : Bool) (num den : Nat) : Binary64 :=
  ofMagnitude negative (magnitudeOfRatio num den)

def ofNat (n : Nat) : Binary64 := ofRatio false n 1

def neg (x : Binary64) : Binary64 := ofMagnitude (!x.negative) x.magnitude

def parts (x : Binary64) : Nat × Int :=
  match x.value with
  | .finite _ m q => (m, q)
  | _ => (0, 0)

def mulMagnitude (x y : Binary64) : Binary64 :=
  let (m, p) := x.parts
  let (n, q) := y.parts
  ofRatio false (m * n * Nat.pow 2 (p + q).toNat) (Nat.pow 2 (-(p + q)).toNat)

def divMagnitude (x y : Binary64) : Binary64 :=
  let (m, p) := x.parts
  let (n, q) := y.parts
  ofRatio false (m * Nat.pow 2 (p - q).toNat) (n * Nat.pow 2 (q - p).toNat)

def tenPow (k : Nat) : Binary64 := ofNat (Nat.pow 10 k)

end Binary64

end PulpGame
