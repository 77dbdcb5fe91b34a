import PulpGame.Json.Fault
/-!
Numbers in a JSON text.

`Numeral.scan` splits a number off the text; `Numeral.value` says which number it is. The digits are
taken as far as they make a number of 64 bits, and a double is that number, rounded, times or over a
power of ten, rounded again. Digits before the point that were not taken count as powers of ten,
those after it are dropped.
-/

namespace PulpGame.Json

structure Numeral where
  negative : Bool
  whole : List Nat
  fraction : List Nat
  exponent : Option (Bool × List Nat)
deriving DecidableEq, Repr

namespace Numeral

def digit? (c : Char) : Option Nat :=
  if c.isDigit then some (c.toNat - 48) else none

def digits : List Char → List Nat × List Char
  | [] => ([], [])
  | c :: cs =>
    match digit? c with
    | some d => ((digits cs).map (d :: ·) id)
    | none => ([], c :: cs)

def broken : List Char → Defect
  -- Skipping does not tell the end of the text from a wrong character.
  | [] => ⟨.endInValue, .badNumber⟩
  | _ :: _ => .plain .badNumber

def someDigits (cs : List Char) : Except Defect (List Nat × List Char) :=
  match digits cs with
  | ([], rest) => .error (broken rest)
  | found => .ok found

def scanExponent : List Char → Except Defect (Option (Bool × List Nat) × List Char)
  | c :: cs =>
    if c == 'e' || c == 'E' then do
      let (negative, cs) := match cs with
        | '+' :: cs => (false, cs)
        | '-' :: cs => (true, cs)
        | cs => (false, cs)
      let (ds, rest) ← someDigits cs
      return (some (negative, ds), rest)
    else return (none, c :: cs)
  | [] => return (none, [])

def scanFraction : List Char → Except Defect (List Nat × List Char)
  | '.' :: cs => someDigits cs
  | cs => return ([], cs)

def scan (negative : Bool) (cs : List Char) : Except Defect (Numeral × List Char) := do
  let (whole, rest) ← someDigits cs
  if whole.head? = some 0 ∧ whole.length ≠ 1 then throw (.plain .badNumber)
  let (fraction, rest) ← scanFraction rest
  let (exponent, rest) ← scanExponent rest
  return (⟨negative, whole, fraction, exponent⟩, rest)

/-- Puts digits behind `n` as long as the number fits into 64 bits; the rest is left over. -/
def extend (n : Nat) : List Nat → Nat × List Nat
  | [] => (n, [])
  | d :: ds => if n * 10 + d < UInt64.size then extend (n * 10 + d) ds else (n, d :: ds)

def ofDigits (ds : List Nat) : Nat := ds.foldl (fun n d => n * 10 + d) 0

def maxTenPow : Nat := 308

def scaleDown (x : Binary64) (e : Nat) : Binary64 :=
  if e ≤ maxTenPow then x.divMagnitude (.tenPow e)
  else if x.isZero then x
  else scaleDown (x.divMagnitude (.tenPow maxTenPow)) (e - maxTenPow)
termination_by e
decreasing_by simp [maxTenPow] at *; omega

def scaleUp (x : Binary64) (e : Nat) : Except Fault Binary64 :=
  if e ≤ maxTenPow then
    let y := x.mulMagnitude (.tenPow e)
    if y.isFinite then .ok y else .error .numberTooLarge
  else if x.isZero then .ok x
  else .error .numberTooLarge

def scale (n : Nat) (e : Int) : Except Fault Binary64 :=
  if 0 ≤ e then scaleUp (.ofNat n) e.toNat else .ok (scaleDown (.ofNat n) (-e).toNat)

def isWhole (t : Numeral) : Bool := t.fraction.isEmpty && t.exponent.isNone

def double (t : Numeral) : Except Fault Binary64 := do
  let (n, untaken) := extend 0 t.whole
  let (n, dropped) := extend n t.fraction
  let shift : Int := untaken.length - (t.fraction.length - dropped.length : Nat)
  let exponent : Int := match t.exponent with
    | none => 0
    | some (negative, ds) => if negative then -(ofDigits ds : Int) else ofDigits ds
  let x ← scale n (shift + exponent)
  return if t.negative then x.neg else x

theorem extend_lt {n : Nat} {ds : List Nat} (h : n < UInt64.size)
    : (extend n ds).1 < UInt64.size := by
  induction ds generalizing n with
  | nil => exact h
  | cons d ds ih =>
    unfold extend
    split
    . next hfits => exact ih hfits
    . exact h

theorem isWithin_scaleDown {x : Binary64} (h : x.IsWithin 1090) (e : Nat)
    : (scaleDown x e).IsWithin 1094 := by
  fun_induction scaleDown x e with
  | case1 x e he =>
    obtain ⟨hparts, hleast⟩ := Binary64.tenPow_parts e (Nat.lt_succ_of_le he)
    exact h.divMagnitude (k := 1090) (j := 0) (by decide) hparts hleast (by decide)
  | case2 x e _ _ => exact Nat.le_trans h (by decide)
  | case3 x e _ _ ih =>
    obtain ⟨hparts, _⟩ := Binary64.tenPow_parts maxTenPow (by decide)
    apply ih
    exact h.divMagnitude (k := 1086) (j := 4) (by decide) hparts
      (Int.le_trans (by decide) Binary64.maxTenPow_parts) (by decide)

theorem isFinite_of_scale {n : Nat} {e : Int} {x : Binary64} (hn : n < UInt64.size)
    (h : scale n e = .ok x) : x.isFinite := by
  unfold scale scaleUp at h
  split at h
  . split at h
    . dsimp at h
      split at h
      . next hfinite =>
        injection h with h
        exact h ▸ hfinite
      . nomatch h
    . split at h
      . next hzero =>
        injection h with h
        exact h ▸ Binary64.isFinite_of_isZero hzero
      . nomatch h
  . injection h with h
    have := isWithin_scaleDown (Binary64.isWithin_ofInteger false (n := n)
      (Nat.lt_trans hn (by decide))) (-e).toNat
    exact h ▸ this.isFinite (by decide)

theorem isFinite_of_double {t : Numeral} {x : Binary64} (h : t.double = .ok x) : x.isFinite := by
  unfold double at h
  dsimp only at h
  generalize hscale : scale _ _ = scaled at h
  cases scaled with
  | error fault => nomatch h
  | ok y =>
    have hy : y.isFinite := isFinite_of_scale (extend_lt (extend_lt (by decide))) hscale
    injection h with h
    rw [← h]
    split
    . rw [Binary64.isFinite_neg, hy]
    . exact hy

theorem isExact_natural {t : Numeral} {n : Nat}
    (h : t.isWhole && !t.negative && n < UInt64.size) : (Number.integer n).isExact := by
  simp only [Bool.and_eq_true, decide_eq_true_eq] at h
  simp only [Number.isExact, Bool.and_eq_true, decide_eq_true_eq]
  exact ⟨Int.le_trans (by decide) (Int.natCast_nonneg n), Int.ofNat_lt.mpr h.2⟩

theorem isExact_negative {t : Numeral} {n : Nat}
    (h : t.isWhole && t.negative && 0 < n && n ≤ Nat.pow 2 63)
    : (Number.integer (-n)).isExact := by
  simp only [Bool.and_eq_true, decide_eq_true_eq] at h
  simp only [Number.isExact, Bool.and_eq_true, decide_eq_true_eq]
  exact ⟨Int.neg_le_neg (Int.ofNat_le.mpr h.2), Int.lt_of_lt_of_le (by omega : -(n : Int) < 0)
    (by decide)⟩

def value (t : Numeral) : Except Fault {n : Number // n.isExact} :=
  let n := ofDigits t.whole
  if h : t.isWhole && !t.negative && n < UInt64.size then .ok ⟨.integer n, isExact_natural h⟩
  else if h : t.isWhole && t.negative && 0 < n && n ≤ Nat.pow 2 63 then
    .ok ⟨.integer (-n), isExact_negative h⟩
  else
    match h : t.double with
    | .ok x => .ok ⟨.double x (isFinite_of_double h), rfl⟩
    | .error fault => .error fault

end Numeral

end PulpGame.Json
