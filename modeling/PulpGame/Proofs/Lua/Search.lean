import Mathlib
import PulpGame.Lua.Token

namespace PulpGame.Lua

variable {cs : List Char} {level found : Nat}

theorem occurs_iff {needle : List Char} : occurs needle cs ↔ needle <:+: cs := by
  induction cs with
  | nil => simp [occurs]
  | cons c cs ih =>
    rw [occurs, Bool.or_eq_true, List.isPrefixOf_iff_prefix, ih, List.infix_cons_iff]

theorem length_closingBracket (level : Nat) : (closingBracket level).length = level + 2 := by
  simp [closingBracket]

theorem not_infix_of_length_lt (h : cs.length < level + 2) : ¬closingBracket level <:+: cs := by
  intro hoccurs
  have hlength := hoccurs.length_le
  rw [length_closingBracket] at hlength
  omega

/-- The search from a level on, which nothing bounds: a level whose closing bracket occurs is left
for the next one, and the first level of another kind is found. -/
inductive Searches (cs : List Char) : (level found : Nat) → Prop
  | stop {level : Nat} (hfree : ¬closingBracket level <:+: cs) : Searches cs level level
  | next {level found : Nat} (hoccurs : closingBracket level <:+: cs)
      (hrest : Searches cs (level + 1) found) : Searches cs level found

theorem Searches.unique {found' : Nat} (h : Searches cs level found)
    (h' : Searches cs level found') : found = found' := by
  induction h with
  | stop hfree =>
    cases h' with
    | stop => rfl
    | next hoccurs => exact absurd hoccurs hfree
  | next hoccurs _ ih =>
    cases h' with
    | stop hfree => exact absurd hoccurs hfree
    | next _ hrest => exact ih hrest

theorem Searches.free (h : Searches cs level found) : ¬closingBracket found <:+: cs := by
  induction h with
  | stop hfree => exact hfree
  | next _ _ ih => exact ih

theorem Searches.found_le {free : Nat} (h : Searches cs level found) (hle : level ≤ free)
    (hfree : ¬closingBracket free <:+: cs) : found ≤ free := by
  induction h with
  | stop => exact hle
  | @next level _ hoccurs _ ih =>
    have hne : level ≠ free := by
      rintro rfl
      exact hfree hoccurs
    exact ih (by omega)

theorem searches_freeLevel {fuel : Nat} (h : cs.length < level + fuel + 2)
    : Searches cs level (freeLevel cs level fuel) := by
  induction fuel generalizing level with
  | zero => exact .stop (not_infix_of_length_lt h)
  | succ fuel ih =>
    unfold freeLevel
    split
    . next hoccurs => exact .next (occurs_iff.mp hoccurs) (ih (by omega))
    . next hfree => exact .stop fun hoccurs => hfree (occurs_iff.mpr hoccurs)

theorem searches_bracketLevel (text : List Char)
    : Searches (text ++ [']']) 0 (bracketLevel text) := by
  apply searches_freeLevel
  simp

theorem bracketLevel_le_length (text : List Char) : bracketLevel text ≤ text.length := by
  apply (searches_bracketLevel text).found_le (Nat.zero_le _)
  apply not_infix_of_length_lt
  simp

end PulpGame.Lua
