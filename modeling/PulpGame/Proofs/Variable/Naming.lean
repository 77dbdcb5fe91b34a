import PulpGame.Program.Interface
import PulpGame.Proofs.Lua.Machine

namespace PulpGame.Variable

theorem hasReserved_reserved (n : String) : hasReserved (reserved ++ n).toList := by
  rw [String.toList_append]
  rfl

theorem needsNamespace_namespaced {n : String} (h : needsNamespace n)
    : hasReserved (namespaced n).toList := by
  rw [namespaced, if_pos h]
  exact hasReserved_reserved n

theorem namespaced_of_not {n : String} (h : needsNamespace n = false) : namespaced n = n := by
  rw [namespaced, h, if_neg (by simp)]

theorem namespaced_injective : Function.Injective namespaced := by
  have hmixed {n m : String} (hn : needsNamespace n) (hm : needsNamespace m = false)
      (h : namespaced n = namespaced m) : False := by
    have hreserved := needsNamespace_namespaced hn
    rw [h, namespaced_of_not hm] at hreserved
    simp [needsNamespace, hreserved] at hm
  intro n m h
  cases hn : needsNamespace n with
  | true =>
    cases hm : needsNamespace m with
    | true =>
      rw [namespaced, namespaced, if_pos hn, if_pos hm] at h
      have := congrArg String.toList h
      simpa [String.toList_inj] using this
    | false => exact (hmixed hn hm h).elim
  | false =>
    cases hm : needsNamespace m with
    | true => exact (hmixed hm hn h.symm).elim
    | false => rwa [namespaced_of_not hn, namespaced_of_not hm] at h

theorem namespaced_ne_globals (n : String) : namespaced n ≠ "_G" := by
  intro h
  cases hn : needsNamespace n with
  | true =>
    have := needsNamespace_namespaced hn
    rw [h] at this
    exact absurd this (by decide)
  | false =>
    rw [namespaced_of_not hn] at h
    subst h
    exact absurd hn (by decide)

theorem isBare_iff {n : String} : isBare n ↔ Lua.isName n ∧ needsNamespace n = false := by
  simp [isBare]

theorem namespaced_of_isBare {n : String} (h : isBare n) : namespaced n = n :=
  namespaced_of_not (isBare_iff.mp h).2

theorem eq_of_isBare_namespaced {n : String} (h : isBare (namespaced n)) : namespaced n = n := by
  apply namespaced_of_not
  rw [Bool.eq_false_iff]
  intro hn
  have := (isBare_iff.mp h).2
  simp [needsNamespace, needsNamespace_namespaced hn] at this

theorem ne_of_isBare {n m : String} (h : isBare n) (hm : isBare m = false) : n ≠ m := by
  rintro rfl
  rw [h] at hm
  cases hm

theorem position?_reserved (cs : List Char)
    : (Lua.position? reserved.toList cs).isSome = hasReserved cs := by
  induction cs using hasReserved.induct with
  | case1 cs => rfl
  | case2 c cs hne ih =>
    have hfront : reserved.toList.isPrefixOf (c :: cs) = false := by
      change ['_', '_'].isPrefixOf (c :: cs) = false
      cases cs with
      | nil => simp [List.isPrefixOf]
      | cons d ds =>
        simp only [List.isPrefixOf, Bool.and_true, Bool.and_eq_false_iff, beq_eq_false_iff_ne]
        by_contra hboth
        simp only [not_or, not_not] at hboth
        obtain ⟨rfl, rfl⟩ := hboth
        exact hne ds rfl rfl
    rw [Lua.position?, if_neg (by simp [hfront]), Option.isSome_map, ih, hasReserved]
    exact hne
  | case3 => rfl

end PulpGame.Variable
