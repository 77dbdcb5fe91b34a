import Mathlib
import PulpGame.Text.Basic

namespace PulpGame.Text

variable {separator : Char}

theorem pieces_ne_nil (cs : List Char) : pieces separator cs ≠ [] := by
  cases cs with
  | nil => simp [pieces]
  | cons c cs =>
    unfold pieces
    split
    . simp
    . split <;> simp

theorem pieces_separator (cs rest : List Char)
    : pieces separator (cs ++ separator :: rest) = pieces separator cs ++ pieces separator rest := by
  induction cs with
  | nil => simp [pieces]
  | cons c cs ih =>
    rw [List.cons_append, pieces, pieces, ih]
    split
    . rfl
    . cases hpieces : pieces separator cs with
      | nil => exact absurd hpieces (pieces_ne_nil cs)
      | cons p ps => rfl

theorem pieces_whole {cs : List Char} (h : separator ∉ cs) : pieces separator cs = [cs] := by
  induction cs with
  | nil => rfl
  | cons c cs ih =>
    simp only [List.mem_cons, not_or] at h
    rw [pieces, if_neg (Ne.symm h.1), ih h.2]

theorem not_mem_of_mem_pieces {cs p : List Char} (h : p ∈ pieces separator cs) : separator ∉ p := by
  induction cs generalizing p with
  | nil =>
    simp only [pieces, List.mem_singleton] at h
    simp [h]
  | cons c cs ih =>
    rw [pieces] at h
    split at h
    . rcases List.mem_cons.mp h with rfl | h
      . simp
      . exact ih h
    . next hc =>
      split at h
      . next hnil => exact absurd hnil (pieces_ne_nil cs)
      . next q ps hpieces =>
        rcases List.mem_cons.mp h with rfl | h
        . simp only [List.mem_cons, not_or]
          exact ⟨Ne.symm hc, ih (by rw [hpieces]; exact List.mem_cons_self)⟩
        . exact ih (by rw [hpieces]; exact List.mem_cons_of_mem _ h)

def IsLine (s : String) : Prop := '\n' ∉ s.toList ∧ s.toList.getLast? ≠ some '\r'

theorem pieces_join {ls : List String} (h : ∀ l ∈ ls, IsLine l)
    : pieces '\n' (String.join (ls.map (· ++ "\n"))).toList = ls.map String.toList ++ [[]] := by
  induction ls with
  | nil => rfl
  | cons l ls ih =>
    simp only [List.forall_mem_cons] at h
    have hjoin : (String.join ((l :: ls).map (· ++ "\n"))).toList =
        l.toList ++ '\n' :: (String.join (ls.map (· ++ "\n"))).toList := by simp
    rw [hjoin, pieces_separator, pieces_whole h.1.1, ih h.2]
    rfl

theorem lines_join {ls : List String} (h : ∀ l ∈ ls, IsLine l)
    : lines (String.join (ls.map (· ++ "\n"))) = ls := by
  have hkept : (ls.map String.toList).map
      (fun l => if l.getLast? == some '\r' then l.dropLast else l) = ls.map String.toList := by
    rw [List.map_map]
    apply List.map_congr_left
    intro l hl
    simp [(h l hl).2]
  unfold lines
  dsimp only
  rw [pieces_join h, List.dropLast_concat, hkept]
  simp [Function.comp_def]

end PulpGame.Text
