import Mathlib
import PulpGame.Ledger

namespace PulpGame

theorem nodup_eraseDups {α : Type} [BEq α] [LawfulBEq α] (as : List α) : as.eraseDups.Nodup := by
  induction hlength : as.length using Nat.strongRecOn generalizing as with
  | ind n ih =>
    cases as with
    | nil => exact .nil
    | cons a as =>
      have hshorter : (as.filter fun b => !b == a).length < n := by
        have := List.length_filter_le (fun b => !b == a) as
        simp only [List.length_cons] at hlength
        omega
      rw [List.eraseDups_cons, List.nodup_cons]
      refine ⟨?_, ih _ hshorter _ rfl⟩
      rw [List.mem_eraseDups, List.mem_filter]
      simp

theorem nodup_sortedOnce (texts : List String) : (sortedOnce texts).Nodup :=
  (List.mergeSort_perm _ _).nodup_iff.mpr (nodup_eraseDups texts)

theorem mem_sortedOnce {texts : List String} {t : String} : t ∈ sortedOnce texts ↔ t ∈ texts := by
  rw [sortedOnce, List.mem_mergeSort, List.mem_eraseDups]

theorem pairwise_sortedOnce (texts : List String) : (sortedOnce texts).Pairwise (· ≤ ·) :=
  List.pairwise_mergeSort' (· ≤ ·) texts.eraseDups

theorem sortedOnce_congr {texts texts' : List String} (h : ∀ t, t ∈ texts ↔ t ∈ texts')
    : sortedOnce texts = sortedOnce texts' := by
  have hperm : (sortedOnce texts).Perm (sortedOnce texts') := by
    rw [List.perm_ext_iff_of_nodup (nodup_sortedOnce _) (nodup_sortedOnce _)]
    intro t
    rw [mem_sortedOnce, mem_sortedOnce, h]
  exact hperm.eq_of_pairwise' (pairwise_sortedOnce _) (pairwise_sortedOnce _)

def timesUsed (usage : List (String × Nat)) (v : String) : Nat := (usage.lookup v).getD 0

namespace Ledger

def reports (l : Ledger) : List String := l.notes.filterMap Note.text?

theorem reports_append (l : Ledger) (notes : List Note)
    : reports { l with notes := l.notes ++ notes } = l.reports ++ notes.filterMap Note.text? :=
  List.filterMap_append

theorem mimics_append (l : Ledger) (notes : List Note)
    : mimics { l with notes := l.notes ++ notes } = l.mimics ++ notes.filterMap Note.request? :=
  List.filterMap_append

theorem uses_append (l : Ledger) (notes : List Note)
    : uses { l with notes := l.notes ++ notes } = l.uses ++ notes.filterMap Note.used? :=
  List.filterMap_append

theorem timesUsed_usage (l : Ledger) (v : String) : timesUsed l.usage v = l.uses.count v := by
  unfold timesUsed usage
  by_cases h : v ∈ l.uses
  . rw [List.lookup_graph _ (mem_sortedOnce.mpr h)]
    rfl
  . have hnone : (List.map (fun v => (v, l.uses.count v)) (sortedOnce l.uses)).lookup v = none := by
      rw [List.lookup_eq_none_iff, List.forall_mem_map]
      intro w hw
      rw [bne_iff_ne]
      rintro rfl
      exact h (mem_sortedOnce.mp hw)
    rw [hnone, List.count_eq_zero.mpr h]
    rfl

theorem timesUsed_append (l : Ledger) (notes : List Note) (v : String)
    : timesUsed (usage { l with notes := l.notes ++ notes }) v =
        timesUsed l.usage v + (notes.filterMap Note.used?).count v := by
  rw [timesUsed_usage, timesUsed_usage, uses_append, List.count_append]

theorem usage_names (l : Ledger) : l.usage.map (·.1) = sortedOnce l.uses := by
  simp [usage, Function.comp_def]

theorem uses_diagnostic (l : Ledger) (text : String)
    : (l.note (.diagnostic text)).uses = l.uses := by
  simp [uses, note, Note.used?]

section

variable {l l' : Ledger} (h : l.notes.Perm l'.notes)

include h

theorem usage_eq_of_perm : l.usage = l'.usage := by
  have huses : l.uses.Perm l'.uses := h.filterMap _
  rw [usage, usage, sortedOnce_congr fun t => huses.mem_iff]
  apply List.map_congr_left
  intro v _
  rw [huses.count_eq]

theorem diagnostics_eq_of_perm : l.diagnostics = l'.diagnostics :=
  sortedOnce_congr fun _ => (h.filterMap _).mem_iff

end

end Ledger

end PulpGame
