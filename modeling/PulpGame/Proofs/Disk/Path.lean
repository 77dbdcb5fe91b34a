import PulpGame.Disk.Path
import PulpGame.Proofs.Text.Lines

namespace PulpGame.Disk

structure IsFileName (name : String) : Prop where
  ne_empty : name ≠ ""
  no_slash : '/' ∉ name.toList
  ne_dot : name ≠ "."
  ne_dots : name ≠ ".."

namespace Path

theorem steps_of_mem {p : Path} {s : String} (h : s ∈ p.steps) : s ≠ "" ∧ '/' ∉ s.toList := by
  simp only [steps, List.mem_map, List.mem_filter] at h
  obtain ⟨cs, ⟨hmem, hne⟩, rfl⟩ := h
  refine ⟨?_, by simpa using Text.not_mem_of_mem_pieces hmem⟩
  rintro hempty
  rw [String.ofList_eq_empty_iff] at hempty
  simp [hempty] at hne

theorem eq_of_fileName? {p : Path} {name : String} (h : p.fileName? = some name)
    : p.named.getLast? = some name ∧ IsFileName name := by
  unfold fileName? at h
  split at h
  . cases h
  . next hne =>
    refine ⟨h, ?_⟩
    have hmem : name ∈ p.named := List.mem_of_getLast? h
    simp only [named, List.mem_filter, bne_iff_ne] at hmem
    obtain ⟨hstep, hdot⟩ := hmem
    obtain ⟨hempty, hslash⟩ := steps_of_mem hstep
    refine ⟨hempty, hslash, hdot, ?_⟩
    rintro rfl
    exact hne h

theorem join_cases (directory name : String)
    : directory = "" ∧ join directory name = name ∨
      (∃ front, directory.toList = front ++ ['/'] ∧
        (join directory name).toList = front ++ '/' :: name.toList) ∨
      directory ≠ "" ∧ (join directory name).toList = directory.toList ++ '/' :: name.toList := by
  unfold join
  split
  . next hcase =>
    rcases Bool.or_eq_true _ _ |>.mp hcase with hempty | hslash
    . have hempty : directory = "" := by simpa using hempty
      exact .inl ⟨hempty, by simp [hempty]⟩
    . obtain ⟨front, hfront⟩ := List.getLast?_eq_some_iff.mp (beq_iff_eq.mp hslash)
      exact .inr (.inl ⟨front, hfront, by simp [hfront]⟩)
  . next hcase =>
    refine .inr (.inr ⟨?_, by simp⟩)
    rintro rfl
    simp at hcase

section

variable (directory : String) {name : String} (h : IsFileName name)

include h

theorem steps_join : (Path.mk (join directory name)).steps = (Path.mk directory).steps ++ [name] := by
  have hname : (Text.pieces '/' name.toList).filter (!·.isEmpty) = [name.toList] := by
    rw [Text.pieces_whole h.no_slash]
    simp [h.ne_empty]
  unfold steps
  rcases join_cases directory name with ⟨rfl, hjoin⟩ | ⟨front, hfront, hjoin⟩ | ⟨-, hjoin⟩
  . rw [hjoin, hname]
    simp [Text.pieces]
  . rw [hjoin, hfront, Text.pieces_separator, Text.pieces_separator, List.filter_append, hname]
    simp [Text.pieces]
  . rw [hjoin, Text.pieces_separator, List.filter_append, hname]
    simp

theorem absolute_join : (Path.mk (join directory name)).absolute = (Path.mk directory).absolute := by
  unfold absolute
  rcases join_cases directory name with ⟨rfl, hjoin⟩ | ⟨front, hfront, hjoin⟩ | ⟨hne, hjoin⟩
  . have hhead : name.toList.head? ≠ some '/' := by
      intro hhead
      exact h.no_slash (List.mem_of_head? hhead)
    rw [hjoin]
    simpa using hhead
  . rw [hjoin, hfront]
    cases front <;> rfl
  . rw [hjoin]
    cases hchars : directory.toList with
    | nil => exact absurd (String.toList_eq_nil_iff.mp hchars) hne
    | cons c cs => rfl

theorem not_slashed_join : (Path.mk (join directory name)).slashed = false := by
  have hlast (front : List Char) : (front ++ name.toList).getLast? ≠ some '/' := by
    intro hslash
    rw [List.getLast?_append_of_ne_nil _ (by simpa using h.ne_empty)] at hslash
    exact h.no_slash (List.mem_of_getLast? hslash)
  unfold slashed
  rcases join_cases directory name with ⟨-, hjoin⟩ | ⟨front, -, hjoin⟩ | ⟨-, hjoin⟩
  . rw [hjoin]
    simpa using hlast []
  . rw [hjoin, ← List.singleton_append, ← List.append_assoc]
    simpa using hlast (front ++ ['/'])
  . rw [hjoin, ← List.singleton_append, ← List.append_assoc]
    simpa using hlast (directory.toList ++ ['/'])

end

end Path

end PulpGame.Disk
