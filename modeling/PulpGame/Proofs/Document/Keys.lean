import PulpGame.Proofs.Document.Finite

namespace PulpGame

open Json Json.Reader

namespace Json

def HasKeysOnce (members : List (String × Value)) : Prop := (members.map (·.1)).Nodup

instance (members : List (String × Value)) : Decidable (HasKeysOnce members) :=
  inferInstanceAs (Decidable (members.map (·.1)).Nodup)

theorem hasKeysOnce_putMember {members : List (String × Value)} (h : HasKeysOnce members)
    (key : String) (value : Value) : HasKeysOnce (putMember members key value) := by
  unfold HasKeysOnce putMember at *
  split
  . -- a key that is there stays where it is
    have hkeys : (members.map fun m => if m.1 == key then (key, value) else m).map (·.1) =
        members.map (·.1) := by
      rw [List.map_map]
      apply List.map_congr_left
      intro m _
      rw [Function.comp_apply]
      split
      . next hm => exact (eq_of_beq hm).symm
      . rfl
    rwa [hkeys]
  . next hnew =>
    rw [List.map_append, List.nodup_append']
    refine ⟨h, List.nodup_singleton _, ?_⟩
    rw [List.map_singleton, List.disjoint_singleton, List.mem_map]
    rintro ⟨m, hm, hkey⟩
    apply hnew
    rw [List.any_eq_true]
    exact ⟨m, hm, beq_iff_eq.mpr hkey⟩

theorem hasKeysOnce_keepMembers {room : Nat} {found members : List (String × Value)}
    {trees : List (Except Fault String × Tree)} (h : HasKeysOnce found)
    (hmembers : Tree.keepMembers room found trees = .ok members) : HasKeysOnce members := by
  induction trees generalizing found with
  | nil =>
    cases hmembers
    exact h
  | cons tree trees ih =>
    simp only [Tree.keepMembers, bind_eq_ok] at hmembers
    obtain ⟨key, -, value, -, hrest⟩ := hmembers
    exact ih (hasKeysOnce_putMember h key value) hrest

theorem Reader.gives_hasKeysOnce (room : Nat) : Gives HasKeysOnce (members room) := by
  intro tree ms h
  unfold members at h
  split at h
  . simp only [bind_eq_ok, pure_eq_ok] at h
    obtain ⟨found, hfound, _, -, rfl⟩ := h
    have hnone : HasKeysOnce [] := List.nodup_nil
    exact hasKeysOnce_keepMembers hnone hfound
  . exact absurd h (mismatch_ne_ok _ _ _)

end Json

theorem Script.gives_hasKeysOnce : Gives (fun s => HasKeysOnce (s.data.getD [])) Script.reader := by
  refine gives_record (fun d : Script.Draft => ∀ o ∈ d.data, ∀ ms ∈ o, HasKeysOnce ms) ?_ ?_ ?_
  . simp
  . intro d key tree d' hd h
    unfold Draft.member at h
    split at h
    all_goals
      simp only [bind_eq_ok, pure_eq_ok] at h
      obtain ⟨_, hfound, rfl⟩ := h
    all_goals first | exact hd | exact (Reader.gives_hasKeysOnce room).optional.once hfound
  . intro d s hd h
    simp only [Draft.finish, bind_eq_ok, pure_eq_ok] at h
    obtain ⟨_, -, _, -, rfl⟩ := h
    have hall := forall_mem_join hd
    cases hdata : d.data.join with
    | none => exact List.nodup_nil
    | some ms => exact hall ms hdata

namespace Document

theorem gives_hasKeysOnce
    : Gives (fun doc => ∀ s ∈ doc.scripts, HasKeysOnce (s.data.getD [])) Document.reader := by
  refine gives_record (fun d : Document.Draft => ∀ ss ∈ d.scripts, ∀ s ∈ ss,
    HasKeysOnce (s.data.getD [])) ?_ ?_ ?_
  . simp
  . intro d key tree d' hd h
    unfold Draft.member at h
    split at h
    all_goals
      simp only [bind_eq_ok, pure_eq_ok] at h
      obtain ⟨_, hfound, rfl⟩ := h
    all_goals first | exact hd | exact Script.gives_hasKeysOnce.list.once hfound
  . intro d doc hd h
    simp only [Draft.finish, bind_eq_ok, pure_eq_ok] at h
    obtain ⟨_, -, _, -, _, -, rfl⟩ := h
    intro s hs
    cases hscripts : d.scripts with
    | none => simp [hscripts] at hs
    | some ss => exact hd ss hscripts s (by simpa [hscripts] using hs)

theorem hasKeysOnce_ofText {source : String} {doc : Document} (h : ofText source = .ok doc)
    : ∀ s ∈ doc.scripts, HasKeysOnce (s.data.getD []) :=
  of_ofText gives_hasKeysOnce h

end Document

end PulpGame
