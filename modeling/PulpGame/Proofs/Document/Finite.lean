import PulpGame.Document.Reading
import PulpGame.Proofs.Json.Record

namespace PulpGame

open Json Json.Reader

def Envelope.IsFinite (e : Envelope) : Prop :=
  ∀ o ∈ [e.attack, e.decay, e.sustain, e.release, e.volume], ∀ x ∈ o, x.isFinite

structure Sound.IsFinite (s : Sound) : Prop where
  bpm : s.bpm.isFinite
  notes : ∀ notes ∈ s.notes, ∀ x ∈ notes, x.isFinite
  envelope : ∀ e ∈ s.envelope, e.IsFinite

structure Document.IsFinite (doc : Document) : Prop where
  tiles : ∀ t, some t ∈ doc.tiles → t.fps.isFinite
  sounds : ∀ s, some s ∈ doc.sounds → s.IsFinite

theorem need_eq_ok {α : Type} {name : String} {place : Option α} {a : α}
    (h : need name place = .ok a) : place = some a := by
  unfold need at h
  split at h
  . cases h
    rfl
  . cases h

theorem forall_mem_join {α : Type} {p : α → Prop} {o : Option (Option α)}
    (h : ∀ o' ∈ o, ∀ a ∈ o', p a) : ∀ a ∈ o.join, p a := by
  intro a ha
  exact h (some a) (Option.join_eq_some_iff.mp ha) a rfl

theorem Tile.gives_isFinite : Gives (·.fps.isFinite) Tile.reader := by
  refine gives_record (fun d : Tile.Draft => ∀ x ∈ d.fps, x.isFinite) ?_ ?_ ?_
  . simp
  . intro d key tree d' hd h
    unfold Draft.member at h
    split at h
    all_goals
      simp only [bind_eq_ok, pure_eq_ok] at h
      obtain ⟨_, hfound, rfl⟩ := h
    all_goals first | exact hd | exact gives_real.once hfound
  . intro d t hd h
    simp only [Draft.finish, bind_eq_ok, pure_eq_ok] at h
    obtain ⟨_, -, _, -, fps, hfps, _, -, _, -, _, -, rfl⟩ := h
    exact hd fps (need_eq_ok hfps)

theorem Envelope.gives_isFinite : Gives Envelope.IsFinite Envelope.reader := by
  refine gives_record (fun d : Envelope.Draft => ∀ o ∈ [d.attack, d.decay, d.sustain, d.release,
    d.volume], ∀ o' ∈ o, ∀ x ∈ o', x.isFinite) ?_ ?_ ?_
  . simp
  . intro d key tree d' hd h
    simp only [List.forall_mem_cons] at hd ⊢
    obtain ⟨hattack, hdecay, hsustain, hrelease, hvolume, hnil⟩ := hd
    unfold Draft.member at h
    split at h
    all_goals
      simp only [bind_eq_ok, pure_eq_ok] at h
      obtain ⟨_, hfound, rfl⟩ := h
      -- a field is the one that has been read, or it is as it was
      refine ⟨?_, ?_, ?_, ?_, ?_, hnil⟩
      all_goals first | assumption | exact gives_real.optional.once hfound
  . intro d e hd h
    rw [Draft.finish, pure_eq_ok] at h
    subst h
    simp only [List.forall_mem_cons] at hd
    obtain ⟨hattack, hdecay, hsustain, hrelease, hvolume, -⟩ := hd
    simp only [IsFinite, List.forall_mem_cons, List.not_mem_nil, false_implies, implies_true,
      and_true]
    exact ⟨forall_mem_join hattack, forall_mem_join hdecay, forall_mem_join hsustain,
      forall_mem_join hrelease, forall_mem_join hvolume⟩

theorem Sound.gives_isFinite : Gives Sound.IsFinite Sound.reader := by
  refine gives_record (fun d : Sound.Draft => (∀ x ∈ d.bpm, x.isFinite) ∧
    (∀ o ∈ d.notes, ∀ notes ∈ o, ∀ x ∈ notes, x.isFinite) ∧
      ∀ o ∈ d.envelope, ∀ e ∈ o, e.IsFinite) ?_ ?_ ?_
  . simp
  . intro d key tree d' ⟨hbpm, hnotes, henvelope⟩ h
    unfold Draft.member at h
    split at h
    all_goals
      simp only [bind_eq_ok, pure_eq_ok] at h
      obtain ⟨_, hfound, rfl⟩ := h
    all_goals
      first
      | exact ⟨hbpm, hnotes, henvelope⟩
      | exact ⟨gives_real.once hfound, hnotes, henvelope⟩
      | exact ⟨hbpm, gives_real.list.optional.once hfound, henvelope⟩
      | exact ⟨hbpm, hnotes, Envelope.gives_isFinite.optional.once hfound⟩
  . intro d s ⟨hbpm, hnotes, henvelope⟩ h
    simp only [Draft.finish, bind_eq_ok, pure_eq_ok] at h
    obtain ⟨_, -, _, -, _, -, bpm, hfound, rfl⟩ := h
    exact ⟨hbpm bpm (need_eq_ok hfound), forall_mem_join hnotes, forall_mem_join henvelope⟩

namespace Document

theorem element_cases {α : Type} {entity : Reader α} {tree : Tree} {entry : Option α}
    (h : element entity tree = .ok entry)
    : (∃ a, entity tree = .ok a ∧ entry = some a) ∨
        (tree = .null ∨ ∃ b, tree = .boolean b) ∧ (∀ a, entity tree ≠ .ok a) ∧ entry = none := by
  unfold element at h
  obtain ⟨_, -, h⟩ := bind_eq_ok.mp h
  cases hread : entity tree with
  | ok a =>
    simp only [hread, pure_eq_ok] at h
    exact .inl ⟨a, rfl, h.symm⟩
  | error fault =>
    rw [hread] at h
    split at h
    . contradiction
    . rw [pure_eq_ok] at h
      exact .inr ⟨.inl rfl, nofun, h.symm⟩
    . rw [pure_eq_ok] at h
      exact .inr ⟨.inr ⟨_, rfl⟩, nofun, h.symm⟩
    . cases h

theorem gives_element {α : Type} {p : α → Prop} {entity : Reader α} (h : Gives p entity)
    : Gives (∀ a ∈ ·, p a) (element entity) := by
  intro tree entry hentry
  rcases element_cases hentry with ⟨a, ha, rfl⟩ | ⟨-, -, rfl⟩
  . simpa using h tree a ha
  . simp

theorem gives_isFinite : Gives Document.IsFinite Document.reader := by
  refine gives_record (fun d : Document.Draft =>
    (∀ ts ∈ d.tiles, ∀ o ∈ ts, ∀ t ∈ o, t.fps.isFinite) ∧
      ∀ ss ∈ d.sounds, ∀ o ∈ ss, ∀ s ∈ o, s.IsFinite) ?_ ?_ ?_
  . simp
  . intro d key tree d' ⟨htiles, hsounds⟩ h
    unfold Draft.member at h
    split at h
    all_goals
      simp only [bind_eq_ok, pure_eq_ok] at h
      obtain ⟨_, hfound, rfl⟩ := h
    all_goals
      first
      | exact ⟨htiles, hsounds⟩
      | exact ⟨(gives_element Tile.gives_isFinite).list.once hfound, hsounds⟩
      | exact ⟨htiles, (gives_element Sound.gives_isFinite).list.once hfound⟩
  . intro d doc ⟨htiles, hsounds⟩ h
    simp only [Draft.finish, bind_eq_ok, pure_eq_ok] at h
    obtain ⟨_, -, _, -, _, -, rfl⟩ := h
    constructor
    . intro t ht
      cases hd : d.tiles with
      | none => simp [hd] at ht
      | some ts => exact htiles ts hd (some t) (by simpa [hd] using ht) t rfl
    . intro s hs
      cases hd : d.sounds with
      | none => simp [hd] at hs
      | some ss => exact hsounds ss hd (some s) (by simpa [hd] using hs) s rfl

theorem reader_of_ofText {source : String} {doc : Document} (h : ofText source = .ok doc)
    : reader (Tree.ofText source).1 = .ok doc := by
  unfold ofText at h
  generalize Tree.ofText source = text at h ⊢
  obtain ⟨found, hfound, h⟩ := bind_eq_ok.mp h
  split at h
  . rw [pure_eq_ok] at h
    exact h ▸ hfound
  . cases h

theorem of_ofText {p : Document → Prop} (hgives : Gives p Document.reader) {source : String}
    {doc : Document} (h : ofText source = .ok doc) : p doc :=
  hgives _ _ (reader_of_ofText h)

theorem isFinite_ofText {source : String} {doc : Document} (h : ofText source = .ok doc)
    : doc.IsFinite :=
  of_ofText gives_isFinite h

end Document

end PulpGame
