import PulpGame.Json.Record
import PulpGame.Proofs.Outcome

namespace PulpGame.Json

variable {α β σ : Type}

/-- The entries of a record: the members whose keys can be read, or the items of a sequence under
the names of the fields. -/
def Shape.entries (shape : Shape) : Tree → List (String × Tree)
  | .mapping members _ => members.filterMap fun m => m.1.toOption.map (·, m.2)
  | .sequence items _ => shape.fields.zip items
  | _ => []

namespace Reader

def Gives (p : α → Prop) (reader : Reader α) : Prop := ∀ tree a, reader tree = .ok a → p a

variable {p : α → Prop} {reader : Reader α}

theorem mismatch_ne_ok (wanted : String) (tree : Tree) (a : α) : mismatch wanted tree ≠ .ok a := by
  unfold mismatch
  split <;> simp [bind_eq_ok, throw, throwThe, MonadExceptOf.throw]

theorem gives_real : Gives (·.isFinite) real := by
  intro tree a h
  unfold real at h
  split at h
  . obtain ⟨⟨n, hexact⟩, -, h⟩ := bind_eq_ok.mp h
    dsimp only at h
    split at h
    . next i =>
      rw [pure_eq_ok] at h
      subst h
      simp only [Number.isExact, Bool.and_eq_true, decide_eq_true_eq] at hexact
      have hleast : Int64.minValue.toInt = -2 ^ 63 := rfl
      have hsize : (UInt64.size : Int) = 2 ^ 64 := rfl
      apply (Binary64.isWithin_ofInteger _ _).isFinite (by decide)
      rw [Nat.pow_eq]
      omega
    . next x hx =>
      rw [pure_eq_ok] at h
      exact h ▸ hx
  . exact absurd h (mismatch_ne_ok _ _ _)

theorem forall₂_of_mapM {f : β → Except Fault α} {bs : List β} {as : List α}
    (h : bs.mapM f = .ok as) : List.Forall₂ (fun b a => f b = .ok a) bs as := by
  induction bs generalizing as with
  | nil =>
    rw [List.mapM_nil, pure_eq_ok] at h
    exact h ▸ .nil
  | cons b bs ih =>
    simp only [List.mapM_cons, bind_eq_ok, pure_eq_ok] at h
    obtain ⟨a, ha, rest, hrest, rfl⟩ := h
    exact .cons ha (ih hrest)

theorem list_eq_ok {tree : Tree} {as : List α} (h : list reader tree = .ok as)
    : ∃ items, tree = .sequence items none ∧
        List.Forall₂ (fun t a => reader t = .ok a) items as := by
  unfold Reader.list at h
  split at h
  . next items close =>
    simp only [bind_eq_ok, pure_eq_ok] at h
    obtain ⟨found, hfound, u, hclose, rfl⟩ := h
    cases close with
    | none => exact ⟨items, rfl, forall₂_of_mapM hfound⟩
    | some defect => cases hclose
  . exact absurd h (mismatch_ne_ok _ _ _)

theorem Gives.list (h : Gives p reader) : Gives (∀ a ∈ ·, p a) (list reader) := by
  intro tree as has
  obtain ⟨items, -, hitems⟩ := list_eq_ok has
  clear has
  induction hitems with
  | nil => exact List.forall_mem_nil _
  | cons ha _ ih => exact List.forall_mem_cons.mpr ⟨h _ _ ha, ih⟩

theorem Gives.optional (h : Gives p reader) : Gives (∀ a ∈ ·, p a) (optional reader) := by
  intro tree o ho
  unfold Reader.optional at ho
  split at ho
  . cases ho
    simp
  . obtain ⟨a, ha, rfl⟩ := map_eq_ok.mp ho
    simpa using h tree a ha

theorem once_eq_ok {name : String} {place found : Option α} {tree : Tree}
    (h : once name place reader tree = .ok found)
    : place = none ∧ ∃ a, reader tree = .ok a ∧ found = some a := by
  unfold once at h
  split at h
  . cases h
  . obtain ⟨a, ha, rfl⟩ := map_eq_ok.mp h
    exact ⟨rfl, a, ha, rfl⟩

theorem Gives.once (h : Gives p reader) {name : String} {place found : Option α} {tree : Tree}
    (hfound : once name place reader tree = .ok found) : ∀ a ∈ found, p a := by
  obtain ⟨-, a, ha, rfl⟩ := once_eq_ok hfound
  simpa using h tree a ha

theorem foldlM_keeps {inv : σ → Prop} {f : σ → β → Except Fault σ}
    (hf : ∀ s b s', inv s → f s b = .ok s' → inv s') {bs : List β} {s s' : σ} (hs : inv s)
    (h : bs.foldlM f s = .ok s') : inv s' := by
  induction bs generalizing s with
  | nil =>
    rw [List.foldlM_nil, pure_eq_ok] at h
    exact h ▸ hs
  | cons b bs ih =>
    rw [List.foldlM_cons, bind_eq_ok] at h
    obtain ⟨mid, hmid, h⟩ := h
    exact ih (hf s b mid hs hmid) h

theorem foldlM_members {member : σ → String → Reader σ}
    {members : List (Except Fault String × Tree)} {s s' : σ}
    (h : members.foldlM (fun s (key, tree) => do member s (← key) tree) s = .ok s')
    : (members.filterMap fun m => m.1.toOption.map (·, m.2)).foldlM
        (fun s e => member s e.1 e.2) s = .ok s' := by
  induction members generalizing s with
  | nil => exact h
  | cons m members ih =>
    obtain ⟨key, tree⟩ := m
    simp only [List.foldlM_cons, bind_eq_ok] at h
    obtain ⟨mid, ⟨k, rfl, hmid⟩, h⟩ := h
    exact bind_eq_ok.mpr ⟨mid, hmid, ih h⟩

theorem record_eq_ok {shape : Shape} {empty : σ} {member : σ → String → Reader σ}
    {finish : σ → Except Fault α} {tree : Tree} {a : α}
    (h : record shape ⟨empty, member⟩ finish tree = .ok a)
    : ∃ s, (shape.entries tree).foldlM (fun s e => member s e.1 e.2) empty = .ok s ∧
        finish s = .ok a := by
  unfold record at h
  split at h
  . next members close =>
    simp only [bind_eq_ok] at h
    obtain ⟨s, hs, _, -, h⟩ := h
    exact ⟨s, foldlM_members hs, h⟩
  . rw [bind_eq_ok] at h
    obtain ⟨s, hs, h⟩ := h
    refine ⟨s, hs, ?_⟩
    split at h
    . obtain ⟨_, -, h⟩ := bind_eq_ok.mp h
      split at h
      . simp [throw, throwThe, MonadExceptOf.throw, bind_eq_ok] at h
      . exact h
    . simp only [bind_eq_ok, pure_eq_ok] at h
      obtain ⟨_, h, _, -, rfl⟩ := h
      exact h
  . exact absurd h (mismatch_ne_ok _ _ _)

theorem gives_record {shape : Shape} {empty : σ} {member : σ → String → Reader σ}
    {finish : σ → Except Fault α} (inv : σ → Prop) (hempty : inv empty)
    (hmember : ∀ s key tree s', inv s → member s key tree = .ok s' → inv s')
    (hfinish : ∀ s a, inv s → finish s = .ok a → p a)
    : Gives p (record shape ⟨empty, member⟩ finish) := by
  intro tree a h
  obtain ⟨s, hs, h⟩ := record_eq_ok h
  refine hfinish s a (foldlM_keeps ?_ hempty hs) h
  rintro s e s' hinv h
  exact hmember s e.1 e.2 s' hinv h

end Reader

end PulpGame.Json
