import Mathlib

namespace PulpGame

variable {ε ε' σ α β : Type}

@[simp]
theorem isOk_ok (a : α) : (Except.ok a : Except ε α).isOk := rfl

@[simp]
theorem isOk_error (e : ε) : (Except.error e : Except ε α).isOk = false := rfl

theorem bind_eq_ok {x : Except ε α} {f : α → Except ε β} {b : β}
    : x >>= f = .ok b ↔ ∃ a, x = .ok a ∧ f a = .ok b := by
  cases x with
  | ok a =>
    change f a = .ok b ↔ _
    simp
  | error e =>
    change (Except.error e : Except ε β) = .ok b ↔ _
    simp

theorem pure_eq_ok {a b : α} : (pure a : Except ε α) = .ok b ↔ a = b := by
  change (Except.ok a : Except ε α) = .ok b ↔ _
  simp

theorem throw_ne_ok {e : ε} {a : α} : (throw e : Except ε α) ≠ .ok a := by
  change Except.error e ≠ _
  simp

theorem map_eq_ok {x : Except ε α} {f : α → β} {b : β}
    : f <$> x = .ok b ↔ ∃ a, x = .ok a ∧ f a = b := by
  cases x with
  | ok a =>
    change (Except.ok (f a) : Except ε β) = .ok b ↔ _
    simp
  | error e =>
    change (Except.error e : Except ε β) = .ok b ↔ _
    simp

theorem mapError_eq_ok {fail : ε → ε'} {x : Except ε α} {a : α}
    : x.mapError fail = .ok a ↔ x = .ok a := by
  cases x <;> simp [Except.mapError]

theorem mapError_eq_error {fail : ε → ε'} {x : Except ε α} {e : ε'}
    : x.mapError fail = .error e ↔ ∃ cause, x = .error cause ∧ fail cause = e := by
  cases x <;> simp [Except.mapError]

def outcome (m : ExceptT ε (StateM σ) α) (s : σ) : Except ε α × σ := m.run.run s

def Runs (m : ExceptT ε (StateM σ) α) (s : σ) (a : α) (s' : σ) : Prop :=
  outcome m s = (.ok a, s')

theorem outcome_bind (m : ExceptT ε (StateM σ) α) (f : α → ExceptT ε (StateM σ) β) (s : σ)
    : outcome (m >>= f) s =
        match outcome m s with
        | (.ok a, mid) => outcome (f a) mid
        | (.error e, mid) => (.error e, mid) := by
  change (ExceptT.bindCont f (outcome m s).1).run (outcome m s).2 = _
  rcases outcome m s with ⟨e | a, mid⟩ <;> rfl

theorem runs_pure {a b : α} {s s' : σ}
    : Runs (pure a : ExceptT ε (StateM σ) α) s b s' ↔ a = b ∧ s = s' := by
  change ((Except.ok a, s) : Except ε α × σ) = (.ok b, s') ↔ _
  simp

theorem runs_throw {e : ε} {a : α} {s s' : σ}
    : ¬Runs (throw e : ExceptT ε (StateM σ) α) s a s' := by
  change ¬((Except.error e, s) : Except ε α × σ) = (.ok a, s')
  simp

theorem runs_bind {m : ExceptT ε (StateM σ) α} {f : α → ExceptT ε (StateM σ) β} {b : β} {s s' : σ}
    : Runs (m >>= f) s b s' ↔ ∃ a mid, Runs m s a mid ∧ Runs (f a) mid b s' := by
  unfold Runs
  rw [outcome_bind]
  rcases outcome m s with ⟨e | a, mid⟩
  . simp
  . constructor
    . intro h
      exact ⟨a, mid, rfl, h⟩
    . rintro ⟨a', mid', hm, hf⟩
      cases hm
      exact hf

theorem runs_modify {f : σ → σ} {u : Unit} {s s' : σ}
    : Runs (modify f : ExceptT ε (StateM σ) Unit) s u s' ↔ s' = f s := by
  change ((Except.ok (), f s) : Except ε Unit × σ) = (.ok u, s') ↔ _
  simp [eq_comm]

theorem runs_unique {m : ExceptT ε (StateM σ) α} {a b : α} {s mid last : σ} (h : Runs m s a mid)
    (h' : Runs m s b last) : a = b ∧ mid = last := by
  unfold Runs at h h'
  rw [h] at h'
  cases h'
  exact ⟨rfl, rfl⟩

theorem isOk_outcome {m : ExceptT ε (StateM σ) α} {s : σ}
    : (outcome m s).1.isOk ↔ ∃ a s', Runs m s a s' := by
  unfold Runs
  rcases outcome m s with ⟨e | a, mid⟩ <;> simp

theorem runs_get {a s s' : σ} : Runs (get : ExceptT ε (StateM σ) σ) s a s' ↔ a = s ∧ s' = s := by
  change ((Except.ok s, s) : Except ε σ × σ) = (.ok a, s') ↔ _
  simp [eq_comm]

def Total (m : ExceptT ε (StateM σ) α) : Prop := ∀ s, ∃ a s', Runs m s a s'

namespace Total

theorem pure {a : α} : Total (Pure.pure a : ExceptT ε (StateM σ) α) :=
  fun s => ⟨a, s, runs_pure.mpr ⟨rfl, rfl⟩⟩

theorem modify {f : σ → σ} : Total (modify f : ExceptT ε (StateM σ) Unit) :=
  fun s => ⟨(), f s, runs_modify.mpr rfl⟩

theorem bind {m : ExceptT ε (StateM σ) α} {f : α → ExceptT ε (StateM σ) β} (hm : Total m)
    (hf : ∀ s a s', Runs m s a s' → Total (f a)) : Total (m >>= f) := by
  intro s
  obtain ⟨a, mid, ha⟩ := hm s
  obtain ⟨b, s', hb⟩ := hf s a mid ha mid
  exact ⟨b, s', runs_bind.mpr ⟨a, mid, ha, hb⟩⟩

theorem mapM {f : α → ExceptT ε (StateM σ) β} {as : List α} (h : ∀ a ∈ as, Total (f a))
    : Total (as.mapM f) := by
  induction as with
  | nil =>
    rw [List.mapM_nil]
    exact pure
  | cons a as ih =>
    rw [List.mapM_cons]
    refine bind (h a (by simp)) fun _ b _ _ => bind (ih fun c hc => h c (by simp [hc])) ?_
    intro _ bs _ _
    exact pure

end Total

def FailsOnly (m : ExceptT ε (StateM σ) α) (P : ε → Prop) : Prop :=
  ∀ s e s', outcome m s = (.error e, s') → P e

namespace FailsOnly

variable {P : ε → Prop}

theorem pure {a : α} : FailsOnly (Pure.pure a : ExceptT ε (StateM σ) α) P := nofun

theorem modify {f : σ → σ} : FailsOnly (modify f : ExceptT ε (StateM σ) Unit) P := nofun

theorem get : FailsOnly (get : ExceptT ε (StateM σ) σ) P := nofun

theorem throw {e : ε} (h : P e) : FailsOnly (throw e : ExceptT ε (StateM σ) α) P := by
  rintro s e' s' ⟨⟩
  exact h

theorem bind {m : ExceptT ε (StateM σ) α} {f : α → ExceptT ε (StateM σ) β} (hm : FailsOnly m P)
    (hf : ∀ a, FailsOnly (f a) P) : FailsOnly (m >>= f) P := by
  intro s e s' h
  rw [outcome_bind] at h
  rcases hrun : outcome m s with ⟨e' | a, mid⟩
  . rw [hrun] at h
    cases h
    exact hm s e s' hrun
  . rw [hrun] at h
    exact hf a mid e s' h

end FailsOnly

end PulpGame
