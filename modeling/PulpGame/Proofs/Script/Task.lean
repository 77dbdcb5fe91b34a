import PulpGame.Proofs.Ledger
import PulpGame.Proofs.Outcome
import PulpGame.Script.Compilation
/-!
What there is to do for the scripts of a document, one task after another, and what it means to do
it with an event compiler.

Tasks are done in order, and all of them work on one state of the event compiler and one ledger. The
first one that cannot be done is the last one that is looked at.
-/

namespace PulpGame

structure Call where
  script : String
  event : String
  blocks : List Json.Value
  root : Nat

structure Performed (σ : Type) where
  call : Call
  before : σ × Ledger
  result : Except Failure String
  after : σ × Ledger

inductive Task where
  | report (text : String)
  | call (call : Call)
  | refuse (failure : Failure)

namespace Task

def call? : Task → Option Call
  | .call c => some c
  | _ => none

def AllPossible (tasks : List Task) : Prop := ∀ e, .refuse e ∉ tasks

end Task

namespace Script

def nameOf (doc : Document) (owner : Owner) (id : Int) : String :=
  (ownerName? doc owner id).getD s!"__UNKNOWN_SCRIPT_{owner.toNat}_{id}"

def reports (doc : Document) (owner : Owner) (id : Int) : List Task :=
  match ownerName? doc owner id with
  | some _ => []
  | none => [.report s!"unknown script, type {owner.toNat}, id {id}"]

def eventTask (name : String) (blocks : List Json.Value) (event : String × Json.Value) : Task :=
  match Block.ref? event.2 with
  | some root => .call ⟨name, event.1, blocks, root⟩
  | none => .refuse (.malformedEvent name event.1)

def tasks (doc : Document) (script : Script) : List Task :=
  let data := script.data.getD []
  match Owner.ofNat? script.kind with
  | none => [.refuse (.unknownOwner script.kind)]
  | some owner =>
    reports doc owner script.id ++
      (events data).map (eventTask (nameOf doc owner script.id) (blocks data))

def calls (doc : Document) (script : Script) : List Call :=
  let data := script.data.getD []
  match Owner.ofNat? script.kind with
  | none => []
  | some owner => (events data).filterMap fun (key, value) =>
      (Block.ref? value).map fun root => ⟨nameOf doc owner script.id, key, blocks data, root⟩

theorem calls_eq (doc : Document) (script : Script)
    : script.calls doc = (script.tasks doc).filterMap Task.call? := by
  unfold calls tasks
  dsimp only
  split
  . rfl
  . next owner _ =>
    have hreports : (reports doc owner script.id).filterMap Task.call? = [] := by
      unfold reports
      split <;> rfl
    rw [List.filterMap_append, hreports, List.nil_append, List.filterMap_map]
    congr 1
    funext event
    unfold eventTask
    rw [Function.comp_apply]
    split
    . next root hroot => rw [hroot]; rfl
    . next hroot => rw [hroot]; rfl

end Script

namespace Document

def tasks (doc : Document) : List Task := doc.scripts.flatMap (Script.tasks doc)

def calls (doc : Document) : List Call := doc.scripts.flatMap (Script.calls doc)

theorem calls_eq (doc : Document) : doc.calls = doc.tasks.filterMap Task.call? := by
  rw [calls, tasks, List.filterMap_flatMap]
  congr 1
  funext script
  exact script.calls_eq doc

end Document

section

variable {σ : Type} {compiler : EventCompiler σ}

def Call.run (compiler : EventCompiler σ) (c : Call) : Compiling σ String :=
  compiler c.script c.event c.blocks c.root

inductive Performs (compiler : EventCompiler σ)
    : List Task → σ × Ledger → List (Performed σ) → Option Failure → σ × Ledger → Prop where
  | done (s : σ × Ledger) : Performs compiler [] s [] none s
  | report {text : String} {tasks : List Task} {s : σ} {ledger : Ledger}
      {performed : List (Performed σ)} {failure : Option Failure} {last : σ × Ledger}
      (rest : Performs compiler tasks (s, ledger.note (.diagnostic text)) performed failure last)
      : Performs compiler (.report text :: tasks) (s, ledger) performed failure last
  | refuse (e : Failure) (tasks : List Task) (s : σ × Ledger)
      : Performs compiler (.refuse e :: tasks) s [] (some e) s
  | call {c : Call} {text : String} {tasks : List Task} {s mid last : σ × Ledger}
      {performed : List (Performed σ)} {failure : Option Failure}
      (this : Runs (c.run compiler) s text mid)
      (rest : Performs compiler tasks mid performed failure last)
      : Performs compiler (.call c :: tasks) s (⟨c, s, .ok text, mid⟩ :: performed) failure last
  | fail {c : Call} {e : Failure} {tasks : List Task} {s last : σ × Ledger}
      (this : outcome (c.run compiler) s = (.error e, last))
      : Performs compiler (.call c :: tasks) s [⟨c, s, .error e, last⟩] (some e) last

/-- The failure is that of a task that is impossible, in front of which there is none, or that of the
last call, and all calls before it succeed. -/
inductive StopsAt (tasks : List Task) (performed : List (Performed σ)) (e : Failure) : Prop where
  | refused (before behind : List Task) (tasks_eq : tasks = before ++ .refuse e :: behind)
      (possible : Task.AllPossible before)
      (calls_eq : performed.map (·.call) = before.filterMap Task.call?)
      (succeed : ∀ p ∈ performed, p.result.isOk)
  | failed (before behind : List Task) (front : List (Performed σ)) (last : Performed σ)
      (tasks_eq : tasks = before ++ .call last.call :: behind)
      (possible : Task.AllPossible before) (performed_eq : performed = front ++ [last])
      (calls_eq : front.map (·.call) = before.filterMap Task.call?)
      (succeed : ∀ p ∈ front, p.result.isOk) (result_eq : last.result = .error e)

namespace Performs

variable {tasks others : List Task} {s mid last : σ × Ledger} {performed more : List (Performed σ)}
  {failure : Option Failure} {e : Failure}

theorem append (h : Performs compiler tasks s performed none mid)
    (h' : Performs compiler others mid more failure last)
    : Performs compiler (tasks ++ others) s (performed ++ more) failure last := by
  generalize hnone : (none : Option Failure) = found at h
  induction h with
  | done s => exact h'
  | report _ ih => exact .report (ih h' hnone)
  | refuse => cases hnone
  | call this _ ih => exact .call this (ih h' hnone)
  | fail => cases hnone

theorem append_failed (h : Performs compiler tasks s performed (some e) last)
    : Performs compiler (tasks ++ others) s performed (some e) last := by
  generalize hsome : some e = found at h
  induction h with
  | done => cases hsome
  | report _ ih => exact .report (ih hsome)
  | refuse e' tasks s =>
    cases hsome
    exact .refuse e (tasks ++ others) s
  | call this _ ih => exact .call this (ih hsome)
  | fail this =>
    cases hsome
    exact .fail this

theorem isPrefix (h : Performs compiler tasks s performed failure last)
    : performed.map (·.call) <+: tasks.filterMap Task.call? := by
  induction h with
  | done => exact List.nil_prefix
  | report _ ih => exact ih
  | refuse => exact List.nil_prefix
  | call _ _ ih => exact List.cons_prefix_cons.mpr ⟨rfl, ih⟩
  | fail => exact List.cons_prefix_cons.mpr ⟨rfl, List.nil_prefix⟩

theorem complete (h : Performs compiler tasks s performed none last)
    : Task.AllPossible tasks ∧ performed.map (·.call) = tasks.filterMap Task.call? ∧
        ∀ p ∈ performed, p.result.isOk := by
  generalize hnone : (none : Option Failure) = found at h
  induction h with
  | done => exact ⟨fun _ => List.not_mem_nil, rfl, by simp⟩
  | report _ ih =>
    obtain ⟨hpossible, hcalls, hsucceed⟩ := ih hnone
    exact ⟨fun e => by simpa using hpossible e, hcalls, hsucceed⟩
  | refuse => cases hnone
  | call _ _ ih =>
    obtain ⟨hpossible, hcalls, hsucceed⟩ := ih hnone
    refine ⟨fun e => by simpa using hpossible e, congrArg (_ :: ·) hcalls, ?_⟩
    exact List.forall_mem_cons.mpr ⟨rfl, hsucceed⟩
  | fail => cases hnone

theorem stopsAt (h : Performs compiler tasks s performed (some e) last)
    : StopsAt tasks performed e := by
  -- The failure is an index of `Performs`, and has to be a variable for the induction.
  generalize hsome : some e = found at h
  induction h with
  | done => cases hsome
  | @report text tasks _ _ _ _ _ _ ih =>
    cases ih hsome with
    | refused before behind htasks hpossible hcalls hsucceed =>
      exact .refused (.report text :: before) behind (by rw [htasks]; rfl)
        (fun e => by simpa using hpossible e) hcalls hsucceed
    | failed before behind front last htasks hpossible hperformed hcalls hsucceed hresult =>
      exact .failed (.report text :: before) behind front last (by rw [htasks]; rfl)
        (fun e => by simpa using hpossible e) hperformed hcalls hsucceed hresult
  | refuse e' tasks =>
    cases hsome
    exact .refused [] tasks rfl (fun _ => List.not_mem_nil) rfl (by simp)
  | @call c text _ s mid _ _ _ _ _ ih =>
    cases ih hsome with
    | refused before behind htasks hpossible hcalls hsucceed =>
      exact .refused (.call c :: before) behind (by rw [htasks]; rfl)
        (fun e => by simpa using hpossible e) (congrArg (c :: ·) hcalls)
        (List.forall_mem_cons.mpr ⟨rfl, hsucceed⟩)
    | failed before behind front last htasks hpossible hperformed hcalls hsucceed hresult =>
      exact .failed (.call c :: before) behind (⟨c, s, .ok text, mid⟩ :: front) last
        (by rw [htasks]; rfl) (fun e => by simpa using hpossible e) (by rw [hperformed]; rfl)
        (congrArg (c :: ·) hcalls) (List.forall_mem_cons.mpr ⟨rfl, hsucceed⟩) hresult
  | @fail c e' tasks s last this =>
    cases hsome
    exact .failed [] tasks [] ⟨c, s, .error e, last⟩ rfl (fun _ => List.not_mem_nil) rfl rfl
      (by simp) rfl

theorem eq_none_iff (h : Performs compiler tasks s performed failure last)
    : failure = none ↔ Task.AllPossible tasks ∧
        performed.map (·.call) = tasks.filterMap Task.call? ∧ ∀ p ∈ performed, p.result.isOk := by
  constructor
  . rintro rfl
    exact h.complete
  . rintro ⟨hpossible, -, hsucceed⟩
    cases failure with
    | none => rfl
    | some e =>
      cases h.stopsAt with
      | refused before behind htasks =>
        exact absurd (by rw [htasks]; simp) (hpossible e)
      | failed before behind front last _ _ hperformed _ _ hresult =>
        have hok := hsucceed last (by rw [hperformed]; simp)
        rw [hresult] at hok
        cases hok

end Performs

namespace Performed

def AddsUse (p : Performed σ) (v : String) : Prop :=
  p.before.2.uses.count v < p.after.2.uses.count v

def KeepsUses (p : Performed σ) : Prop := ∀ v, p.before.2.uses.count v ≤ p.after.2.uses.count v

end Performed

namespace Performs

variable {tasks : List Task} {s last : σ × Ledger} {performed : List (Performed σ)}
  {failure : Option Failure} {v : String}

theorem exists_addsUse (h : Performs compiler tasks s performed failure last)
    (hmore : s.2.uses.count v < last.2.uses.count v) : ∃ p ∈ performed, p.AddsUse v := by
  induction h with
  | done => omega
  | report _ ih => exact ih (by rwa [Ledger.uses_diagnostic])
  | refuse => omega
  | @call c text _ s mid _ _ _ _ _ ih =>
    by_cases hcall : s.2.uses.count v < mid.2.uses.count v
    . exact ⟨_, List.mem_cons_self, hcall⟩
    . obtain ⟨p, hp, hadds⟩ := ih (by omega)
      exact ⟨p, List.mem_cons_of_mem _ hp, hadds⟩
  | fail => exact ⟨_, List.mem_cons_self, hmore⟩

theorem count_le (h : Performs compiler tasks s performed failure last)
    (hkeep : ∀ p ∈ performed, p.KeepsUses) : s.2.uses.count v ≤ last.2.uses.count v := by
  induction h with
  | done => exact Nat.le_refl _
  | report _ ih => simpa only [Ledger.uses_diagnostic] using ih hkeep
  | refuse => exact Nat.le_refl _
  | call _ _ ih =>
    obtain ⟨hthis, hrest⟩ := List.forall_mem_cons.mp hkeep
    exact Nat.le_trans (hthis v) (ih hrest)
  | fail => exact hkeep _ List.mem_cons_self v

theorem count_pos (h : Performs compiler tasks s performed failure last)
    (hkeep : ∀ p ∈ performed, p.KeepsUses) (hadds : ∃ p ∈ performed, p.AddsUse v)
    : 0 < last.2.uses.count v := by
  induction h with
  | done => simp at hadds
  | report _ ih => exact ih hkeep hadds
  | refuse => simp at hadds
  | call _ hrest ih =>
    obtain ⟨-, hkeep⟩ := List.forall_mem_cons.mp hkeep
    obtain ⟨p, hp, hadds⟩ := hadds
    rcases List.mem_cons.mp hp with rfl | hp
    . exact Nat.lt_of_lt_of_le (Nat.zero_lt_of_lt hadds) (hrest.count_le hkeep)
    . exact ih hkeep ⟨p, hp, hadds⟩
  | fail =>
    obtain ⟨p, hp, hadds⟩ := hadds
    cases List.mem_singleton.mp hp
    exact Nat.zero_lt_of_lt hadds

end Performs

end

end PulpGame
