import PulpGame.Proofs.Build
import PulpGame.Proofs.Run.Recording
import PulpGame.Proofs.Sheet.Strip

namespace PulpGame

theorem Makings.Make.width_eq {doc : Document} {m : Makings doc} {settings : Settings}
    {product : Product} (h : m.Make settings product)
    : product.tiles.width = 8 ∧ product.border.width = 8 ∧ product.font.width = 8 :=
  ⟨(Sheet.strip_size h.tiles_eq).1, (Sheet.strip_size h.border_eq).1,
    (Sheet.strip_size h.font_eq).1⟩

theorem Document.runs_load {source : String} {doc : Document} {journal journal' : List Journal.Entry}
    (h : Runs (load source) journal doc journal') : ofText source = .ok doc := by
  unfold load at h
  cases hsource : ofText source with
  | error e =>
    simp [hsource, Journaled.ofExcept, runs_bind, runs_throw] at h
  | ok doc' =>
    simp only [hsource, Journaled.ofExcept, runs_bind, runs_pure] at h
    obtain ⟨-, -, -, -, -, ⟨rfl, rfl⟩, -, -, -, rfl, -⟩ := h
    rfl

namespace Run

def Failure.IsOfInputs : Failure → Prop
  | .noRuntime _ | .reading _ _ | .parsing _ | .building _ => True
  | .creating _ _ | .writingProgram _ | .writingSheets _ => False

def Failure.IsOfDisk : Failure → Prop
  | .creating _ _ | .writingProgram _ | .writingSheets (.creating _ _)
  | .writingSheets (.writing _ _) => True
  | .noRuntime _ | .reading _ _ | .parsing _ | .building _ | .writingSheets (.noWidth _ _) => False

theorem Failure.IsOfDisk.not_isOfInputs {e : Failure} (h : e.IsOfDisk) : ¬e.IsOfInputs := by
  cases e <;> simp_all [IsOfDisk, IsOfInputs]

section

variable {δ : Type} [Disk.FileSystem (StateM δ)] {c : Command} {p : Product}
variable {s s' : List Journal.Entry × δ}

theorem runs_prepare (h : Runs (together (prepare c)) s p s')
    : ∃ disk source doc journal,
        (Disk.FileSystem.isFile c.runtime : StateM δ Bool) s.2 = (true, disk) ∧
        (Disk.FileSystem.readText c.input : StateM δ _) disk = (.ok source, s'.2) ∧
        Document.ofText source = .ok doc ∧ doc.build c.settings journal = (.ok p, s'.1) := by
  rw [together_prepare] at h
  obtain ⟨found, ⟨journal, disk⟩, hfound, h⟩ := runs_bind.mp h
  cases found with
  | false => exact absurd h runs_throw
  | true =>
    obtain ⟨source, mid, hread, h⟩ := runs_bind.mp h
    obtain ⟨doc, mid', hload, hbuild⟩ := runs_bind.mp h
    obtain ⟨hread, -⟩ := runs_requested.mp hread
    obtain ⟨hload, hdisk⟩ := runs_computed.mp hload
    obtain ⟨hbuild, hdisk'⟩ := runs_computed.mp hbuild
    refine ⟨disk, source, doc, mid'.1, (runs_questioned.mp hfound).1, ?_, Document.runs_load hload,
      hbuild⟩
    rw [hdisk', hdisk]
    exact hread

theorem failsOnly_deliverSheet {image : Sheet.Image} {path : String} (h : image.width ≠ 0)
    : FailsOnly (together (Delivery.deliverSheet image path :
        Delivery.Delivering (StateM δ) Unit)) fun e => (Failure.writingSheets e).IsOfDisk := by
  rw [together_deliverSheet]
  split
  . exact failsOnly_noted
  . refine .bind (failsOnly_requested fun e => ?_) fun _ => ?_
    . cases image.samples <;> trivial
    . exact failsOnly_requested fun e => trivial

theorem failsOnly_deliver (htiles : p.tiles.width ≠ 0) (hborder : p.border.width ≠ 0)
    (hfont : p.font.width ≠ 0)
    : FailsOnly (together (deliver c p : Running (StateM δ) Unit)) Failure.IsOfDisk := by
  rw [together_deliver]
  refine .bind (failsOnly_requested fun _ => trivial) fun _ =>
    .bind (failsOnly_requested fun _ => trivial) fun _ => failsOnly_adapt ?_
  unfold Delivery.deliverSheets
  simp only [together_bind]
  exact .bind (failsOnly_deliverSheet htiles) fun _ =>
    .bind (failsOnly_deliverSheet hborder) fun _ => failsOnly_deliverSheet hfont

end

def Untouched {α : Type} (x : ExceptT Failure (StateM (List Journal.Entry × Disk.Recorded)) α) :
    Prop :=
  ∀ s, (outcome x s).2.2 = s.2

theorem Untouched.bind {α β : Type}
    {x : ExceptT Failure (StateM (List Journal.Entry × Disk.Recorded)) α}
    {f : α → ExceptT Failure (StateM (List Journal.Entry × Disk.Recorded)) β} (hx : Untouched x)
    (hf : ∀ a, Untouched (f a)) : Untouched (x >>= f) := by
  intro s
  have hs := hx s
  rw [outcome_bind]
  rcases hx : outcome x s with ⟨e | a, mid⟩
  all_goals rw [hx] at hs
  . exact hs
  . exact (hf a mid).trans hs

theorem untouched_prepare (c : Command) : Untouched (together (prepare c)) := by
  rw [together_prepare]
  refine .bind (fun s => rfl) fun found => ?_
  cases found with
  | false => exact fun s => rfl
  | true => exact .bind (fun s => rfl) fun _ => .bind (fun s => rfl) fun _ s => rfl

theorem failure_cases {c : Command} {journal journal' : List Journal.Entry} {r r' : Disk.Recorded}
    {e : Failure} (h : outcome (together (run c)) (journal, r) = (.error e, journal', r'))
    : r' = r ∨ e.IsOfDisk := by
  rw [together_run, outcome_bind] at h
  have huntouched := untouched_prepare c (journal, r)
  rcases hprepare : outcome (together (prepare c)) (journal, r) with ⟨e' | p, mid⟩
  . rw [hprepare] at h huntouched
    cases h
    exact .inl huntouched
  . rw [hprepare] at h
    -- The sheets of a product that has been built have columns, so only the disk is left to fail.
    obtain ⟨-, -, doc, journal, -, -, -, hbuild⟩ := runs_prepare hprepare
    obtain ⟨m, hm⟩ := Document.build_eq_ok hbuild
    obtain ⟨htiles, hborder, hfont⟩ := hm.width_eq
    refine .inr (FailsOnly.bind ?_ (fun _ => .bind ?_ fun _ => ?_) _ _ _ h)
    . exact failsOnly_deliver (by omega) (by omega) (by omega)
    . exact failsOnly_noted
    . exact failsOnly_noted

end Run

/-- A run that fails because of its inputs has asked for no change, and leaves the tree as it was. Once
a run has asked for a change, nothing but the disk makes it fail. -/
theorem failures_precede_changes (c : Command) (journal : List Journal.Entry) (t : Disk.Tree)
    : ∃ result journal' t' asked,
        ((Run.run c : Run.Running (StateM Disk.Tree) Unit).run.run journal).run t =
          ((result, journal'), t') ∧
        ((Run.run c : Run.Running (StateM Disk.Recorded) Unit).run.run journal).run ⟨t, []⟩ =
          ((result, journal'), ⟨t', asked⟩) ∧
        (asked = [] → t' = t) ∧
        ∀ e, result = .error e →
          (e.IsOfInputs → t' = t ∧ asked = []) ∧ (asked ≠ [] → e.IsOfDisk) := by
  obtain ⟨result, journal', t', asked, hrun, hrecorded, hunchanged⟩ :=
    Run.follows_run c journal ⟨t, []⟩
  refine ⟨result, journal', t', asked, Run.outcome_together.mp hrun,
    Run.outcome_together.mp hrecorded, hunchanged, ?_⟩
  rintro e rfl
  -- a failure of the inputs is found while the tree is still as it was
  rcases Run.failure_cases hrecorded with hsame | hdisk
  . cases hsame
    exact ⟨fun _ => ⟨rfl, rfl⟩, fun hasked => absurd rfl hasked⟩
  . exact ⟨fun hinputs => absurd hinputs hdisk.not_isOfInputs, fun _ => hdisk⟩

def garbledTree : Disk.Tree where
  entries := [(["game.json"], .file (.text "{}")), (["pulp.lua"], .file (.text "-- runtime"))]

theorem failures_precede_changes_garbled
    : ∃ fault journal',
        ((Run.run { input := "game.json" } : Run.Running (StateM Disk.Tree) Unit).run.run []).run
          garbledTree = ((.error (.parsing fault), journal'), garbledTree) := by
  have hfails : (match ((Run.run { input := "game.json" } :
      Run.Running (StateM Disk.Tree) Unit).run.run []).run garbledTree with
      | ((.error (.parsing _), _), _) => true
      | _ => false) = true := by
    decide +kernel
  obtain ⟨result, journal', t', asked, hrun, -, -, hfailure⟩ :=
    failures_precede_changes { input := "game.json" } [] garbledTree
  rw [hrun] at hfails ⊢
  split at hfails
  . next fault _ _ heq =>
    cases heq
    obtain ⟨rfl, -⟩ := (hfailure _ rfl).1 trivial
    exact ⟨fault, journal', rfl⟩
  . cases hfails

end PulpGame
