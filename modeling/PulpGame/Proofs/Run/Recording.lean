import PulpGame.Disk.Tree
import PulpGame.Proofs.Disk.Directories
import PulpGame.Proofs.Run.Outcome
/-!
A tree of files that keeps a record of what it is asked to change.

A run on it does what it does on the tree itself, and the record tells whether and when anything was
about to be changed.
-/

namespace PulpGame

namespace Disk

inductive Change where
  | write (path : String) (content : Content)
  | copy (source target : String)
  | makeDirectory (path : String)
deriving DecidableEq, Repr

structure Recorded where
  tree : Tree
  asked : List Change

namespace Recorded

variable {α : Type}

def question (x : StateM Tree α) : StateM Recorded α := fun r =>
  ((x r.tree).1, ⟨(x r.tree).2, r.asked⟩)

def request (c : Change) (x : StateM Tree α) : StateM Recorded α := fun r =>
  ((x r.tree).1, ⟨(x r.tree).2, r.asked ++ [c]⟩)

instance : FileSystem (StateM Recorded) where
  isFile path := question (FileSystem.isFile path)
  isDirectory path := question (FileSystem.isDirectory path)
  readText path := question (FileSystem.readText path)
  write path content := request (.write path content) (FileSystem.write path content)
  copy source target := request (.copy source target) (FileSystem.copy source target)
  makeDirectory path := request (.makeDirectory path) (FileSystem.makeDirectory path)

end Recorded

/-- The second computation does on a recorded tree what the first one does on the tree. It extends
the record if it changes the tree. -/
def Records {α : Type} (x : StateM Tree α) (y : StateM Recorded α) : Prop :=
  ∀ r, ∃ more, y r = ((x r.tree).1, ⟨(x r.tree).2, r.asked ++ more⟩) ∧
    (more = [] → (x r.tree).2 = r.tree)

namespace Records

variable {α β : Type}

theorem pure {a : α} : Records (Pure.pure a) (Pure.pure a) :=
  fun r => ⟨[], by rw [List.append_nil]; rfl, fun _ => rfl⟩

theorem bind {x : StateM Tree α} {y : StateM Recorded α} {f : α → StateM Tree β}
    {g : α → StateM Recorded β} (hx : Records x y) (hf : ∀ a, Records (f a) (g a))
    : Records (x >>= f) (y >>= g) := by
  intro r
  obtain ⟨more, hy, hunchanged⟩ := hx r
  obtain ⟨last, hg, hunchanged'⟩ := hf (x r.tree).1 ⟨(x r.tree).2, r.asked ++ more⟩
  refine ⟨more ++ last, ?_, ?_⟩
  . change (g (y r).1) (y r).2 = ((f (x r.tree).1 (x r.tree).2).1,
      ⟨(f (x r.tree).1 (x r.tree).2).2, r.asked ++ (more ++ last)⟩)
    rw [hy, ← List.append_assoc]
    exact hg
  . intro hnone
    obtain ⟨hmore, hlast⟩ := List.append_eq_nil_iff.mp hnone
    exact (hunchanged' hlast).trans (hunchanged hmore)

theorem question {x : StateM Tree α} (h : ∀ t, (x t).2 = t) : Records x (Recorded.question x) :=
  fun r => ⟨[], by rw [List.append_nil]; rfl, fun _ => h r.tree⟩

theorem request {x : StateM Tree α} {c : Change} : Records x (Recorded.request c x) :=
  fun _ => ⟨[c], rfl, by simp⟩

theorem isFile {path : String} : Records (FileSystem.isFile path) (FileSystem.isFile path) :=
  question fun _ => rfl

theorem isDirectory {path : String}
    : Records (FileSystem.isDirectory path) (FileSystem.isDirectory path) :=
  question fun _ => rfl

theorem readText {path : String} : Records (FileSystem.readText path) (FileSystem.readText path) :=
  question fun _ => rfl

theorem write {path : String} {content : Content}
    : Records (FileSystem.write path content) (FileSystem.write path content) :=
  request

theorem copy {source target : String}
    : Records (FileSystem.copy source target) (FileSystem.copy source target) :=
  request

theorem makeDirectory {path : String}
    : Records (FileSystem.makeDirectory path) (FileSystem.makeDirectory path) :=
  request

theorem composes : Composes (m := StateM Tree) (n := StateM Recorded) fun _ => Records where
  pure _ := pure
  bind := bind
  isDirectory _ := isDirectory
  makeDirectory _ := makeDirectory

theorem createDirectories {path : String}
    : Records (Disk.createDirectories path) (Disk.createDirectories path) :=
  composes.createDirectories path

end Records

end Disk

namespace Run

open Disk (FileSystem Records Recorded Tree)

variable {ε ω α β : Type}

def Follows (x : ExceptT ε (StateM (ω × Tree)) α) (y : ExceptT ε (StateM (ω × Recorded)) α) : Prop :=
  ∀ journal r, ∃ result journal' t more, outcome x (journal, r.tree) = (result, journal', t) ∧
    outcome y (journal, r) = (result, journal', ⟨t, r.asked ++ more⟩) ∧ (more = [] → t = r.tree)

namespace Follows

theorem of_untouched {x : ExceptT ε (StateM (ω × Tree)) α}
    {y : ExceptT ε (StateM (ω × Recorded)) α} (f : ω → Except ε α × ω)
    (hx : ∀ s, outcome x s = ((f s.1).1, (f s.1).2, s.2))
    (hy : ∀ s, outcome y s = ((f s.1).1, (f s.1).2, s.2)) : Follows x y := by
  intro journal r
  refine ⟨_, _, _, [], hx _, ?_, fun _ => rfl⟩
  rw [hy, List.append_nil]

theorem throw {e : ε} : Follows (throw e : ExceptT ε (StateM (ω × Tree)) α) (throw e) :=
  of_untouched (fun journal => (.error e, journal)) (fun _ => rfl) (fun _ => rfl)

theorem noted {entries : List Journal.Entry}
    : Follows (noted entries : ExceptT ε (StateM (List Journal.Entry × Tree)) Unit)
        (noted entries) :=
  of_untouched (fun journal => (.ok (), journal ++ entries)) (fun _ => rfl) (fun _ => rfl)

theorem computed {η : Type} {fail : η → Failure} {x : Journaled η α}
    : Follows (computed fail x) (computed fail x) :=
  of_untouched (fun journal => ((outcome x journal).1.mapError fail, (outcome x journal).2))
    (fun _ => rfl) (fun _ => rfl)

theorem bind {x : ExceptT ε (StateM (ω × Tree)) α} {y : ExceptT ε (StateM (ω × Recorded)) α}
    {f : α → ExceptT ε (StateM (ω × Tree)) β} {g : α → ExceptT ε (StateM (ω × Recorded)) β}
    (hx : Follows x y) (hf : ∀ a, Follows (f a) (g a)) : Follows (x >>= f) (y >>= g) := by
  intro journal r
  obtain ⟨result, mid, t, more, hrun, hrecorded, hunchanged⟩ := hx journal r
  rw [outcome_bind, outcome_bind, hrun, hrecorded]
  cases result with
  | error e => exact ⟨.error e, mid, t, more, rfl, rfl, hunchanged⟩
  | ok a =>
    obtain ⟨result, last, t', more', hrun', hrecorded', hunchanged'⟩ :=
      hf a mid ⟨t, r.asked ++ more⟩
    refine ⟨result, last, t', more ++ more', hrun', ?_, ?_⟩
    . rw [← List.append_assoc]
      exact hrecorded'
    . intro hnone
      obtain ⟨hmore, hmore'⟩ := List.append_eq_nil_iff.mp hnone
      exact (hunchanged' hmore').trans (hunchanged hmore)

theorem questioned {x : StateM Tree α} {y : StateM Recorded α} (h : Records x y)
    : Follows (questioned x : ExceptT ε (StateM (ω × Tree)) α) (questioned y) := by
  intro journal r
  obtain ⟨more, hy, hunchanged⟩ := h r
  refine ⟨_, journal, _, more, rfl, ?_, hunchanged⟩
  change (Except.ok (y r).1, journal, (y r).2) = _
  rw [hy]

theorem requested {η : Type} {fail : η → ε} {x : StateM Tree (Except η α)}
    {y : StateM Recorded (Except η α)} (h : Records x y)
    : Follows (requested fail x : ExceptT ε (StateM (ω × Tree)) α) (requested fail y) := by
  intro journal r
  obtain ⟨more, hy, hunchanged⟩ := h r
  refine ⟨_, journal, _, more, rfl, ?_, hunchanged⟩
  change ((y r).1.mapError fail, journal, (y r).2) = _
  rw [hy]

theorem adapt {η : Type} {fail : η → ε} {x : ExceptT η (StateT ω (StateM Tree)) α}
    {y : ExceptT η (StateT ω (StateM Recorded)) α} (h : Follows (together x) (together y))
    : Follows (together (ExceptT.adapt fail x)) (together (ExceptT.adapt fail y)) := by
  intro journal r
  obtain ⟨result, journal', t, more, hrun, hrecorded, hunchanged⟩ := h journal r
  rw [outcome_adapt, outcome_adapt, hrun, hrecorded]
  exact ⟨_, _, _, more, rfl, rfl, hunchanged⟩

end Follows

theorem follows_prepare (c : Command) : Follows (together (prepare c)) (together (prepare c)) := by
  rw [together_prepare, together_prepare]
  refine .bind (.questioned .isFile) fun found => ?_
  cases found with
  | false => exact .throw
  | true =>
    exact .bind (.requested .readText) fun _ => .bind .computed fun _ => .computed

theorem records_deliverProgram {program directory runtime : String}
    : Records (Delivery.deliverProgram program directory runtime).run
        (Delivery.deliverProgram program directory runtime).run := by
  rw [run_deliverProgram, run_deliverProgram]
  refine .bind .write fun
    | .error e => .pure
    | .ok () => ?_
  cases (Disk.Path.mk runtime).fileName? with
  | none => exact .pure
  | some name => exact .copy

theorem follows_deliverSheet {image : Sheet.Image} {path : String}
    : Follows (together (Delivery.deliverSheet image path))
        (together (Delivery.deliverSheet image path)) := by
  rw [together_deliverSheet, together_deliverSheet]
  split
  . exact .noted
  . refine .bind (.requested .write) fun _ => ?_
    split
    . exact .throw
    . exact .requested .write

theorem follows_deliver (c : Command) (p : Product)
    : Follows (together (deliver c p)) (together (deliver c p)) := by
  rw [together_deliver, together_deliver]
  refine .bind (.requested .createDirectories) fun _ =>
    .bind (.requested records_deliverProgram) fun _ => .adapt ?_
  unfold Delivery.deliverSheets
  simp only [together_bind]
  exact .bind follows_deliverSheet fun _ => .bind follows_deliverSheet fun _ => follows_deliverSheet

theorem follows_run (c : Command) : Follows (together (run c)) (together (run c)) := by
  rw [together_run, together_run]
  exact .bind (follows_prepare c) fun p => .bind (follows_deliver c p) fun _ =>
    .bind .noted fun _ => .noted

end Run

end PulpGame
