import PulpGame.Proofs.Outcome
import PulpGame.Run.Session

namespace PulpGame

namespace Run

variable {ε ω δ α β : Type}

def together (x : ExceptT ε (StateT ω (StateM δ)) α) : ExceptT ε (StateM (ω × δ)) α :=
  ExceptT.mk fun s =>
    match (x.run.run s.1).run s.2 with
    | ((result, journal), disk) => (result, journal, disk)

@[simp]
theorem together_bind (x : ExceptT ε (StateT ω (StateM δ)) α)
    (f : α → ExceptT ε (StateT ω (StateM δ)) β)
    : together (x >>= f) = together x >>= fun a => together (f a) := by
  funext s
  simp only [together, bind, ExceptT.bind, ExceptT.mk, ExceptT.run, StateT.bind, StateT.run]
  rcases x s.1 s.2 with ⟨⟨e | a, journal⟩, disk⟩ <;> rfl

theorem outcome_together {x : ExceptT ε (StateT ω (StateM δ)) α} {journal journal' : ω}
    {disk disk' : δ} {result : Except ε α}
    : outcome (together x) (journal, disk) = (result, journal', disk') ↔
        (x.run.run journal).run disk = ((result, journal'), disk') := by
  change (match (x.run.run journal).run disk with
    | ((result, journal), disk) => (result, journal, disk)) = _ ↔ _
  rcases (x.run.run journal).run disk with ⟨⟨result, journal⟩, disk⟩
  constructor
  . intro h
    cases h
    rfl
  . intro h
    cases h
    rfl

def questioned (x : StateM δ α) : ExceptT ε (StateM (ω × δ)) α :=
  ExceptT.mk fun s => (.ok (x s.2).1, s.1, (x s.2).2)

def requested {η : Type} (fail : η → ε) (x : StateM δ (Except η α)) :
    ExceptT ε (StateM (ω × δ)) α :=
  ExceptT.mk fun s => ((x s.2).1.mapError fail, s.1, (x s.2).2)

theorem outcome_questioned (x : StateM δ α) (s : ω × δ)
    : outcome (questioned x : ExceptT ε (StateM (ω × δ)) α) s = (.ok (x s.2).1, s.1, (x s.2).2) := rfl

theorem outcome_requested {η : Type} (fail : η → ε) (x : StateM δ (Except η α)) (s : ω × δ)
    : outcome (requested fail x) s = ((x s.2).1.mapError fail, s.1, (x s.2).2) := rfl

@[simp]
theorem together_lift (x : StateM δ α)
    : together (monadLift (monadLift x : StateT ω (StateM δ) α) :
        ExceptT ε (StateT ω (StateM δ)) α) = questioned x := rfl

theorem outcome_adapt {η : Type} (fail : η → ε) (x : ExceptT η (StateT ω (StateM δ)) α)
    (s : ω × δ)
    : outcome (together (ExceptT.adapt fail x)) s =
        ((outcome (together x) s).1.mapError fail, (outcome (together x) s).2) := rfl

section

variable {η : Type} {fail : η → ε} {s s' : ω × δ} {a : α}

theorem runs_questioned {x : StateM δ α}
    : Runs (questioned x : ExceptT ε (StateM (ω × δ)) α) s a s' ↔
        x s.2 = (a, s'.2) ∧ s'.1 = s.1 := by
  change outcome (questioned x) s = (Except.ok a, s') ↔ @Eq (α × δ) (x s.2) (a, s'.2) ∧ s'.1 = s.1
  simp only [outcome_questioned, Prod.ext_iff, Except.ok.injEq]
  grind

theorem runs_requested {x : StateM δ (Except η α)}
    : Runs (requested fail x) s a s' ↔ x s.2 = (.ok a, s'.2) ∧ s'.1 = s.1 := by
  change outcome (requested fail x) s = (Except.ok a, s') ↔
    @Eq (Except η α × δ) (x s.2) (.ok a, s'.2) ∧ s'.1 = s.1
  simp only [outcome_requested, Prod.ext_iff, mapError_eq_ok]
  grind

theorem runs_adapt {x : ExceptT η (StateT ω (StateM δ)) α}
    : Runs (together (ExceptT.adapt fail x)) s a s' ↔ Runs (together x) s a s' := by
  unfold Runs
  rw [outcome_adapt]
  rcases outcome (together x) s with ⟨result, last⟩
  simp [mapError_eq_ok]

theorem failsOnly_requested {x : StateM δ (Except η α)} {P : ε → Prop} (h : ∀ cause, P (fail cause))
    : FailsOnly (requested fail x : ExceptT ε (StateM (ω × δ)) α) P := by
  intro s e s' he
  obtain ⟨cause, -, rfl⟩ := mapError_eq_error.mp (congrArg Prod.fst he)
  exact h cause

theorem failsOnly_adapt {x : ExceptT η (StateT ω (StateM δ)) α} {P : ε → Prop}
    (h : FailsOnly (together x) fun cause => P (fail cause))
    : FailsOnly (together (ExceptT.adapt fail x)) P := by
  intro s e s' he
  rw [outcome_adapt] at he
  obtain ⟨cause, hcause, rfl⟩ := mapError_eq_error.mp (congrArg Prod.fst he)
  exact h s cause _ (Prod.ext hcause rfl)

end

@[simp]
theorem together_request (fail : Disk.Error → Failure) (x : StateM δ (Except Disk.Error α))
    : together (request fail x) = requested fail x := by
  funext s
  change outcome (together (request fail x)) s = outcome (requested fail x) s
  unfold request
  rw [together_bind, together_lift, outcome_bind, outcome_questioned, outcome_requested]
  cases (x s.2).1 <;> rfl

@[simp]
theorem together_requestSheet (fail : Disk.Error → Delivery.SheetFailure)
    (x : StateM δ (Except Disk.Error Unit))
    : together (Delivery.request fail x) = requested fail x := by
  funext s
  change outcome (together (Delivery.request fail x)) s = outcome (requested fail x) s
  unfold Delivery.request
  rw [together_bind, together_lift, outcome_bind, outcome_questioned, outcome_requested]
  cases (x s.2).1 <;> rfl

def noted (entries : List Journal.Entry) : ExceptT ε (StateM (List Journal.Entry × δ)) Unit :=
  modify fun s => (s.1 ++ entries, s.2)

@[simp]
theorem together_note (entries : List Journal.Entry)
    : together (note entries : Running (StateM δ) Unit) = noted entries := rfl

theorem runs_noted {entries : List Journal.Entry} {s s' : List Journal.Entry × δ} {u : Unit}
    : Runs (noted entries : ExceptT ε (StateM (List Journal.Entry × δ)) Unit) s u s' ↔
        s' = (s.1 ++ entries, s.2) :=
  runs_modify

theorem failsOnly_noted {entries : List Journal.Entry} {P : ε → Prop}
    : FailsOnly (noted entries : ExceptT ε (StateM (List Journal.Entry × δ)) Unit) P := by
  intro s e s' h
  cases h

def computed {ε α : Type} (fail : ε → Failure) (x : Journaled ε α) :
    ExceptT Failure (StateM (List Journal.Entry × δ)) α :=
  ExceptT.mk fun s => ((outcome x s.1).1.mapError fail, (outcome x s.1).2, s.2)

@[simp]
theorem together_compute {ε : Type} (fail : ε → Failure) (x : Journaled ε α)
    : together (compute fail x : Running (StateM δ) α) = computed fail x := by
  funext s
  change outcome (together (compute fail x)) s = outcome (computed fail x) s
  have hget : outcome (together (get : Running (StateM δ) (List Journal.Entry))) s =
      (.ok s.1, s) := rfl
  unfold compute
  rw [together_bind, outcome_bind, hget]
  change _ = ((x.run.run s.1).1.mapError fail, (x.run.run s.1).2, s.2)
  dsimp only
  rcases x.run.run s.1 with ⟨e | a, journal⟩ <;> rfl

theorem runs_computed {ε : Type} {fail : ε → Failure} {x : Journaled ε α} {a : α}
    {s s' : List Journal.Entry × δ}
    : Runs (computed fail x) s a s' ↔ Runs x s.1 a s'.1 ∧ s'.2 = s.2 := by
  change ((outcome x s.1).1.mapError fail, (outcome x s.1).2, s.2) = (Except.ok a, s') ↔
    outcome x s.1 = (.ok a, s'.1) ∧ s'.2 = s.2
  simp only [Prod.ext_iff, mapError_eq_ok]
  grind

variable [Disk.FileSystem (StateM δ)]

theorem together_prepare (c : Command)
    : together (prepare c : Running (StateM δ) Product) = (do
        let found ← questioned (Disk.FileSystem.isFile c.runtime)
        if found then
          let source ← requested (.reading c.input) (Disk.FileSystem.readText c.input)
          let doc ← computed .parsing (Document.load source)
          computed .building (doc.build c.settings)
        else throw (.noRuntime c.runtime)) := by
  unfold prepare
  rw [together_bind, together_lift]
  congr 1
  funext found
  cases found with
  | false => rfl
  | true =>
    change together (request _ _ >>= fun source => compute _ _ >>= fun doc => compute _ _) = _
    simp only [together_bind, together_request, together_compute]
    rfl

theorem together_deliver (c : Command) (p : Product)
    : together (deliver c p : Running (StateM δ) Unit) = (do
        requested (.creating c.output) (Disk.createDirectories c.output)
        requested .writingProgram (Delivery.deliverProgram p.program c.output c.runtime).run
        together (ExceptT.adapt .writingSheets
          (Delivery.deliverSheets p.tiles p.border p.font c.output))) := by
  unfold deliver
  simp only [together_bind, together_request]

theorem run_deliverProgram (program directory runtime : String)
    : (Delivery.deliverProgram program directory runtime : ExceptT Disk.Error (StateM δ) Unit).run =
        (do
          match ← Disk.FileSystem.write (Disk.Path.join directory Delivery.programFile)
            (.text program) with
          | .error e => return .error e
          | .ok () =>
            match (Disk.Path.mk runtime).fileName? with
            | none => return .error (.noFileName runtime)
            | some name => Disk.FileSystem.copy runtime (Disk.Path.join directory name)) := by
  unfold Delivery.deliverProgram
  rw [ExceptT.run_bind]
  congr 1
  funext result
  cases result with
  | error e => rfl
  | ok u =>
    cases (Disk.Path.mk runtime).fileName? <;> rfl

theorem together_deliverSheet (image : Sheet.Image) (path : String)
    : together (Delivery.deliverSheet image path : Delivery.Delivering (StateM δ) Unit) =
        (if image.height = 0 then
          noted [⟨.sheets, .warn, s!"{path} has no frames, not written"⟩]
        else do
          let withAlpha := match image.samples with
            | .gray _ => false
            | .grayAlpha _ => true
          requested (if withAlpha then .writing path else .creating path)
            (Disk.FileSystem.write path (.text ""))
          if image.width = 0 then throw (.noWidth withAlpha path)
          else
            requested (.writing path)
              (Disk.FileSystem.write path (.picture (.ofImage image)))) := by
  unfold Delivery.deliverSheet
  split
  . rfl
  . dsimp only
    rw [together_bind, together_requestSheet]
    congr 1
    funext u
    split
    . rfl
    . exact together_requestSheet _ _

theorem together_run (c : Command)
    : together (run c : Running (StateM δ) Unit) = (do
        let p ← together (prepare c)
        together (deliver c p)
        noted (p.diagnostics.map fun d => ⟨.run, .warn, "--" ++ d⟩)
        noted [⟨.run, .info, s!"files written to {c.output}"⟩]) := by
  unfold run
  simp only [together_bind, together_note]

end Run

end PulpGame
