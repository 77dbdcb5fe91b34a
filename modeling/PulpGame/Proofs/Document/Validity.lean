import PulpGame.Proofs.Block.Acceptance
import PulpGame.Proofs.Script.Mention
import PulpGame.Proofs.Variable.Trace

namespace PulpGame

def Sheet.Shows (greatest : UInt8) (pixels : Pixels) : Prop :=
  pixels.length = framePixels ∧ ∀ p ∈ pixels, p ≤ greatest

structure Script.IsValid (script : Script) : Prop where
  owner : script.kind ≤ 2
  events : ∀ event ∈ events (script.data.getD []), ∃ root, Block.ref? event.2 = some root ∧
    Block.IsWellFormed (blocks (script.data.getD [])) root

namespace Document

/-- What a document has to meet for a step of its build to succeed. -/
def Meets (doc : Document) : Stage → Prop
  | .frames => ∀ pixels, some pixels ∈ doc.frames → Sheet.Shows 3 pixels
  | .border => ∀ glyph ∈ doc.font.border, Sheet.Shows 1 glyph
  | .font => ∀ glyph ∈ doc.font.glyphs, Sheet.Shows 1 glyph
  | .tiles => ∀ tile, some tile ∈ doc.tiles → ∀ frame ∈ tile.frames, frame < doc.frames.length
  | .scripts => ∀ script ∈ doc.scripts, script.IsValid
  | .storage => ∀ v, doc.Mentions Block.statementVariables v → Variable.isReserved v = false

def FirstUnmet (doc : Document) (stages : List Stage) (stage : Stage) : Prop :=
  ∃ before behind, stages = before ++ stage :: behind ∧ (∀ s ∈ before, doc.Meets s) ∧
    ¬doc.Meets stage

end Document

def Stage.order : List Stage := [.frames, .border, .font, .tiles, .scripts, .storage]

namespace Sheet

theorem forall_mem_zipIdx {α : Type} {p : α → Prop} {as : List α}
    : (∀ a i, (a, i) ∈ as.zipIdx → p a) ↔ ∀ a ∈ as, p a := by
  constructor
  . intro hall a ha
    obtain ⟨i, hi, rfl⟩ := List.getElem_of_mem ha
    exact hall _ i (List.mk_mem_zipIdx_iff_getElem?.mpr (List.getElem?_eq_getElem hi))
  . intro hall a i ha
    exact hall a (List.mem_of_getElem? (List.mk_mem_zipIdx_iff_getElem?.mp ha))

theorem frameFailure?_eq_none {withAlpha : Bool} {frame : Nat} {pixels : Pixels}
    : frameFailure? withAlpha frame pixels = none ↔ Shows (maxPixel withAlpha) pixels := by
  unfold frameFailure? Shows
  split
  . next h => simp [h]
  . next h =>
    have hlength : pixels.length = framePixels := by omega
    simp only [Option.map_eq_none_iff, List.find?_eq_none, hlength, true_and, decide_eq_true_eq,
      Prod.forall, UInt8.not_lt]
    exact forall_mem_zipIdx

theorem isOk_strip {withAlpha : Bool} {frames : List Pixels}
    : (strip withAlpha frames).isOk ↔ ∀ pixels ∈ frames, Shows (maxPixel withAlpha) pixels := by
  unfold strip
  generalize hfound : frames.zipIdx.findSome? _ = found
  have hnone : found = none ↔ ∀ pixels ∈ frames, Shows (maxPixel withAlpha) pixels := by
    simp only [← hfound, List.findSome?_eq_none_iff, Prod.forall, frameFailure?_eq_none]
    exact forall_mem_zipIdx
  rw [← hnone]
  cases found <;> simp

theorem mem_unique {frames : List (Option Pixels)} {pixels : Pixels}
    : pixels ∈ (pack frames).unique ↔ some pixels ∈ frames := by
  simp [pack]

theorem le_one_of_not_isTransparent {p : UInt8} (h : p ≤ 3) (hplain : ¬Packing.isTransparent p)
    : p ≤ 1 := by
  simp only [Packing.isTransparent, Bool.or_eq_true, beq_iff_eq, not_or, ← UInt8.toNat_inj] at hplain
  rw [UInt8.le_iff_toNat_le] at h ⊢
  simp at h hplain ⊢
  omega

theorem isOk_frameStrip {frames : List (Option Pixels)}
    : (frameStrip (pack frames)).isOk ↔ ∀ pixels, some pixels ∈ frames → Shows 3 pixels := by
  rw [frameStrip, isOk_strip]
  simp only [mem_unique]
  cases halpha : (pack frames).hasAlpha with
  | true => rfl
  | false =>
    have hplain (pixels : Pixels) (h : some pixels ∈ frames) (p : UInt8) (hp : p ∈ pixels)
        : ¬Packing.isTransparent p := by
      simp only [Packing.hasAlpha, List.any_eq_false, mem_unique] at halpha
      have := halpha pixels h
      simp only [List.any_eq_true, not_exists, not_and] at this
      exact this p hp
    constructor
    . intro hall pixels h
      obtain ⟨hlength, hle⟩ := hall pixels h
      exact ⟨hlength, fun p hp => UInt8.le_trans (hle p hp) (by decide)⟩
    . intro hall pixels h
      obtain ⟨hlength, hle⟩ := hall pixels h
      exact ⟨hlength, fun p hp => le_one_of_not_isTransparent (hle p hp) (hplain pixels h p hp)⟩

end Sheet

namespace Entity

theorem total_tileRecords {packing : Sheet.Packing} {tiles : List Tile}
    (h : ∀ t ∈ tiles, ∀ f ∈ t.frames, f < packing.places.length)
    : Total (tileRecords packing tiles) := by
  intro ledger
  rcases tileRecords_cases packing tiles ledger with ⟨records, hrun, -⟩ | ⟨before, e, -, hstops⟩
  . exact ⟨records, _, hrun⟩
  . exact absurd h hstops.not_all

theorem isOk_tileTable (frames : List (Option Pixels)) (tiles : List (Option Tile)) (ledger : Ledger)
    : (outcome (tileTable (Sheet.pack frames) tiles) ledger).1.isOk ↔
        ∀ t, some t ∈ tiles → ∀ f ∈ t.frames, f < frames.length := by
  have hall : (∀ t ∈ tiles.filterMap id, HasFrames (Sheet.pack frames) t) ↔
      ∀ t, some t ∈ tiles → ∀ f ∈ t.frames, f < frames.length := by
    simp [HasFrames, Sheet.pack]
  rw [← hall]
  rcases tileTable_cases (Sheet.pack frames) tiles ledger with
    ⟨records, hrun, -, hframes⟩ | ⟨before, e, hrun, hstops⟩
  . simpa [hrun] using hframes
  . simpa [hrun] using hstops.not_all

end Entity

namespace Script

variable {doc : Document} {script : Script} {s : Unit × Ledger}

theorem kind_le_iff : script.kind ≤ 2 ↔ ∃ owner, Owner.ofNat? script.kind = some owner := by
  unfold Owner.ofNat?
  split <;> simp_all
  omega

theorem IsValid.total (h : script.IsValid) (doc : Document)
    : Total (script.compile doc blockCompiler) := by
  obtain ⟨owner, howner⟩ := kind_le_iff.mp h.owner
  unfold compile
  rw [howner]
  have hname : Total (Script.name doc owner script.id : Compiling Unit String) := by
    unfold Script.name
    split
    . exact .pure
    . exact .bind .modify fun _ _ _ _ => .pure
  apply Total.bind hname
  intro _ name _ _
  apply Total.bind
  . apply Total.mapM
    intro event hevent
    obtain ⟨root, hroot, hblocks⟩ := h.events event hevent
    unfold compileEvent
    rw [hroot]
    intro s
    exact isOk_outcome.mp (Block.isOk_blockCompiler name event.1 _ root s.2 |>.mpr hblocks)
  . intro _ _ _ _
    exact .pure

theorem Parts.Compile.isValid {p : Parts} {tileId? : String → Option Int}
    (h : p.Compile doc tileId? script) : script.IsValid where
  owner := kind_le_iff.mpr ⟨_, h.owner_eq⟩
  events event hevent := by
    obtain ⟨c, hc, rfl⟩ := (mem_handlers h).mp hevent
    exact ⟨c.root, rfl, Block.runs_handler_iff.mp ⟨_, _, h.handlers_compile c hc⟩⟩

theorem isOk_compile : (outcome (script.compile doc blockCompiler) s).1.isOk ↔ script.IsValid := by
  rw [isOk_outcome]
  constructor
  . rintro ⟨result, s', hrun⟩
    obtain ⟨p, hp, -⟩ := runs_compile hrun
    exact hp.isValid
  . intro h
    exact h.total doc s

end Script

theorem Compilation.isOk_compileAll {doc : Document} {scripts : List Script} {s : Unit × Ledger}
    : ((compileAll doc blockCompiler scripts).run s).1.result.isOk ↔
        ∀ script ∈ scripts, script.IsValid := by
  induction scripts generalizing s with
  | nil => exact ⟨by simp, fun _ => rfl⟩
  | cons script scripts ih =>
    rw [run_compileAll_cons, List.forall_mem_cons]
    have hscript : (outcome (script.compile doc blockCompiler) s).1.isOk ↔ script.IsValid :=
      Script.isOk_compile
    rcases houtcome : outcome (script.compile doc blockCompiler) s with ⟨e | c, mid⟩
    . rw [houtcome] at hscript
      simp [← hscript, result]
    . rw [houtcome] at hscript
      have hvalid : script.IsValid := hscript.mp rfl
      rw [← ih (s := mid)]
      dsimp only
      rcases (compileAll doc blockCompiler scripts).run mid with ⟨⟨done, failure⟩, last⟩
      cases failure <;> simp [hvalid, result]

theorem Compilation.mem_ledger_uses {doc : Document} {done : List (CompiledScript × Nat)}
    {u u' : Unit} {entered ledger : Ledger} (hnotes : entered.notes = [])
    (h : (compileAll doc blockCompiler doc.scripts).run (u, entered) = (⟨done, none⟩, u', ledger))
    (v : String) : v ∈ ledger.uses ↔ doc.Mentions Block.statementVariables v := by
  obtain ⟨items, hitems, -, hcompile, hadds⟩ := compileAll_eq h
  rw [Document.Mentions, hitems, ← mem_uses hcompile, hadds, hnotes]
  rfl

namespace Document

variable {doc : Document} {α β : Type} {stages : List Stage} {s : Unit × List Journal.Entry}

def Judges (doc : Document) (stages : List Stage) : Except BuildFailure α → Prop
  | .ok _ => ∀ stage ∈ stages, doc.Meets stage
  | .error e => doc.FirstUnmet stages e.stage

theorem FirstUnmet.cons {first stage : Stage} (h : doc.FirstUnmet stages stage)
    (hfirst : doc.Meets first) : doc.FirstUnmet (first :: stages) stage := by
  obtain ⟨before, behind, rfl, hbefore, hstage⟩ := h
  exact ⟨first :: before, behind, rfl, by simpa [hfirst] using hbefore, hstage⟩

theorem judges_bind {m : Building Unit α} {f : α → Building Unit β} {a : α}
    {mid : Unit × List Journal.Entry} (hm : Runs m s a mid)
    (h : doc.Judges stages (outcome (f a) mid).1) : doc.Judges stages (outcome (m >>= f) s).1 := by
  rw [outcome_bind, hm]
  exact h

theorem judges_write {entries : List Journal.Entry} {f : Unit → Building Unit β}
    (h : doc.Judges stages (outcome (f ()) (s.1, s.2 ++ entries)).1)
    : doc.Judges stages (outcome (Building.write entries >>= f) s).1 :=
  judges_bind (Building.runs_write.mpr rfl) h

theorem judges_modify {g : Unit × List Journal.Entry → Unit × List Journal.Entry}
    {f : Unit → Building Unit β} (h : doc.Judges stages (outcome (f ()) (g s)).1)
    : doc.Judges stages (outcome (modify g >>= f) s).1 :=
  judges_bind (runs_modify.mpr rfl) h

theorem judges_step {stage : Stage} {x : Except Failure α} {f : α → Building Unit β}
    (hx : x.isOk ↔ doc.Meets stage)
    (h : ∀ a, x = .ok a → doc.Judges stages (outcome (f a) s).1)
    : doc.Judges (stage :: stages) (outcome (Building.step stage x >>= f) s).1 := by
  cases x with
  | error e =>
    refine ⟨[], stages, rfl, by simp, ?_⟩
    rw [← hx]
    simp
  | ok a =>
    have hmeets : doc.Meets stage := hx.mp rfl
    have hrest := h a rfl
    apply judges_bind (Building.runs_step.mpr ⟨rfl, rfl⟩)
    cases houtcome : (outcome (f a) s).1 with
    | ok b =>
      rw [houtcome] at hrest
      exact List.forall_mem_cons.mpr ⟨hmeets, hrest⟩
    | error e =>
      rw [houtcome] at hrest
      exact hrest.cons hmeets

theorem judges_build (doc : Document) (settings : Settings) (journal : List Journal.Entry)
    : doc.Judges Stage.order (doc.build settings journal).1 := by
  change doc.Judges Stage.order (outcome (doc.buildWith settings blockCompiler) ((), journal)).1
  unfold buildWith
  apply judges_write
  apply judges_step Sheet.isOk_frameStrip
  intro tiles _
  apply judges_step Sheet.isOk_strip
  intro border _
  apply judges_step Sheet.isOk_strip
  intro font _
  rcases htable : outcome (Entity.tileTable (Sheet.pack doc.frames) doc.tiles) {} with ⟨table, entered⟩
  have hentered : table.isOk ↔ doc.Meets .tiles := by
    have := Entity.isOk_tileTable doc.frames doc.tiles {}
    rwa [htable] at this
  unfold outcome at htable
  rw [htable]
  apply judges_step hentered
  intro text htext
  apply judges_bind (runs_get.mpr ⟨rfl, rfl⟩)
  rcases hcompile : (Compilation.compileAll doc blockCompiler doc.scripts).run ((), entered) with
    ⟨compilation, u, ledger⟩
  have hscripts : compilation.result.isOk ↔ doc.Meets .scripts := by
    have : ((Compilation.compileAll doc blockCompiler doc.scripts).run ((), entered)).1.result.isOk ↔
        doc.Meets .scripts :=
      Compilation.isOk_compileAll
    rwa [hcompile] at this
  apply judges_modify
  apply judges_step hscripts
  intro scripts hresult
  apply judges_write
  -- Tiles use no variables, so those in the ledger are the ones that the scripts mention.
  have hallot : (Variable.Storage.allot ledger.usage settings.fastSlots).isOk ↔
      doc.Meets .storage := by
    obtain ⟨done, failure⟩ := compilation
    obtain ⟨rfl, -⟩ := Compilation.result_eq_ok hresult
    subst htext
    obtain ⟨records, -, -, rfl⟩ := Entity.runs_tileTable htable
    rw [Variable.Storage.isOk_allot, Ledger.usage_names]
    simp only [mem_sortedOnce, Compilation.mem_ledger_uses rfl hcompile]
    rfl
  apply judges_step hallot
  intro storage _
  apply judges_write
  intro stage hstage
  cases hstage

theorem FirstUnmet.not_meets {stage : Stage} (h : doc.FirstUnmet stages stage)
    : ∃ stage, ¬doc.Meets stage := by
  obtain ⟨-, -, -, -, hstage⟩ := h
  exact ⟨stage, hstage⟩

theorem mem_order (stage : Stage) : stage ∈ Stage.order := by
  cases stage <;> decide

theorem isOk_build (doc : Document) (settings : Settings) (journal : List Journal.Entry)
    : (doc.build settings journal).1.isOk ↔ ∀ stage, doc.Meets stage := by
  have hjudges := judges_build doc settings journal
  cases hresult : (doc.build settings journal).1 with
  | ok product =>
    rw [hresult] at hjudges
    exact ⟨fun _ stage => hjudges stage (mem_order stage), fun _ => rfl⟩
  | error e =>
    rw [hresult] at hjudges
    obtain ⟨stage, hstage⟩ := hjudges.not_meets
    constructor
    . intro hok
      cases hok
    . intro hall
      exact absurd (hall stage) hstage

/-- A build succeeds exactly if the document meets the conditions of all steps, and fails at the
first step whose condition is not met. What can be compiled is the same for every script, event and
ledger, and neither the settings nor rooms or sounds matter. -/
theorem build_iff_meets (doc : Document) (settings : Settings) (journal : List Journal.Entry)
    : ((doc.build settings journal).1.isOk ↔ ∀ stage, doc.Meets stage) ∧
        (∀ e, (doc.build settings journal).1 = .error e → doc.FirstUnmet Stage.order e.stage) ∧
        (∀ script event blocks root ledger,
          ((blockCompiler script event blocks root).run.run ((), ledger)).1.isOk ↔
            Block.IsWellFormed blocks root) ∧
        ∀ rooms sounds settings' journal',
          ({ doc with rooms := rooms, sounds := sounds }.build settings' journal').1.isOk =
            (doc.build settings journal).1.isOk := by
  refine ⟨isOk_build doc settings journal, ?_, Block.isOk_blockCompiler, ?_⟩
  . intro e he
    have hjudges := judges_build doc settings journal
    rw [he] at hjudges
    exact hjudges
  . intro rooms sounds settings' journal'
    rw [Bool.eq_iff_iff, isOk_build, isOk_build]
    apply forall_congr'
    intro stage
    cases stage <;> rfl

end Document

end PulpGame
