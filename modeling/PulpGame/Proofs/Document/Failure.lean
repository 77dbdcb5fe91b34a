import PulpGame.Proofs.Build

namespace PulpGame

namespace Entity

def IsUnknownFrame (packing : Sheet.Packing) (tiles : List Tile) (e : Failure) : Prop :=
  ∃ t ∈ tiles, ∃ frame ∈ t.frames, packing.place? frame = none ∧ e = .unknownFrame t.name frame

theorem StopsBehind.isUnknownFrame {packing : Sheet.Packing} {before tiles : List Tile}
    {e : Failure} (h : StopsBehind packing before tiles e) : IsUnknownFrame packing tiles e := by
  obtain ⟨t, others, front, f, behind, rfl, -, hframes, -, hf, rfl⟩ := h
  exact ⟨t, by simp, f, by simp [hframes], List.getElem?_eq_none hf, rfl⟩

theorem failsOnly_tileTable (packing : Sheet.Packing) (tiles : List (Option Tile))
    : FailsOnly (tileTable packing tiles) (IsUnknownFrame packing (tiles.filterMap id)) := by
  intro ledger e ledger' h
  rcases tileTable_cases packing tiles ledger with ⟨records, hrun, -⟩ | ⟨before, cause, hrun, hstops⟩
  . rw [hrun] at h
    cases h
  . rw [hrun] at h
    cases h
    exact hstops.isUnknownFrame

end Entity

theorem Building.failsOnly_step {σ α : Type} {stage : Stage} {x : Except Failure α}
    {P : BuildFailure → Prop} (h : ∀ e, x = .error e → P ⟨stage, e⟩)
    : FailsOnly (step stage x : Building σ α) P := by
  cases x with
  | ok a => exact .pure
  | error e => exact .throw (h e rfl)

namespace Document

variable {doc : Document} {settings : Settings}

theorem fails_build {P : BuildFailure → Prop}
    (hP : FailsOnly (doc.buildWith settings blockCompiler) P) {e : BuildFailure}
    {journal journal' : List Journal.Entry} (h : doc.build settings journal = (.error e, journal'))
    : P e := by
  rcases hrun : outcome (doc.buildWith settings blockCompiler) ((), journal) with ⟨result, u, last⟩
  unfold Document.build at h
  unfold outcome at hrun
  rw [hrun] at h
  cases h
  exact hP _ _ _ hrun

theorem failsOnly_build {P : BuildFailure → Prop}
    (hframes : ∀ e, Sheet.frameStrip (Sheet.pack doc.frames) = .error e → P ⟨.frames, e⟩)
    (hborder : ∀ e, Sheet.glyphStrip doc.font.border = .error e → P ⟨.border, e⟩)
    (hfont : ∀ e, Sheet.glyphStrip doc.font.glyphs = .error e → P ⟨.font, e⟩)
    (htiles : ∀ e, Entity.IsUnknownFrame (Sheet.pack doc.frames) (doc.tiles.filterMap id) e →
      P ⟨.tiles, e⟩)
    (hscripts : ∀ e, P ⟨.scripts, e⟩) (hstorage : ∀ e, P ⟨.storage, e⟩)
    : FailsOnly (doc.buildWith settings blockCompiler) P := by
  have htable : ∀ e, (outcome (Entity.tileTable (Sheet.pack doc.frames) doc.tiles) {}).1 = .error e →
      P ⟨.tiles, e⟩ := by
    intro e he
    exact htiles e (Entity.failsOnly_tileTable _ _ {} e _ (Prod.ext he rfl))
  unfold buildWith
  refine .bind .modify fun _ => .bind (Building.failsOnly_step hframes) fun tiles => ?_
  refine .bind (Building.failsOnly_step hborder) fun border => ?_
  refine .bind (Building.failsOnly_step hfont) fun font => ?_
  refine .bind (Building.failsOnly_step htable) fun table => .bind .get fun before => ?_
  refine .bind .modify fun _ => .bind (Building.failsOnly_step fun e _ => hscripts e) fun _ => ?_
  refine .bind .modify fun _ => .bind (Building.failsOnly_step fun e _ => hstorage e) fun _ => ?_
  exact .bind .modify fun _ => .pure

end Document

end PulpGame
