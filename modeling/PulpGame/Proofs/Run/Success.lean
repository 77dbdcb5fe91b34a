import PulpGame.Proofs.Disk.Tree
import PulpGame.Proofs.Run.Failure

namespace PulpGame

open Disk (Content FileSystem Tree)

namespace Disk.Tree

variable {t t' : Tree} {c : Content}

theorem change_eq_ok {f : Tree → Except Error Tree} : change f t = (.ok (), t') ↔ f t = .ok t' := by
  unfold change
  cases f t with
  | error e =>
    change ((.error e, t) : Except Error Unit × Tree) = (.ok (), t') ↔ _
    simp
  | ok u =>
    change ((.ok (), u) : Except Error Unit × Tree) = (.ok (), t') ↔ _
    simp

theorem runs_write {path : String} {u : Unit}
    : Runs (ExceptT.mk (FileSystem.write path c)) t u t' ↔ t.write ⟨path⟩ c = .ok t' :=
  @change_eq_ok t t' (·.write ⟨path⟩ c)

theorem runs_copy {source target : String} {u : Unit}
    : Runs (ExceptT.mk (FileSystem.copy source target)) t u t' ↔
        t.copy ⟨source⟩ ⟨target⟩ = .ok t' :=
  @change_eq_ok t t' (·.copy ⟨source⟩ ⟨target⟩)

end Disk.Tree

theorem Document.load_succeeds {source : String} {doc : Document} (h : ofText source = .ok doc)
    (journal : List Journal.Entry) : ∃ journal', Runs (load source) journal doc journal' := by
  unfold load
  rw [h]
  exact ⟨_, runs_bind.mpr ⟨(), _, runs_modify.mpr rfl, runs_bind.mpr ⟨doc, _,
    runs_pure.mpr ⟨rfl, rfl⟩, runs_bind.mpr ⟨(), _, runs_modify.mpr rfl,
    runs_pure.mpr ⟨rfl, rfl⟩⟩⟩⟩⟩

namespace Delivery

variable {t : Tree} {directory name runtime : String} {content : Content}

def Free (t : Tree) (directory name : String) : Prop :=
  ∀ file ∈ [programFile, name, tilesFile, borderFile, fontFile],
    t.Writable ⟨Disk.Path.join directory file⟩

theorem Free.puts {t' : Tree} {l : Disk.Location} (h : Free t directory name)
    (hputs : Disk.Tree.Puts t t' l content) : Free t' directory name :=
  fun file hfile => (h file hfile).puts hputs

theorem deliverProgram_succeeds (program : String) (hfree : Free t directory name)
    (hname : (Disk.Path.mk runtime).fileName? = some name)
    (hfind : t.find ⟨runtime⟩ = .ok (.file content))
    : ∃ t', Runs (deliverProgram program directory runtime) t () t' ∧ Free t' directory name := by
  obtain ⟨mid, hwrite⟩ := (hfree programFile (by simp)).write (.text program)
  obtain ⟨l, -, hputs⟩ := Disk.Tree.write_eq_ok hwrite
  obtain ⟨content, hfind⟩ := hputs.find_file hfind
  have hfree := hfree.puts hputs
  obtain ⟨t', hcopy⟩ := (hfree name (by simp)).copy hfind
  obtain ⟨_, l', _, _, _, _, hputs'⟩ := Disk.Tree.copy_eq_ok hcopy
  refine ⟨t', ?_, hfree.puts hputs'⟩
  unfold deliverProgram
  refine runs_bind.mpr ⟨(), mid, Disk.Tree.runs_write.mpr hwrite, ?_⟩
  rw [hname]
  exact Disk.Tree.runs_copy.mpr hcopy

theorem deliverSheet_succeeds {image : Sheet.Image} {file : String}
    (hfile : file ∈ [programFile, name, tilesFile, borderFile, fontFile])
    (hfree : Free t directory name) (hwidth : image.width ≠ 0) (journal : List Journal.Entry)
    : ∃ journal' t', Runs (Run.together (deliverSheet image (Disk.Path.join directory file)))
        (journal, t) () (journal', t') ∧ Free t' directory name := by
  rw [Run.together_deliverSheet]
  split
  . exact ⟨_, t, Run.runs_noted.mpr rfl, hfree⟩
  . obtain ⟨mid, hmake⟩ := (hfree file hfile).write (.text "")
    obtain ⟨l, -, hputs⟩ := Disk.Tree.write_eq_ok hmake
    have hfree := hfree.puts hputs
    obtain ⟨t', hfill⟩ := (hfree file hfile).write (.picture (.ofImage image))
    obtain ⟨l', -, hputs'⟩ := Disk.Tree.write_eq_ok hfill
    refine ⟨journal, t', runs_bind.mpr ⟨(), (journal, mid), ?_, ?_⟩, hfree.puts hputs'⟩
    . exact Run.runs_requested.mpr ⟨Disk.Tree.change_eq_ok.mpr hmake, rfl⟩
    . exact Run.runs_requested.mpr ⟨Disk.Tree.change_eq_ok.mpr hfill, rfl⟩

end Delivery

namespace Run

variable {c : Command} {t made : Tree} {name : String} {content : Content}

theorem deliver_succeeds (p : Product)
    (hmake : (Disk.createDirectories c.output : StateM Tree _) t = (.ok (), made))
    (hfree : Delivery.Free made c.output name)
    (hname : (Disk.Path.mk c.runtime).fileName? = some name)
    (hfind : made.find ⟨c.runtime⟩ = .ok (.file content)) (htiles : p.tiles.width ≠ 0)
    (hborder : p.border.width ≠ 0) (hfont : p.font.width ≠ 0) (journal : List Journal.Entry)
    : ∃ journal' t', Runs (together (deliver c p)) (journal, t) () (journal', t') := by
  have hfiles : ∀ file ∈ [Delivery.tilesFile, Delivery.borderFile, Delivery.fontFile],
      file ∈ [Delivery.programFile, name, Delivery.tilesFile, Delivery.borderFile,
        Delivery.fontFile] :=
    fun file hfile => List.mem_cons_of_mem _ (List.mem_cons_of_mem _ hfile)
  obtain ⟨t₁, hprogram, hfree⟩ := Delivery.deliverProgram_succeeds p.program hfree hname hfind
  obtain ⟨journal₂, t₂, htiles, hfree⟩ :=
    Delivery.deliverSheet_succeeds (hfiles Delivery.tilesFile (by simp)) hfree htiles journal
  obtain ⟨journal₃, t₃, hborder, hfree⟩ :=
    Delivery.deliverSheet_succeeds (hfiles Delivery.borderFile (by simp)) hfree hborder journal₂
  obtain ⟨journal₄, t₄, hfont, -⟩ :=
    Delivery.deliverSheet_succeeds (hfiles Delivery.fontFile (by simp)) hfree hfont journal₃
  refine ⟨journal₄, t₄, ?_⟩
  rw [together_deliver]
  refine runs_bind.mpr ⟨(), (journal, made), runs_requested.mpr ⟨hmake, rfl⟩, ?_⟩
  refine runs_bind.mpr ⟨(), (journal, t₁), runs_requested.mpr ⟨hprogram, rfl⟩, ?_⟩
  rw [runs_adapt]
  unfold Delivery.deliverSheets
  rw [together_bind, together_bind]
  exact runs_bind.mpr ⟨(), _, htiles, runs_bind.mpr ⟨(), _, hborder, hfont⟩⟩

theorem prepare_succeeds {source : String} {doc : Document}
    (hfound : t.find ⟨c.runtime⟩ = .ok (.file content)) (hread : t.readText ⟨c.input⟩ = .ok source)
    (hsource : Document.ofText source = .ok doc)
    (hbuild : ∀ journal, ∃ p journal', doc.build c.settings journal = (.ok p, journal'))
    (journal : List Journal.Entry)
    : ∃ p journal', p.tiles.width = 8 ∧ p.border.width = 8 ∧ p.font.width = 8 ∧
        Runs (together (prepare c)) (journal, t) p (journal', t) := by
  obtain ⟨loaded, hload⟩ := Document.load_succeeds hsource journal
  obtain ⟨p, journal', hbuilt⟩ := hbuild loaded
  obtain ⟨m, hm⟩ := Document.build_eq_ok hbuilt
  obtain ⟨htiles, hborder, hfont⟩ := hm.width_eq
  refine ⟨p, journal', htiles, hborder, hfont, ?_⟩
  have hfile : t.isFile ⟨c.runtime⟩ = true := Disk.Tree.isFile_eq_true.mpr ⟨content, hfound⟩
  rw [together_prepare]
  refine runs_bind.mpr ⟨true, (journal, t), runs_questioned.mpr ⟨Prod.ext hfile rfl, rfl⟩, ?_⟩
  refine runs_bind.mpr ⟨source, (journal, t), runs_requested.mpr ⟨Prod.ext hread rfl, rfl⟩, ?_⟩
  exact runs_bind.mpr ⟨doc, (loaded, t), runs_computed.mpr ⟨hload, rfl⟩,
    runs_computed.mpr ⟨hbuilt, rfl⟩⟩

theorem run_succeeds (c : Command) {source : String} {doc : Document}
    (hfound : t.find ⟨c.runtime⟩ = .ok (.file content)) (hread : t.readText ⟨c.input⟩ = .ok source)
    (hsource : Document.ofText source = .ok doc)
    (hbuild : ∀ journal, ∃ p journal', doc.build c.settings journal = (.ok p, journal'))
    (hmake : (Disk.createDirectories c.output : StateM Tree _) t = (.ok (), made))
    (hname : (Disk.Path.mk c.runtime).fileName? = some name)
    (hfree : Delivery.Free made c.output name) (journal : List Journal.Entry)
    : ∃ journal' t', ((run c : Running (StateM Tree) Unit).run.run journal).run t =
        ((.ok (), journal'), t') := by
  have hgrows := Disk.Tree.OnlyAdds.createDirectories c.output t
  rw [hmake] at hgrows
  obtain ⟨p, prepared, htiles, hborder, hfont, hprepare⟩ :=
    prepare_succeeds hfound hread hsource hbuild journal
  obtain ⟨delivered, t', hdeliver⟩ := deliver_succeeds p hmake hfree hname
    (hgrows.find_file hfound) (by omega) (by omega) (by omega) prepared
  have hrun : ∃ journal', Runs (together (run c)) (journal, t) () (journal', t') := by
    rw [together_run]
    exact ⟨_, runs_bind.mpr ⟨p, _, hprepare, runs_bind.mpr ⟨(), _, hdeliver,
      runs_bind.mpr ⟨(), _, runs_noted.mpr rfl, runs_noted.mpr rfl⟩⟩⟩⟩
  obtain ⟨journal', hrun⟩ := hrun
  exact ⟨journal', t', outcome_together.mp hrun⟩

end Run

end PulpGame
