import PulpGame.Proofs.Run.Success
import PulpGame.Proofs.Sheet.Png

namespace PulpGame

open Disk (Content FileSystem IsFileName Location Tree)
open Disk.Tree (Grows Keeps OnlyAdds Opens Puts Wrote)

def Product.sheets (p : Product) : List (String × Sheet.Image) :=
  [(Delivery.tilesFile, p.tiles), (Delivery.borderFile, p.border), (Delivery.fontFile, p.font)]

def Product.sheetFiles (p : Product) : List (String × Content) :=
  p.sheets.flatMap fun (file, image) =>
    if image.height = 0 then [] else [(file, .picture (.ofImage image))]

namespace Disk.Tree

variable {t t' : Tree} {directory name : String} {base : Location} {c : Content}

theorem wrote_of_write (hname : IsFileName name)
    (h : t.write ⟨Path.join directory name⟩ c = .ok t')
    : ∃ base, t.Opens directory base ∧ Wrote directory base [(name, c)] t t' := by
  obtain ⟨l, hlocate, hputs⟩ := write_eq_ok h
  obtain ⟨base, hbase, rfl⟩ := locate_join hname hlocate
  exact ⟨base, hbase, .cons hlocate hputs (.nil t')⟩

end Disk.Tree

namespace Delivery

variable {t t' : Tree} {directory : String} {base : Location}

theorem isFileName_programFile : IsFileName programFile := by
  constructor <;> decide

theorem isFileName_sheet {file : String} (h : file ∈ [tilesFile, borderFile, fontFile])
    : IsFileName file := by
  simp only [List.mem_cons, List.not_mem_nil, or_false] at h
  rcases h with rfl | rfl | rfl <;> constructor <;> decide

theorem wrote_of_deliverProgram {program runtime : String} {u : Unit}
    (h : Runs (deliverProgram program directory runtime) t u t')
    : ∃ base name mid origin content, t.Opens directory base ∧
        (Disk.Path.mk runtime).fileName? = some name ∧
        Wrote directory base [(programFile, .text program)] t mid ∧
        mid.locate ⟨runtime⟩ = .ok origin ∧ mid.node? origin = some (.file content) ∧
        Wrote directory base [(name, Disk.Tree.copied origin (base ++ [name]) content)] mid t' := by
  unfold deliverProgram at h
  obtain ⟨_, mid, hprogram, h⟩ := runs_bind.mp h
  obtain ⟨base, hbase, hwrote⟩ :=
    Disk.Tree.wrote_of_write isFileName_programFile (Disk.Tree.runs_write.mp hprogram)
  cases hname : (Disk.Path.mk runtime).fileName? with
  | none =>
    rw [hname] at h
    exact absurd h runs_throw
  | some name =>
    rw [hname] at h
    obtain ⟨origin, place, content, horigin, hcontent, hplace, hputs⟩ :=
      Disk.Tree.copy_eq_ok (Disk.Tree.runs_copy.mp h)
    obtain ⟨base', hbase', rfl⟩ :=
      Disk.Tree.locate_join (Disk.Path.eq_of_fileName? hname).2 hplace
    obtain rfl := (hbase.keeps hwrote.keeps).unique hbase'
    exact ⟨base, name, mid, origin, content, hbase, rfl, hwrote, horigin, hcontent,
      .cons hplace hputs (.nil t')⟩

variable {s s' : List Journal.Entry × Tree} {u : Unit}

theorem wrote_of_deliverSheet {image : Sheet.Image} {file : String} (hfile : IsFileName file)
    (hbase : s.2.Opens directory base)
    (h : Runs (Run.together (deliverSheet image (Disk.Path.join directory file))) s u s')
    : Wrote directory base (if image.height = 0 then [] else [(file, .picture (.ofImage image))])
        s.2 s'.2 := by
  rw [Run.together_deliverSheet] at h
  split
  . next hempty =>
    rw [if_pos hempty] at h
    obtain rfl := Run.runs_noted.mp h
    exact .nil _
  . next hrows =>
    rw [if_neg hrows] at h
    obtain ⟨_, mid, hmade, h⟩ := runs_bind.mp h
    split at h
    . exact absurd h runs_throw
    . have hmake := Disk.Tree.change_eq_ok.mp (Run.runs_requested.mp hmade).1
      have hfill := Disk.Tree.change_eq_ok.mp (Run.runs_requested.mp h).1
      obtain ⟨l, hl, hputs⟩ := Disk.Tree.write_eq_ok hmake
      obtain ⟨l', hl', hputs'⟩ := Disk.Tree.write_eq_ok hfill
      -- The file is made before it is filled; both times it is in the same place.
      rw [hputs.keeps.locate hl] at hl'
      cases hl'
      obtain ⟨base', hbase', rfl⟩ := Disk.Tree.locate_join hfile hl
      obtain rfl := hbase.unique hbase'
      exact .cons hl (hputs.trans hputs') (.nil _)

theorem wrote_of_deliverSheets {p : Product} (hbase : s.2.Opens directory base)
    (h : Runs (Run.together (deliverSheets p.tiles p.border p.font directory)) s u s')
    : Wrote directory base p.sheetFiles s.2 s'.2 := by
  unfold deliverSheets at h
  simp only [Run.together_bind, runs_bind] at h
  obtain ⟨_, mid, htiles, _, mid', hborder, hfont⟩ := h
  have htiles := wrote_of_deliverSheet (isFileName_sheet (by simp)) hbase htiles
  have hbase := hbase.keeps htiles.keeps
  have hborder := wrote_of_deliverSheet (isFileName_sheet (by simp)) hbase hborder
  have hbase := hbase.keeps hborder.keeps
  have hfont := wrote_of_deliverSheet (isFileName_sheet (by simp)) hbase hfont
  have hall := htiles.append (hborder.append hfont)
  simpa [Product.sheetFiles, Product.sheets] using hall

/-- What a run has found, and the files it has written: those of the program, of the runtime and of
the sheets, in this order. -/
structure Course (c : Command) (p : Product) (t t' : Tree) (name : String) (content : Content)
    (origin base : Location) : Prop where
  fileName?_eq : (Disk.Path.mk c.runtime).fileName? = some name
  locate_eq : t.locate ⟨c.runtime⟩ = .ok origin
  node?_eq : t.node? origin = some (.file content)
  not_slashed : (Disk.Path.mk c.runtime).slashed = false
  wrote : ∃ made, Grows t made ∧
    Wrote c.output base
      ([(programFile, .text p.program)] ++
        ([(name, Disk.Tree.copied origin (base ++ [name]) content)] ++ p.sheetFiles)) made t'

variable {c : Command}

theorem course_of_deliver {p : Product} {origin : Location} {content : Content}
    (hlocate : s.2.locate ⟨c.runtime⟩ = .ok origin)
    (hnode : s.2.node? origin = some (.file content))
    (hslashed : (Disk.Path.mk c.runtime).slashed = false)
    (h : Runs (Run.together (Run.deliver c p)) s u s')
    : ∃ name base, Course c p s.2 s'.2 name content origin base := by
  rw [Run.together_deliver] at h
  obtain ⟨_, made, hmake, h⟩ := runs_bind.mp h
  obtain ⟨_, last, hprogram, hsheets⟩ := runs_bind.mp h
  have hmake := (Run.runs_requested.mp hmake).1
  have hprogram := (Run.runs_requested.mp hprogram).1
  have hgrows : Grows s.2 made.2 := by
    have hadds := OnlyAdds.createDirectories c.output s.2
    rwa [hmake] at hadds
  obtain ⟨base, name, mid, origin', content', hbase, hname, hwrote, horigin', hcontent', hcopied⟩ :=
    wrote_of_deliverProgram hprogram
  have hmade := hgrows.keeps.locate hlocate
  have hlocate' := hwrote.keeps.locate hmade
  rw [horigin'] at hlocate'
  cases hlocate'
  -- Only where the copy goes the program may have been put over the runtime, and a copy that is made
  -- of itself is empty whatever was there.
  have hsame : Disk.Tree.copied origin (base ++ [name]) content' =
      Disk.Tree.copied origin (base ++ [name]) content := by
    by_cases hself : origin = base ++ [name]
    . rw [hself, Disk.Tree.copied_self, Disk.Tree.copied_self]
    . have hkept := hwrote.node?_of_ne hname hmade (hgrows.node _ _ hnode) hself
      rw [hcontent'] at hkept
      cases hkept
      rfl
  rw [hsame] at hcopied
  have hsheets := wrote_of_deliverSheets
    ((hbase.keeps hwrote.keeps).keeps hcopied.keeps) (Run.runs_adapt.mp hsheets)
  exact ⟨name, base, hname, hlocate, hnode, hslashed, made.2, hgrows,
    hwrote.append (hcopied.append hsheets)⟩

theorem nodup_sheetFiles (p : Product) : (p.sheetFiles.map (·.1)).Nodup := by
  unfold Product.sheetFiles Product.sheets
  simp only [List.flatMap_cons, List.flatMap_nil, List.append_nil]
  split_ifs <;> simp [tilesFile, borderFile, fontFile]

theorem mem_sheetFiles {p : Product} {file : String} {picture : Content}
    : (file, picture) ∈ p.sheetFiles ↔
        ∃ image, (file, image) ∈ p.sheets ∧ image.height ≠ 0 ∧
          picture = .picture (.ofImage image) := by
  unfold Product.sheetFiles
  simp only [List.mem_flatMap, Prod.exists]
  constructor
  . rintro ⟨file', image, hmem, h⟩
    split at h
    . cases h
    . next hrows =>
      cases List.mem_singleton.mp h
      exact ⟨image, hmem, hrows, rfl⟩
  . rintro ⟨image, hmem, hrows, rfl⟩
    exact ⟨file, image, hmem, by rw [if_neg hrows]; exact List.mem_singleton.mpr rfl⟩

theorem name_mem_of_mem_sheetFiles {p : Product} {file : String × Content} (h : file ∈ p.sheetFiles)
    : file.1 ∈ [tilesFile, borderFile, fontFile] := by
  obtain ⟨image, hmem, -⟩ := mem_sheetFiles.mp h
  have hfile : file.1 ∈ p.sheets.map (·.1) := List.mem_map.mpr ⟨_, hmem, rfl⟩
  exact hfile

theorem sheetFiles_ne {name : String} (hname : name ∉ [tilesFile, borderFile, fontFile])
    (p : Product) : ∀ file ∈ p.sheetFiles, file.1 ≠ name := by
  rintro file hfile rfl
  exact hname (name_mem_of_mem_sheetFiles hfile)

theorem sheetFiles_cases (p : Product) (name : String)
    : (∃ picture, (name, picture) ∈ p.sheetFiles) ∨ ∀ file ∈ p.sheetFiles, file.1 ≠ name := by
  by_cases h : ∃ picture, (name, picture) ∈ p.sheetFiles
  . exact .inl h
  . refine .inr ?_
    rintro file hfile rfl
    exact h ⟨file.2, hfile⟩

namespace Course

variable {p : Product} {name : String} {content picture : Content} {origin : Location}

theorem isFileName (h : Course c p t t' name content origin base) : IsFileName name :=
  (Disk.Path.eq_of_fileName? h.fileName?_eq).2

theorem keeps (h : Course c p t t' name content origin base) : Keeps t t' := by
  obtain ⟨made, hgrows, hwrote⟩ := h.wrote
  exact hgrows.keeps.trans hwrote.keeps

theorem find_sheet {file : String} (h : Course c p t t' name content origin base)
    (hfile : (file, picture) ∈ p.sheetFiles)
    : t'.find ⟨Disk.Path.join c.output file⟩ = .ok (.file picture) := by
  obtain ⟨made, -, hwrote⟩ := h.wrote
  obtain ⟨front, back, hsplit⟩ := List.append_of_mem hfile
  have hnodup := nodup_sheetFiles p
  rw [hsplit, List.map_append, List.map_cons, List.nodup_append] at hnodup
  have hback : ∀ f ∈ back, f.1 ≠ file := by
    rintro f hf rfl
    exact (List.nodup_cons.mp hnodup.2.1).1 (List.mem_map.mpr ⟨f, hf, rfl⟩)
  rw [hsplit, ← List.append_assoc, ← List.append_assoc] at hwrote
  exact hwrote.find_last _ (isFileName_sheet (name_mem_of_mem_sheetFiles hfile)) hback

theorem find_copy (h : Course c p t t' name content origin base)
    (hother : ∀ file ∈ p.sheetFiles, file.1 ≠ name)
    : t'.find ⟨Disk.Path.join c.output name⟩ =
        .ok (.file (Disk.Tree.copied origin (base ++ [name]) content)) := by
  obtain ⟨made, -, hwrote⟩ := h.wrote
  exact hwrote.find_last [_] h.isFileName hother

theorem find_program (h : Course c p t t' name content origin base) (hname : name ≠ programFile)
    : t'.find ⟨Disk.Path.join c.output programFile⟩ = .ok (.file (.text p.program)) := by
  obtain ⟨made, -, hwrote⟩ := h.wrote
  have hsheets : ∀ file ∈ p.sheetFiles, file.1 ≠ programFile := sheetFiles_ne (by decide) p
  exact hwrote.find_last [] isFileName_programFile (List.forall_mem_cons.mpr ⟨hname, hsheets⟩)

theorem find_runtime (h : Course c p t t' name content origin base)
    (hother : origin ≠ base ++ [name]) : t'.find ⟨c.runtime⟩ = .ok (.file content) := by
  obtain ⟨made, hgrows, hwrote⟩ := h.wrote
  have hkept := hwrote.node?_of_ne h.fileName?_eq (hgrows.keeps.locate h.locate_eq)
    (hgrows.node _ _ h.node?_eq) hother
  exact Disk.Tree.find_eq_file.mpr ⟨origin, h.keeps.locate h.locate_eq, hkept, h.not_slashed⟩

theorem locate_copy (h : Course c p t t' name content origin base)
    : t'.locate ⟨Disk.Path.join c.output name⟩ = .ok (base ++ [name]) := by
  obtain ⟨made, -, hwrote⟩ := h.wrote
  exact hwrote.locate (List.mem_append_right _ (List.mem_append_left _ (List.mem_singleton_self _)))

theorem locate_runtime_eq (h : Course c p t t' name content origin base)
    : t'.locate ⟨c.runtime⟩ = t'.locate ⟨Disk.Path.join c.output name⟩ ↔
        origin = base ++ [name] := by
  rw [h.keeps.locate h.locate_eq, h.locate_copy, Except.ok.injEq]

theorem find_self (h : Course c p t t' name content origin base) (hself : origin = base ++ [name])
    : t'.find ⟨c.runtime⟩ = t'.find ⟨Disk.Path.join c.output name⟩ := by
  refine Disk.Tree.find_congr (h.locate_runtime_eq.mpr hself) ?_
  rw [h.not_slashed, Disk.Path.not_slashed_join c.output h.isFileName]

end Course

/-- The right files are there: the program, the runtime both where it was and beside the program, and
every sheet that has rows. -/
structure Delivered (c : Command) (p : Product) (name : String) (content : Content) (t : Tree) :
    Prop where
  program : t.find ⟨Disk.Path.join c.output programFile⟩ = .ok (.file (.text p.program))
  copied : t.find ⟨Disk.Path.join c.output name⟩ = .ok (.file content)
  runtime : t.find ⟨c.runtime⟩ = .ok (.file content)
  sheets : ∀ file image, (file, image) ∈ p.sheets → image.height ≠ 0 →
    ∃ png : Sheet.Png, t.find ⟨Disk.Path.join c.output file⟩ = .ok (.file (.picture png)) ∧
      png.decode = some image

/-- None of the files that are written comes into the way of another one: a runtime with the name of
the program or of a sheet holds the same as that, and a runtime that is the target of its own copy is
empty, unless a sheet takes its place. -/
structure Apart (c : Command) (p : Product) (name : String) (content : Content) (t : Tree) :
    Prop where
  program : name = programFile → content = .text p.program
  sheet : ∀ picture, (name, picture) ∈ p.sheetFiles → content = picture
  runtime : t.locate ⟨c.runtime⟩ = t.locate ⟨Disk.Path.join c.output name⟩ →
    content = .text "" ∨ ∃ picture, (name, picture) ∈ p.sheetFiles

namespace Course

variable {p : Product} {name : String} {content : Content} {origin : Location}

theorem find_sheet_image (h : Course c p t t' name content origin base)
    (htones : ∀ file image, (file, image) ∈ p.sheets → image.IsTwoTone)
    : ∀ file image, (file, image) ∈ p.sheets → image.height ≠ 0 →
        ∃ png : Sheet.Png, t'.find ⟨Disk.Path.join c.output file⟩ = .ok (.file (.picture png)) ∧
          png.decode = some image := by
  intro file image hmem hrows
  exact ⟨.ofImage image, h.find_sheet (mem_sheetFiles.mpr ⟨image, hmem, hrows, rfl⟩),
    Sheet.Png.decode_ofImage (htones file image hmem)⟩

theorem delivered_of_apart (h : Course c p t t' name content origin base)
    (htones : ∀ file image, (file, image) ∈ p.sheets → image.IsTwoTone)
    (hapart : Apart c p name content t') : Delivered c p name content t' := by
  have hcopied : t'.find ⟨Disk.Path.join c.output name⟩ = .ok (.file content) := by
    rcases sheetFiles_cases p name with ⟨picture, hmem⟩ | hother
    . rw [h.find_sheet hmem, hapart.sheet picture hmem]
    . rw [h.find_copy hother]
      -- copied onto itself, the library is emptied first
      by_cases hself : origin = base ++ [name]
      . rcases hapart.runtime (h.locate_runtime_eq.mpr hself) with rfl | ⟨picture, hmem⟩
        . rw [hself, Disk.Tree.copied_self]
        . exact absurd rfl (hother _ hmem)
      . rw [Disk.Tree.copied_other hself]
  constructor
  case copied => exact hcopied
  case program =>
    by_cases hname : name = programFile
    . rw [← hname, hcopied, hapart.program hname]
    . exact h.find_program hname
  case runtime =>
    by_cases hself : origin = base ++ [name]
    . rw [h.find_self hself, hcopied]
    . exact h.find_runtime hself
  case sheets => exact h.find_sheet_image htones

theorem apart_of_delivered (h : Course c p t t' name content origin base)
    (hdelivered : Delivered c p name content t') : Apart c p name content t' := by
  have hcopied := hdelivered.copied
  constructor
  case program =>
    rintro rfl
    have hprogram := hdelivered.program
    rw [hcopied] at hprogram
    cases hprogram
    rfl
  case sheet =>
    intro picture hmem
    rw [h.find_sheet hmem] at hcopied
    cases hcopied
    rfl
  case runtime =>
    intro hlocate
    rcases sheetFiles_cases p name with hsheet | hother
    . exact .inr hsheet
    . rw [h.find_copy hother, h.locate_runtime_eq.mp hlocate, Disk.Tree.copied_self] at hcopied
      cases hcopied
      exact .inl rfl

end Course

theorem course_of_run {journal journal' : List Journal.Entry}
    (h : Runs (Run.together (Run.run c)) (journal, t) u (journal', t'))
    : ∃ source doc built p built' name content origin base,
        t.readText ⟨c.input⟩ = .ok source ∧ Document.ofText source = .ok doc ∧
        doc.build c.settings built = (.ok p, built') ∧
        Course c p t t' name content origin base := by
  rw [Run.together_run] at h
  obtain ⟨p, mid, hprepare, h⟩ := runs_bind.mp h
  obtain ⟨_, last, hdeliver, h⟩ := runs_bind.mp h
  obtain ⟨_, noted, hdiagnostics, hlast⟩ := runs_bind.mp h
  obtain ⟨disk, source, doc, built, hfound, hread, hsource, hbuild⟩ := Run.runs_prepare hprepare
  have hfile : t.isFile ⟨c.runtime⟩ = true := congrArg Prod.fst hfound
  obtain rfl : t = disk := congrArg Prod.snd hfound
  have hsource' : t.readText ⟨c.input⟩ = .ok source := congrArg Prod.fst hread
  obtain rfl : t = mid.2 := congrArg Prod.snd hread
  obtain ⟨content, hfind⟩ := Disk.Tree.isFile_eq_true.mp hfile
  obtain ⟨origin, hlocate, hnode, hslashed⟩ := Disk.Tree.find_eq_file.mp hfind
  obtain ⟨name, base, hcourse⟩ := course_of_deliver hlocate hnode hslashed hdeliver
  -- Behind the delivery there are only notes.
  obtain rfl : t' = last.2 := by
    have hnoted := Run.runs_noted.mp hdiagnostics
    have hlast := Run.runs_noted.mp hlast
    rw [hnoted] at hlast
    exact congrArg Prod.snd hlast
  exact ⟨source, doc, built, p, mid.1, name, content, origin, base, hsource', hsource, hbuild,
    hcourse⟩

theorem isTwoTone_of_mem_sheets {doc : Document} {m : Makings doc} {settings : Settings}
    {p : Product} (h : m.Make settings p) {file : String} {image : Sheet.Image}
    (hmem : (file, image) ∈ p.sheets) : image.IsTwoTone := by
  simp only [Product.sheets, List.mem_cons, List.not_mem_nil, Prod.mk.injEq, or_false] at hmem
  rcases hmem with ⟨-, rfl⟩ | ⟨-, rfl⟩ | ⟨-, rfl⟩
  . exact Sheet.strip_isTwoTone h.tiles_eq
  . exact Sheet.strip_isTwoTone h.border_eq
  . exact Sheet.strip_isTwoTone h.font_eq

end Delivery

open Delivery (Apart Course Delivered)

/-- A run that succeeds has found a runtime, and has built a document. Every sheet that has rows is
there and reads as it was built. The other files are there as well if and only if none of them comes
into the way of another one. -/
theorem delivered_iff {c : Command} {journal journal' : List Journal.Entry} {t t' : Tree}
    (h : ((Run.run c : Run.Running (StateM Tree) Unit).run.run journal).run t =
      ((.ok (), journal'), t'))
    : ∃ source doc built p built' name content,
        t.readText ⟨c.input⟩ = .ok source ∧ Document.ofText source = .ok doc ∧
        doc.build c.settings built = (.ok p, built') ∧
        (Disk.Path.mk c.runtime).fileName? = some name ∧
        t.find ⟨c.runtime⟩ = .ok (.file content) ∧
        (∀ file image, (file, image) ∈ p.sheets → image.height ≠ 0 →
          ∃ png : Sheet.Png, t'.find ⟨Disk.Path.join c.output file⟩ = .ok (.file (.picture png)) ∧
            png.decode = some image) ∧
        (Delivered c p name content t' ↔ Apart c p name content t') := by
  obtain ⟨source, doc, built, p, built', name, content, origin, base, hread, hsource, hbuild,
    hcourse⟩ := Delivery.course_of_run (Run.outcome_together.mpr h)
  obtain ⟨m, hm⟩ := Document.build_eq_ok hbuild
  have htones : ∀ file image, (file, image) ∈ p.sheets → image.IsTwoTone :=
    fun _ _ => Delivery.isTwoTone_of_mem_sheets hm
  have hfind := Disk.Tree.find_eq_file.mpr
    ⟨origin, hcourse.locate_eq, hcourse.node?_eq, hcourse.not_slashed⟩
  exact ⟨source, doc, built, p, built', name, content, hread, hsource, hbuild,
    hcourse.fileName?_eq, hfind, hcourse.find_sheet_image htones,
    hcourse.apart_of_delivered, hcourse.delivered_of_apart htones⟩

def sheetSource : String :=
  "[\"sheet\",[0,0,0,0],[1],[[[" ++ ",".intercalate (List.replicate 64 "1") ++ "]]],[],[],[],[]]"

theorem sheetSource_ok
    : ∃ doc, Document.ofText sheetSource = .ok doc ∧ doc.compiles [] ∧
        (Sheet.pack doc.frames).unique.length = 1 := by
  have hdoc : (Document.ofText sheetSource).toOption.any fun doc =>
      doc.compiles [] && (Sheet.pack doc.frames).unique.length == 1 := by
    decide +kernel
  obtain ⟨doc, hread, hdoc⟩ := Option.any_eq_true _ _ |>.mp hdoc
  rw [Bool.and_eq_true, beq_iff_eq] at hdoc
  refine ⟨doc, ?_, hdoc⟩
  generalize Document.ofText sheetSource = x at hread
  cases x <;> cases hread
  rfl

def deskTree : Tree where
  entries := [(["game.json"], .file (.text sheetSource)),
    (["pulp.lua"], .file (.text "-- runtime")), (["out"], .directory)]

theorem deskTree_find : deskTree.find ⟨"pulp.lua"⟩ = .ok (.file (.text "-- runtime")) := by
  decide +kernel

theorem fileName?_runtime : (Disk.Path.mk "pulp.lua").fileName? = some "pulp.lua" := by
  decide +kernel

theorem deskTree_runs (output : String)
    (hmake : (Disk.createDirectories output : StateM Tree _) deskTree = (.ok (), deskTree))
    (hfree : Delivery.Free deskTree output "pulp.lua")
    : ∃ journal' t', ((Run.run { input := "game.json", output := output } :
        Run.Running (StateM Tree) Unit).run.run []).run deskTree = ((.ok (), journal'), t') := by
  obtain ⟨doc, hsource, hdoc, -⟩ := sheetSource_ok
  have htext : deskTree.readText ⟨"game.json"⟩ = .ok sheetSource := by decide +kernel
  have hbuild : ∀ journal, ∃ p journal', doc.build {} journal = (.ok p, journal') := by
    intro journal
    obtain ⟨p, journal', hbuild, -⟩ :=
      Document.build_succeeds hdoc (Variable.Storage.allot_nothing _)
    exact ⟨p, journal', hbuild⟩
  exact Run.run_succeeds { input := "game.json", output := output } deskTree_find htext hsource
    hbuild hmake fileName?_runtime hfree []

theorem delivered_iff_beside
    : ∃ journal' t' p, ((Run.run { input := "game.json" } :
        Run.Running (StateM Tree) Unit).run.run []).run deskTree = ((.ok (), journal'), t') ∧
        p.tiles.height = 8 ∧
        Delivered { input := "game.json" } p "pulp.lua" (.text "-- runtime") t' := by
  obtain ⟨journal', t', hrun⟩ := deskTree_runs "out"
    (by change @Eq (Except Disk.Error Unit × Tree) _ _; decide +kernel)
    (by unfold Delivery.Free; decide +kernel)
  obtain ⟨source, doc, built, p, built', name, content, hread, hsource, hbuild, hname, hfind, -,
    hiff⟩ := delivered_iff hrun
  obtain ⟨_, _, _, _, _, _, _, _, _, _, _, _, hcourse⟩ :=
    Delivery.course_of_run (Run.outcome_together.mpr hrun)
  obtain rfl : "pulp.lua" = name := Option.some.inj (fileName?_runtime.symm.trans hname)
  obtain rfl : .text "-- runtime" = content := by
    have heq := deskTree_find.symm.trans hfind
    cases heq
    rfl
  obtain rfl : sheetSource = source := by
    have htext : deskTree.readText ⟨"game.json"⟩ = .ok sheetSource := by decide +kernel
    exact Except.ok.inj (htext.symm.trans hread)
  refine ⟨journal', t', p, hrun, ?_, hiff.mpr ⟨?_, ?_, ?_⟩⟩
  . obtain ⟨doc', hsource', -, hcount⟩ := sheetSource_ok
    obtain rfl : doc = doc' := Except.ok.inj (hsource.symm.trans hsource')
    obtain ⟨m, hm⟩ := Document.build_eq_ok hbuild
    rw [(Sheet.strip_size hm.tiles_eq).2, hcount]
    rfl
  . intro heq
    exact absurd heq (by decide)
  . intro picture hmem
    have hother := Delivery.sheetFiles_ne (show "pulp.lua" ∉ _ by decide) p
    exact absurd rfl (hother _ hmem)
  . have hruntime : deskTree.locate ⟨"pulp.lua"⟩ = .ok ["pulp.lua"] := by decide +kernel
    have hcopy : deskTree.locate ⟨Disk.Path.join "out" "pulp.lua"⟩ = .ok ["out", "pulp.lua"] := by
      decide +kernel
    rw [hcourse.keeps.locate hruntime, hcourse.keeps.locate hcopy]
    simp

theorem runtime_emptied_by_delivery
    : ∃ journal' t', ((Run.run { input := "game.json", output := "." } :
        Run.Running (StateM Tree) Unit).run.run []).run deskTree = ((.ok (), journal'), t') ∧
        deskTree.find ⟨"pulp.lua"⟩ = .ok (.file (.text "-- runtime")) ∧
        t'.find ⟨"pulp.lua"⟩ = .ok (.file (.text "")) := by
  obtain ⟨journal', t', hrun⟩ := deskTree_runs "."
    (by change @Eq (Except Disk.Error Unit × Tree) _ _; decide +kernel)
    (by unfold Delivery.Free; decide +kernel)
  obtain ⟨_, _, _, p, _, name, _, origin, base, _, _, _, hcourse⟩ :=
    Delivery.course_of_run (Run.outcome_together.mpr hrun)
  obtain rfl : "pulp.lua" = name :=
    Option.some.inj (fileName?_runtime.symm.trans hcourse.fileName?_eq)
  have hself : origin = base ++ ["pulp.lua"] := by
    have hruntime : deskTree.locate ⟨"pulp.lua"⟩ = .ok ["pulp.lua"] := by decide +kernel
    have hcopy : deskTree.locate ⟨Disk.Path.join "." "pulp.lua"⟩ = .ok ["pulp.lua"] := by
      decide +kernel
    rw [← hcourse.locate_runtime_eq]
    exact (hcourse.keeps.locate hruntime).trans (hcourse.keeps.locate hcopy).symm
  refine ⟨journal', t', hrun, deskTree_find, ?_⟩
  have hfound := hcourse.find_self hself
  rw [hcourse.find_copy (Delivery.sheetFiles_ne (by decide) p), hself, Disk.Tree.copied_self] at hfound
  exact hfound

end PulpGame
