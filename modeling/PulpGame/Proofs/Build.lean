import PulpGame.Build
import PulpGame.Proofs.Entity.Registration
import PulpGame.Proofs.Script.Compilation

namespace PulpGame

namespace Building

variable {σ α : Type} {s s' : σ × List Journal.Entry}

theorem runs_write {entries : List Journal.Entry} {u : Unit}
    : Runs (write entries : Building σ Unit) s u s' ↔ s' = (s.1, s.2 ++ entries) :=
  runs_modify

theorem runs_step {stage : Stage} {x : Except Failure α} {a : α}
    : Runs (step stage x : Building σ α) s a s' ↔ x = .ok a ∧ s = s' := by
  cases x with
  | ok b =>
    rw [step, runs_pure]
    simp
  | error e =>
    rw [step]
    simp [runs_throw]

end Building

namespace Entity

theorem runs_tileTable {packing : Sheet.Packing} {tiles : List (Option Tile)}
    {ledger ledger' : Ledger} {text : String}
    (h : Runs (tileTable packing tiles) ledger text ledger')
    : ∃ records, List.Forall₂ (IsRecordOf packing) (tiles.filterMap id) records ∧
        text = tableText "tiles" 4 records ∧
        ledger' = { ledger with
          tiles := ledger.tiles ++ (tiles.filterMap id).map fun t => (t.name, t.id) } := by
  unfold Runs at h
  rcases tileTable_cases packing tiles ledger with ⟨records, hrun, hrecords, -⟩ | ⟨before, e, hrun, -⟩
  . rw [hrun] at h
    cases h
    exact ⟨records, hrecords, rfl, rfl⟩
  . rw [hrun] at h
    cases h

theorem records_eq {packing : Sheet.Packing} {tiles : List Tile} {records : List Record}
    (h : List.Forall₂ (IsRecordOf packing) tiles records)
    : records = tiles.map (fun t => t.toRecord (t.frames.filterMap packing.place?)) ∧
        ∀ t ∈ tiles, (t.frames.filterMap packing.place?).map some = t.frames.map packing.place? := by
  induction h with
  | nil => simp
  | @cons t r tiles records hr _ ih =>
    obtain ⟨places, hplaces, rfl⟩ := hr
    have hall := placesOf_eq_ok hplaces
    have hfilter : t.frames.filterMap packing.place? = places := by
      have := congrArg (List.filterMap (fun o => o)) hall
      rw [List.filterMap_map, List.filterMap_map] at this
      simpa using this.symm
    rw [List.map_cons, hfilter, ← ih.1, List.forall_mem_cons, hfilter]
    exact ⟨rfl, hall, ih.2⟩

end Entity

theorem Variable.ranked_of_sorted {uses : List String} (hnames : uses.eraseDups.Pairwise (· ≤ ·))
    (husage : (uses.eraseDups.map fun v => (v, uses.count v)).Pairwise fun a b => before a b)
    : ranked ((sortedOnce uses).map fun v => (v, uses.count v)) = uses.eraseDups := by
  have hsorted : sortedOnce uses = uses.eraseDups :=
    List.mergeSort_of_pairwise (by simpa using hnames)
  rw [hsorted, ranked, List.mergeSort_of_pairwise husage, List.map_map]
  exact List.map_id _

theorem Variable.Storage.allot_nothing (capacity : Nat)
    : allot ((sortedOnce []).map fun v => (v, List.count v [])) capacity = .ok ⟨[], []⟩ := by
  rw [allot, ranked_of_sorted .nil .nil]
  simp

theorem Compilation.result_eq_ok {done : List (CompiledScript × Nat)} {failure : Option Failure}
    {scripts : List CompiledScript} (h : Compilation.result ⟨done, failure⟩ = .ok scripts)
    : failure = none ∧ scripts = done.map (·.1) := by
  cases failure with
  | none =>
    cases h
    exact ⟨rfl, rfl⟩
  | some e => cases h

structure Makings (doc : Document) where
  records : List Entity.Record
  items : List Compilation.Item

namespace Makings

variable {doc : Document}

def ledger (m : Makings doc) : Ledger where
  notes := m.items.flatMap (·.parts.notes)
  tiles := (doc.tiles.filterMap id).map fun t => (t.name, t.id)

def sections (m : Makings doc) (settings : Settings) (storage : Variable.Storage) : Sections where
  declarations := Lua.chunkText storage.declare
  tiles := Entity.tableText "tiles" 4 m.records
  rooms := Entity.roomTable doc.rooms
  sounds := Entity.soundTable doc.sounds
  scripts := m.items.map fun i => i.parts.compiled i.script.id
  mimics := (Mimic.plan m.ledger.mimics).code settings.passes
  accessors := Lua.chunkText storage.access

structure Make (m : Makings doc) (settings : Settings) (product : Product) : Prop where
  records_fit : List.Forall₂ (Entity.IsRecordOf (Sheet.pack doc.frames)) (doc.tiles.filterMap id)
    m.records
  scripts_eq : doc.scripts = m.items.map (·.script)
  items_compile : ∀ i ∈ m.items, i.parts.Compile doc m.ledger.tileId? i.script
  allot_eq : Variable.Storage.allot m.ledger.usage settings.fastSlots = .ok product.storage
  program_eq : product.program = Program.text doc (m.sections settings product.storage)
  tiles_eq : Sheet.frameStrip (Sheet.pack doc.frames) = .ok product.tiles
  border_eq : Sheet.glyphStrip doc.font.border = .ok product.border
  font_eq : Sheet.glyphStrip doc.font.glyphs = .ok product.font
  diagnostics_eq : product.diagnostics = m.ledger.diagnostics

end Makings

namespace Document

variable {doc : Document} {settings : Settings} {product : Product}
  {journal journal' : List Journal.Entry}

theorem runs_build (h : doc.build settings journal = (.ok product, journal'))
    : ∃ u, Runs (doc.buildWith settings blockCompiler) ((), journal) product (u, journal') := by
  unfold build at h
  unfold Runs outcome
  generalize (doc.buildWith settings blockCompiler).run.run ((), journal) = r at h
  obtain ⟨result, u, last⟩ := r
  cases h
  exact ⟨u, rfl⟩

structure Passes {σ : Type} (doc : Document) (settings : Settings) (compiler : EventCompiler σ)
    (before : σ) (records : List Entity.Record) (done : List (CompiledScript × Nat)) (after : σ)
    (ledger : Ledger) (product : Product) : Prop where
  records_fit : List.Forall₂ (Entity.IsRecordOf (Sheet.pack doc.frames)) (doc.tiles.filterMap id)
    records
  compileAll_eq : (Compilation.compileAll doc compiler doc.scripts).run
    (before, { tiles := (doc.tiles.filterMap id).map fun t => (t.name, t.id) }) =
      (⟨done, none⟩, after, ledger)
  allot_eq : Variable.Storage.allot ledger.usage settings.fastSlots = .ok product.storage
  program_eq : product.program = Program.text doc {
    declarations := Lua.chunkText product.storage.declare
    tiles := Entity.tableText "tiles" 4 records
    rooms := Entity.roomTable doc.rooms
    sounds := Entity.soundTable doc.sounds
    scripts := done.map (·.1)
    mimics := (Mimic.plan ledger.mimics).code settings.passes
    accessors := Lua.chunkText product.storage.access }
  tiles_eq : Sheet.frameStrip (Sheet.pack doc.frames) = .ok product.tiles
  border_eq : Sheet.glyphStrip doc.font.border = .ok product.border
  font_eq : Sheet.glyphStrip doc.font.glyphs = .ok product.font
  diagnostics_eq : product.diagnostics = ledger.diagnostics

theorem runs_buildWith {σ : Type} {compiler : EventCompiler σ} {before after : σ}
    (h : Runs (doc.buildWith settings compiler) (before, journal) product (after, journal'))
    : ∃ records done ledger,
        doc.Passes settings compiler before records done after ledger product := by
  unfold buildWith at h
  simp only [runs_bind, Building.runs_write, Building.runs_step] at h
  obtain ⟨-, _, rfl, tiles, _, ⟨htilesImage, rfl⟩, border, _, ⟨hborder, rfl⟩, font, _, ⟨hfont, rfl⟩,
    h⟩ := h
  -- the tiles are entered in the ledger whether their table is made or not
  rcases htiles : (Entity.tileTable (Sheet.pack doc.frames) doc.tiles).run.run {} with
    ⟨table, entered⟩
  rw [htiles] at h
  simp only [runs_bind, Building.runs_step, runs_get] at h
  obtain ⟨table, _, ⟨rfl, rfl⟩, _, _, ⟨rfl, rfl⟩, h⟩ := h
  obtain ⟨records, hrecords, rfl, rfl⟩ := Entity.runs_tileTable htiles
  rcases hscripts : (Compilation.compileAll doc compiler doc.scripts).run (before, _) with
    ⟨⟨done, failure⟩, v, ledger⟩
  rw [hscripts] at h
  simp only [runs_bind, Building.runs_step, Building.runs_write, runs_modify, runs_pure] at h
  obtain ⟨-, _, rfl, scripts, _, ⟨hresult, rfl⟩, -, _, rfl, storage, _, ⟨hallot, rfl⟩, -, _, rfl, rfl,
    hlast⟩ := h
  cases hlast
  obtain ⟨rfl, rfl⟩ := Compilation.result_eq_ok hresult
  exact ⟨records, done, ledger, {
    records_fit := hrecords
    compileAll_eq := hscripts
    allot_eq := hallot
    program_eq := rfl
    tiles_eq := htilesImage
    border_eq := hborder
    font_eq := hfont
    diagnostics_eq := rfl }⟩

theorem build_eq_ok (h : doc.build settings journal = (.ok product, journal'))
    : ∃ m : Makings doc, m.Make settings product := by
  obtain ⟨u, hrun⟩ := runs_build h
  obtain ⟨records, done, ledger, hpasses⟩ := runs_buildWith hrun
  obtain ⟨items, hitems, hdone, hcompile, rfl⟩ := Compilation.compileAll_eq hpasses.compileAll_eq
  exact ⟨⟨records, items⟩, {
    records_fit := hpasses.records_fit
    scripts_eq := hitems
    items_compile := hcompile
    allot_eq := hpasses.allot_eq
    program_eq := by rw [hpasses.program_eq, hdone]; rfl
    tiles_eq := hpasses.tiles_eq
    border_eq := hpasses.border_eq
    font_eq := hpasses.font_eq
    diagnostics_eq := hpasses.diagnostics_eq }⟩

def compilesWith {σ : Type} (doc : Document) (compiler : EventCompiler σ) (before : σ)
    (uses : List String) : Bool :=
  let packing := Sheet.pack doc.frames
  let (table, entered) := outcome (Entity.tileTable packing doc.tiles) {}
  let (compilation, _, ledger) :=
    (Compilation.compileAll doc compiler doc.scripts).run (before, entered)
  (Sheet.frameStrip packing).isOk && (Sheet.glyphStrip doc.font.border).isOk &&
    (Sheet.glyphStrip doc.font.glyphs).isOk && table.isOk && compilation.failure.isNone &&
    ledger.uses == uses

def compiles (doc : Document) (uses : List String) : Bool :=
  doc.compilesWith blockCompiler () uses

theorem eq_ok_of_isOk {ε α : Type} {x : Except ε α} (h : x.isOk) : ∃ a, x = .ok a := by
  cases x with
  | ok a => exact ⟨a, rfl⟩
  | error => cases h

theorem buildWith_succeeds {σ : Type} {compiler : EventCompiler σ} {before : σ}
    {storage : Variable.Storage} {uses : List String} (h : doc.compilesWith compiler before uses)
    (hallot : Variable.Storage.allot ((sortedOnce uses).map fun v => (v, uses.count v))
      settings.fastSlots = .ok storage)
    : ∃ product last, Runs (doc.buildWith settings compiler) (before, journal) product last ∧
        product.storage = storage := by
  unfold compilesWith at h
  rcases htable : outcome (Entity.tileTable (Sheet.pack doc.frames) doc.tiles) {} with
    ⟨table, entered⟩
  rcases hrun : (Compilation.compileAll doc compiler doc.scripts).run (before, entered) with
    ⟨⟨done, failure⟩, after, ledger⟩
  simp only [htable, hrun, Bool.and_eq_true, Option.isNone_iff_eq_none, beq_iff_eq] at h
  obtain ⟨⟨⟨⟨⟨htiles, hborder⟩, hfont⟩, hentered⟩, rfl⟩, rfl⟩ := h
  obtain ⟨tiles, htiles⟩ := eq_ok_of_isOk htiles
  obtain ⟨border, hborder⟩ := eq_ok_of_isOk hborder
  obtain ⟨font, hfont⟩ := eq_ok_of_isOk hfont
  obtain ⟨records, rfl⟩ := eq_ok_of_isOk hentered
  replace hallot : Variable.Storage.allot ledger.usage settings.fastSlots = .ok storage := hallot
  unfold buildWith
  unfold outcome at htable
  simp [runs_bind, Building.runs_write, Building.runs_step, runs_get, runs_modify, runs_pure,
    htiles, hborder, hfont, htable, hrun, Compilation.result, hallot, -bind_pure_comp]

theorem build_succeeds {storage : Variable.Storage} {uses : List String} (h : doc.compiles uses)
    (hallot : Variable.Storage.allot ((sortedOnce uses).map fun v => (v, uses.count v))
      settings.fastSlots = .ok storage)
    : ∃ product journal', doc.build settings journal = (.ok product, journal') ∧
        product.storage = storage := by
  obtain ⟨product, ⟨u, last⟩, hbuild, hstorage⟩ := buildWith_succeeds h hallot
  refine ⟨product, last, ?_, hstorage⟩
  unfold build
  unfold Runs outcome at hbuild
  rw [hbuild]

end Document

def coinDocument : Document where
  name := "coins"
  player := ⟨0, 0, 0, 0⟩
  font := ⟨1, [], []⟩
  frames := []
  tiles := []
  rooms := []
  sounds := []
  scripts := [⟨0, 0, some [("load", Block.blockRef 0),
    (Script.blocksKey, .list [
      .list [.list [.text "set", .text "coins", .number (.integer 3)],
        .list [.text "if", .list [.text "var", .text "event"], Block.blockRef 1]],
      .list [.list [.text "inc", .text "coins"], .list [.text "dec", .text "keys.gold"]]])]⟩]

theorem coinDocument_builds
    : ∃ product journal', coinDocument.build {} [] = (.ok product, journal') ∧
        product.storage = ⟨["coins"], ["event", "keys.gold"]⟩ := by
  have hcompiles : coinDocument.compiles ["coins", "event", "coins", "keys.gold"] := by
    decide +kernel
  apply Document.build_succeeds hcompiles
  rw [Variable.Storage.allot, Variable.ranked_of_sorted (by decide) (by decide)]
  rfl

end PulpGame
