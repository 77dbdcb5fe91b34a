import PulpGame.Proofs.Script.Order

namespace PulpGame

structure Document.Reorders (doc doc' : Document) : Prop where
  rest_eq : doc' = { doc with scripts := doc'.scripts }
  scripts : Relation.Comp List.Perm (List.Forall₂ Script.Reorders) doc.scripts doc'.scripts

structure Sections.Agree (parts parts' : Sections) : Prop where
  declarations_eq : parts.declarations = parts'.declarations
  tiles_eq : parts.tiles = parts'.tiles
  rooms_eq : parts.rooms = parts'.rooms
  sounds_eq : parts.sounds = parts'.sounds
  accessors_eq : parts.accessors = parts'.accessors

structure Product.Agree (product product' : Product) : Prop where
  storage_eq : product.storage = product'.storage
  tiles_eq : product.tiles = product'.tiles
  border_eq : product.border = product'.border
  font_eq : product.font = product'.font
  diagnostics_eq : product.diagnostics = product'.diagnostics

namespace Document.Reorders

variable {doc doc' : Document}

theorem symm (h : doc.Reorders doc') : doc'.Reorders doc where
  rest_eq := by
    rw [h.rest_eq]
  scripts := by
    obtain ⟨scripts, hperm, hscripts⟩ := h.scripts
    have hflip : List.Forall₂ Script.Reorders doc'.scripts scripts :=
      hscripts.flip.imp fun _ _ hs => hs.symm
    rw [← List.forall₂_comp_perm_eq_perm_comp_forall₂]
    exact ⟨scripts, hflip, hperm.symm⟩

theorem exists_script (h : doc.Reorders doc') {s' : Script} (hs' : s' ∈ doc'.scripts)
    : ∃ s ∈ doc.scripts, s.Reorders s' := by
  obtain ⟨scripts, hperm, hscripts⟩ := h.scripts
  obtain ⟨i, hi, rfl⟩ := List.getElem_of_mem hs'
  have hlength := hscripts.length_eq
  have hi' : i < scripts.length := by omega
  exact ⟨scripts[i], hperm.mem_iff.mpr (List.getElem_mem hi'), hscripts.get hi' hi⟩

theorem meets (h : doc.Reorders doc') {stage : Stage} (hmeets : doc.Meets stage)
    : doc'.Meets stage := by
  cases stage with
  | frames => rw [h.rest_eq]; exact hmeets
  | border => rw [h.rest_eq]; exact hmeets
  | font => rw [h.rest_eq]; exact hmeets
  | tiles => rw [h.rest_eq]; exact hmeets
  | scripts =>
    intro s' hs'
    obtain ⟨s, hs, hreorders⟩ := h.exists_script hs'
    exact hreorders.isValid (hmeets s hs)
  | storage =>
    rintro v ⟨s', hs', hv⟩
    obtain ⟨s, hs, hreorders⟩ := h.exists_script hs'
    exact hmeets v ⟨s, hs, hreorders.symm.mentions hv⟩

theorem isOk_iff (h : doc.Reorders doc') (settings : Settings) (journal journal' : List Journal.Entry)
    : (doc.build settings journal).1.isOk ↔ (doc'.build settings journal').1.isOk := by
  rw [isOk_build, isOk_build]
  apply forall_congr'
  intro stage
  exact ⟨h.meets, h.symm.meets⟩

end Document.Reorders

theorem perm_flatMap {α β : Type} {f : α → List β} {as bs : List α}
    (h : List.Forall₂ (fun a b => (f a).Perm (f b)) as bs)
    : (as.flatMap f).Perm (bs.flatMap f) := by
  induction h with
  | nil => exact .nil
  | cons hab _ ih =>
    rw [List.flatMap_cons, List.flatMap_cons]
    exact hab.append ih

namespace Document.Reorders

variable {doc doc' : Document}

theorem compiled_eq (h : doc.Reorders doc') : doc'.compiled = doc.compiled := by
  rw [h.rest_eq]
  rfl

theorem notes_eq (h : doc.Reorders doc') : doc'.notes = doc.notes := by
  rw [h.rest_eq]
  rfl

theorem perm_notes (h : doc.Reorders doc') (hvalid : ∀ s ∈ doc.scripts, s.IsValid)
    : (doc.scripts.flatMap doc.notes).Perm (doc'.scripts.flatMap doc'.notes) := by
  obtain ⟨scripts, hperm, hscripts⟩ := h.scripts
  have hall : ∀ s ∈ scripts, s.IsValid := fun s hs => hvalid s (hperm.mem_iff.mpr hs)
  have hnotes := ((List.forall₂_and_left _ _).mpr ⟨hall, hscripts⟩).imp
    fun s s' hs => hs.1.perm_notes doc hs.2
  rw [h.notes_eq]
  exact (hperm.flatMap_right _).trans (perm_flatMap hnotes)

end Document.Reorders

namespace Makings.Make

variable {doc doc' : Document} {m : Makings doc} {m' : Makings doc'} {settings : Settings}
  {product product' : Product}

theorem isValid (h : m.Make settings product) : ∀ s ∈ doc.scripts, s.IsValid := by
  rw [h.scripts_eq, List.forall_mem_map]
  exact fun i hi => (h.items_compile i hi).isValid

theorem scripts_compiled (h : m.Make settings product)
    : (m.sections settings product.storage).scripts = doc.scripts.map doc.compiled := by
  rw [h.scripts_eq, List.map_map]
  apply List.map_congr_left
  intro i hi
  exact (h.items_compile i hi).alone.1.symm

theorem ledger_notes (h : m.Make settings product)
    : m.ledger.notes = doc.scripts.flatMap doc.notes := by
  rw [h.scripts_eq, List.flatMap_map]
  apply List.flatMap_congr
  intro i hi
  exact (h.items_compile i hi).alone.2.symm

theorem perm_ledger_notes (h : m.Make settings product) (h' : m'.Make settings product')
    (hdoc : doc.Reorders doc') : m.ledger.notes.Perm m'.ledger.notes := by
  rw [h.ledger_notes, h'.ledger_notes]
  exact hdoc.perm_notes h.isValid

theorem agree (h : m.Make settings product) (h' : m'.Make settings product')
    (hdoc : doc.Reorders doc') : product.Agree product' := by
  have hnotes := h.perm_ledger_notes h' hdoc
  have hallot := h'.allot_eq
  rw [← Ledger.usage_eq_of_perm hnotes, h.allot_eq] at hallot
  have hsheet {x x' : Except Failure Sheet.Image} {i i' : Sheet.Image} (hx : x = .ok i)
      (hx' : x' = .ok i') (heq : x = x') : i = i' := by
    rw [← heq, hx] at hx'
    exact Except.ok.inj hx'
  constructor
  case storage_eq => exact Except.ok.inj hallot
  case tiles_eq => exact hsheet h.tiles_eq h'.tiles_eq (by rw [hdoc.rest_eq])
  case border_eq => exact hsheet h.border_eq h'.border_eq (by rw [hdoc.rest_eq])
  case font_eq => exact hsheet h.font_eq h'.font_eq (by rw [hdoc.rest_eq])
  case diagnostics_eq =>
    rw [h.diagnostics_eq, h'.diagnostics_eq, Ledger.diagnostics_eq_of_perm hnotes]

theorem sections_agree (h : m.Make settings product) (h' : m'.Make settings product')
    (hdoc : doc.Reorders doc')
    : (m.sections settings product.storage).Agree (m'.sections settings product'.storage) := by
  have hrecords : m.records = m'.records := by
    rw [(Entity.records_eq h.records_fit).1, (Entity.records_eq h'.records_fit).1, hdoc.rest_eq]
  have hrooms : doc.rooms = doc'.rooms := by rw [hdoc.rest_eq]
  have hsounds : doc.sounds = doc'.sounds := by rw [hdoc.rest_eq]
  unfold sections
  rw [← (h.agree h' hdoc).storage_eq, hrecords, hrooms, hsounds]
  exact ⟨rfl, rfl, rfl, rfl, rfl⟩

end Makings.Make

theorem Document.Reorders.alike {doc doc' : Document} (h : doc.Reorders doc') {settings : Settings}
    {journal journal' last last' : List Journal.Entry} {product product' : Product}
    (hbuild : doc.build settings journal = (.ok product, last))
    (hbuild' : doc'.build settings journal' = (.ok product', last'))
    : product.Agree product' ∧ ∃ (m : Makings doc) (m' : Makings doc'),
        m.Make settings product ∧ m'.Make settings product' ∧
        (m.sections settings product.storage).Agree (m'.sections settings product'.storage) ∧
        (m.sections settings product.storage).scripts = doc.scripts.map doc.compiled ∧
        (m'.sections settings product'.storage).scripts = doc'.scripts.map doc.compiled := by
  obtain ⟨m, hm⟩ := build_eq_ok hbuild
  obtain ⟨m', hm'⟩ := build_eq_ok hbuild'
  refine ⟨hm.agree hm' h, m, m', hm, hm', hm.sections_agree hm' h, hm.scripts_compiled, ?_⟩
  rw [← h.compiled_eq]
  exact hm'.scripts_compiled

/-- If two documents differ only in the order of scripts, and of the entries of scripts, both are
built or none is. Their products have the same variables, images and diagnostics, and their programs
the same declarations, tables and accessors. What a script is compiled to is the same wherever it
stands, and its handlers have the same texts in whatever order they come. -/
theorem Document.builds_alike {doc doc' : Document} (h : doc.Reorders doc') (settings : Settings)
    (journal journal' : List Journal.Entry)
    : ((doc.build settings journal).1.isOk ↔ (doc'.build settings journal').1.isOk) ∧
        ∀ product product' last last', doc.build settings journal = (.ok product, last) →
          doc'.build settings journal' = (.ok product', last') →
          product.Agree product' ∧ ∃ (m : Makings doc) (m' : Makings doc'),
            m.Make settings product ∧ m'.Make settings product' ∧
            (m.sections settings product.storage).Agree (m'.sections settings product'.storage) ∧
            (m.sections settings product.storage).scripts = doc.scripts.map doc.compiled ∧
            (m'.sections settings product'.storage).scripts = doc'.scripts.map doc.compiled ∧
            ∀ s ∈ doc.scripts, ∀ s', s.Reorders s' → ∃ name front,
              doc.compiled s = ⟨name, front ++
                doc.handlersText name (Script.blocks (s.data.getD [])) (s.data.getD [])⟩ ∧
              doc.compiled s' = ⟨name, front ++
                doc.handlersText name (Script.blocks (s.data.getD [])) (s'.data.getD [])⟩ := by
  refine ⟨h.isOk_iff settings journal journal', ?_⟩
  intro product product' last last' hbuild hbuild'
  obtain ⟨hagree, m, m', hm, hm', hsections, hscripts, hscripts'⟩ := h.alike hbuild hbuild'
  refine ⟨hagree, m, m', hm, hm', hsections, hscripts, hscripts', ?_⟩
  intro s hs s' hreorders
  exact (hm.isValid s hs).compiled_eq doc hreorders

def treasureBlocks : String × Json.Value :=
  (Script.blocksKey, .list [
    .list [.list [.text "inc", .text "coins"]],
    .list [.list [.text "set", .text "score", .number (.integer 1)],
      .list [.text "inc", .text "coins"]]])

def treasureDocument : Document :=
  { coinDocument with
    scripts := [⟨0, 0, some [("load", Block.blockRef 0), treasureBlocks, ("enter", Block.blockRef 1)]⟩,
      ⟨7, 1, some [treasureBlocks, ("exit", Block.blockRef 0)]⟩] }

def shuffledDocument : Document :=
  { coinDocument with
    scripts := [⟨7, 1, some [("exit", Block.blockRef 0), treasureBlocks]⟩,
      ⟨0, 0, some [("enter", Block.blockRef 1), ("load", Block.blockRef 0), treasureBlocks]⟩] }

theorem treasureDocument_reorders : treasureDocument.Reorders shuffledDocument where
  rest_eq := rfl
  scripts := by
    refine ⟨_, .swap _ _ _, .cons ⟨⟨rfl, rfl, ?_⟩, by decide⟩
      (.cons ⟨⟨rfl, rfl, ?_⟩, by decide⟩ .nil)⟩
    . exact .swap _ _ _
    . exact List.perm_append_singleton _ [_, _]

theorem Document.builds_alike_treasure
    : ∃ product product' last last', treasureDocument.build {} [] = (.ok product, last) ∧
        shuffledDocument.build {} [] = (.ok product', last') ∧ product.Agree product' ∧
        product'.storage = ⟨["coins", "score"], []⟩ := by
  obtain ⟨product, last, hbuild, hstorage⟩ : ∃ product last,
      treasureDocument.build {} [] = (.ok product, last) ∧
        product.storage = ⟨["coins", "score"], []⟩ := by
    have hcompiles : treasureDocument.compiles ["coins", "score", "coins", "coins"] := by
      decide +kernel
    apply Document.build_succeeds hcompiles
    rw [Variable.Storage.allot, Variable.ranked_of_sorted (by decide) (by decide)]
    rfl
  obtain ⟨hiff, halike⟩ := builds_alike treasureDocument_reorders {} [] []
  obtain ⟨product', hbuild'⟩ := eq_ok_of_isOk (hiff.mp (by rw [hbuild]; rfl))
  have hagree := (halike product product' last _ hbuild (Prod.ext hbuild' rfl)).1
  exact ⟨product, product', last, _, hbuild, Prod.ext hbuild' rfl, hagree,
    hagree.storage_eq ▸ hstorage⟩

theorem Document.reorders_of_ofText {source : String} {doc doc' : Document}
    (hread : ofText source = .ok doc) (hrest : doc' = { doc with scripts := doc'.scripts })
    (hscripts : Relation.Comp List.Perm (List.Forall₂ Script.Permutes) doc.scripts doc'.scripts)
    : doc.Reorders doc' := by
  obtain ⟨scripts, hperm, hscripts⟩ := hscripts
  have hkeys : ∀ s ∈ scripts, Json.HasKeysOnce (s.data.getD []) := fun s hs =>
    hasKeysOnce_ofText hread s (hperm.mem_iff.mpr hs)
  have hreorders : List.Forall₂ Script.Reorders scripts doc'.scripts :=
    ((List.forall₂_and_left _ _).mpr ⟨hkeys, hscripts⟩).imp fun _ _ hs => ⟨hs.2, hs.1⟩
  exact ⟨hrest, scripts, hperm, hreorders⟩

/-- What is read out of a text needs no condition on the keys. -/
theorem Document.alike_of_ofText {source : String} {doc doc' : Document}
    (hread : ofText source = .ok doc) (hrest : doc' = { doc with scripts := doc'.scripts })
    (hscripts : Relation.Comp List.Perm (List.Forall₂ Script.Permutes) doc.scripts doc'.scripts)
    (settings : Settings) (journal journal' : List Journal.Entry)
    : ((doc.build settings journal).1.isOk ↔ (doc'.build settings journal').1.isOk) ∧
        ∀ product product' last last', doc.build settings journal = (.ok product, last) →
          doc'.build settings journal' = (.ok product', last') →
          product.Agree product' ∧ ∃ (m : Makings doc) (m' : Makings doc'),
            m.Make settings product ∧ m'.Make settings product' ∧
            (m.sections settings product.storage).Agree (m'.sections settings product'.storage) ∧
            (m.sections settings product.storage).scripts = doc.scripts.map doc.compiled ∧
            (m'.sections settings product'.storage).scripts = doc'.scripts.map doc.compiled := by
  have hreorders := reorders_of_ofText hread hrest hscripts
  refine ⟨hreorders.isOk_iff settings journal journal', ?_⟩
  intro product product' last last' hbuild hbuild'
  exact hreorders.alike hbuild hbuild'

end PulpGame
