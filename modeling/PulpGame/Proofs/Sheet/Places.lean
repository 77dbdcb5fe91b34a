import PulpGame.Proofs.Entity.Reading
import PulpGame.Proofs.Program.Statements
import PulpGame.Proofs.Sheet.Strip

namespace PulpGame

open Lua (Stat Statement Term)

namespace Sheet

variable {frames : List (Option Pixels)}

theorem unique_eq_nil : (pack frames).unique = [] ↔ ∀ f ∈ frames, f = none := by
  simp only [List.eq_nil_iff_forall_not_mem, mem_unique, Option.eq_none_iff_forall_ne_some]
  constructor
  . rintro hnone f hf pixels rfl
    exact hnone pixels hf
  . intro hnone pixels hpixels
    exact hnone _ hpixels pixels rfl

/-- The place is that of a frame of the sheet, or the one that holes have in an empty sheet. -/
def IsPlace (frames : List (Option Pixels)) (place : Nat) : Prop :=
  1 ≤ place ∧ (place ≤ (pack frames).unique.length ∨ place = 1 ∧ ∀ f ∈ frames, f = none)

theorem isPlace_of_place? {frame place : Nat} (h : (pack frames).place? frame = some place)
    : IsPlace frames place := by
  simp only [Packing.place?, pack, List.getElem?_map, Option.map_eq_some_iff] at h
  obtain ⟨f, hf, rfl⟩ := h
  cases f with
  | some pixels =>
    have hmem : pixels ∈ (pack frames).unique := mem_unique.mpr (List.mem_of_getElem? hf)
    exact ⟨Nat.le_add_left _ _, .inl (List.idxOf_lt_length_of_mem hmem)⟩
  | none =>
    refine ⟨Nat.le_refl 1, ?_⟩
    rw [← unique_eq_nil]
    cases hunique : (pack frames).unique with
    | nil => exact .inr ⟨rfl, rfl⟩
    | cons pixels others => exact .inl (by simp)

end Sheet

namespace Entity

def tileFrames? : Statement → Option (Int × List Nat)
  | .assign [.index place id] [value] =>
    if isRuntimeTable "tiles" place then do
      let fs ← value.record? ["id", "fps", "name", "type", "btype", "solid", "says", "frames"]
      return (← id.integer?, ← given fs "frames" (Term.items? Term.natural?))
    else none
  | _ => none

def tileFrames (body : List Statement) : List (Int × List Nat) := body.filterMap tileFrames?

theorem tileFrames_append (a b : List Statement)
    : tileFrames (a ++ b) = tileFrames a ++ tileFrames b :=
  List.filterMap_append ..

theorem tileFrames_eq_nil {body : List Statement} (h : ∀ s ∈ body, tileFrames? s = none)
    : tileFrames body = [] :=
  List.filterMap_eq_nil_iff.mpr h

theorem tileFrames?_tile (t : Tile) (places : List Nat)
    : tileFrames? ((t.toRecord places).statement "tiles") = some (t.id, places) := by
  have htable : isRuntimeTable "tiles" (Program.runtimeField "tiles").term := by
    simp [isRuntimeTable_runtimeField]
  have hid : (Lua.numeralTerm (toString (t.toRecord places).id)).integer? = some t.id :=
    integer?_int t.id
  rw [statement_eq, tileFrames?, if_pos htable, record?_record (t.keys_toRecord places), hid]
  simp [t.given_frames places]

theorem tileFrames_tiles {packing : Sheet.Packing} {tiles : List Tile} {records : List Record}
    (h : List.Forall₂ (IsRecordOf packing) tiles records)
    : tileFrames (tableStatements "tiles" records) =
        tiles.map fun t => (t.id, t.frames.filterMap packing.place?) := by
  have hhead : tileFrames? (.assign [(Program.runtimeField "tiles").term] [.table []]) = none := rfl
  rw [(records_eq h).1, tableStatements, tileFrames, List.filterMap_cons_none hhead, List.map_map,
    List.filterMap_map]
  apply List.filterMap_eq_map_iff_forall_eq_some.mpr
  intro t _
  exact tileFrames?_tile t _

theorem tileFrames_table {table : String} (htable : table ≠ "tiles") (records : List Record)
    : tileFrames (tableStatements table records) = [] := by
  apply tileFrames_eq_nil
  rw [tableStatements, List.forall_mem_cons, List.forall_mem_map]
  refine ⟨rfl, ?_⟩
  intro r _
  have hother : isRuntimeTable "tiles" (Program.runtimeField table).term = false := by
    simpa [isRuntimeTable_runtimeField] using htable
  rw [statement_eq, tileFrames?, hother]
  rfl

end Entity

open Entity (tileFrames tileFrames? tileFrames_append tileFrames_eq_nil)

theorem Variable.Storage.tileFrames_declare (s : Storage)
    : tileFrames (Stat.statementsAll s.declare) = [] := by
  apply tileFrames_eq_nil
  simp only [Stat.statementsAll_eq, declare, List.flatMap_append, List.flatMap_map,
    List.mem_append, List.mem_flatMap]
  rintro st (⟨v, -, hst⟩ | ⟨v, -, hst⟩)
  . cases List.mem_singleton.mp hst
    rfl
  . cases List.mem_singleton.mp hst
    unfold place
    split <;> rfl

theorem Script.Parts.tileFrames_code {p : Parts} {doc : Document} {tileId? : String → Option Int}
    {script : Script} (h : p.Compile doc tileId? script)
    : tileFrames (Stat.statementsAll (p.code script.id)) = [] := by
  apply tileFrames_eq_nil
  intro s hs
  rcases mem_statements_code h hs with ⟨st, hst, hs⟩ | ⟨event, body, rfl⟩
  . rcases mem_registration.mp hst with rfl | ⟨-, rfl⟩ | rfl
    all_goals
      cases List.mem_singleton.mp hs
      rfl
  . rfl

theorem Mimic.Plan.tileFrames_resolve (p : Plan) (passes : Nat)
    : tileFrames (Stat.statementsAll (p.resolve passes)) = [] := by
  apply tileFrames_eq_nil
  intro s hs
  rw [Stat.statementsAll_eq, List.mem_flatMap] at hs
  obtain ⟨st, hst, hs⟩ := hs
  rcases List.mem_append.mp hst with hst | hst
  . obtain ⟨r, -, rfl⟩ := List.mem_map.mp hst
    unfold Request.resolve at hs
    dsimp only at hs
    split at hs
    all_goals
      cases List.mem_singleton.mp hs
      rfl
  . split at hst
    . cases hst
    . cases List.mem_singleton.mp hst
      cases List.mem_singleton.mp hs
      rfl

namespace Makings.Make

variable {doc : Document} {m : Makings doc} {settings : Settings} {product : Product}

theorem tileFrames_eq (h : m.Make settings product)
    : tileFrames (m.statements settings product.storage) =
        (doc.tiles.filterMap id).map fun t =>
          (t.id, t.frames.filterMap (Sheet.pack doc.frames).place?) := by
  have hpreamble : tileFrames (Stat.statementsAll (Program.preamble doc)) = [] := rfl
  have hsongs : tileFrames (Stat.statementsAll Program.songs) = [] := rfl
  have haccess : tileFrames (Stat.statementsAll product.storage.access) = [] := rfl
  have hepilogue : tileFrames (Stat.statementsAll Program.epilogue) = [] := rfl
  have hscripts : tileFrames
      (m.items.flatMap fun i => Stat.statementsAll (i.parts.code i.script.id)) = [] := by
    apply tileFrames_eq_nil
    intro s hs
    obtain ⟨i, hi, hs⟩ := List.mem_flatMap.mp hs
    have hnone := Script.Parts.tileFrames_code (h.items_compile i hi)
    exact List.filterMap_eq_nil_iff.mp hnone s hs
  simp only [statements, tileFrames_append, hpreamble, hsongs, haccess, hepilogue, hscripts,
    Variable.Storage.tileFrames_declare, Mimic.Plan.tileFrames_resolve,
    Entity.tileFrames_tiles h.records_fit,
    Entity.tileFrames_table (show "rooms" ≠ "tiles" by decide),
    Entity.tileFrames_table (show "sounds" ≠ "tiles" by decide), List.nil_append, List.append_nil]

end Makings.Make

/-- The sheet of a document is eight pixels wide and has eight rows for each of its frames. All places
that the program gives to the frames of tiles are in the sheet, except that in a document that has
nothing but holes for frames each of them is 1. -/
theorem places_in_sheet {doc : Document} {settings : Settings} {product : Product}
    {journal journal' : List Journal.Entry}
    (h : doc.build settings journal = (.ok product, journal'))
    : ∃ body count, Lua.parse product.program = some body ∧
        product.tiles.width = 8 ∧ product.tiles.height = 8 * count ∧
        (tileFrames body).map (fun (id, places) => (id, places.length)) =
          (doc.tiles.filterMap id).map (fun t => (t.id, t.frames.length)) ∧
        ∀ id places, (id, places) ∈ tileFrames body → ∀ p ∈ places,
          1 ≤ p ∧ (p ≤ count ∨ count = 0 ∧ p = 1 ∧ ∀ f ∈ doc.frames, f = none) := by
  obtain ⟨m, hm⟩ := Document.build_eq_ok h
  have hsize := Sheet.strip_size hm.tiles_eq
  have hfound := (Entity.records_eq hm.records_fit).2
  refine ⟨_, (Sheet.pack doc.frames).unique.length, hm.states_program.parse_eq, hsize.1, hsize.2,
    ?_, ?_⟩
  . rw [hm.tileFrames_eq, List.map_map, List.map_inj_left]
    intro t ht
    have hlength := congrArg List.length (hfound t ht)
    simpa using hlength
  . rw [hm.tileFrames_eq]
    intro id places hmem p hp
    obtain ⟨t, -, heq⟩ := List.mem_map.mp hmem
    cases heq
    obtain ⟨frame, -, hplace⟩ := List.mem_filterMap.mp hp
    obtain ⟨hpos, hle | ⟨hone, hnone⟩⟩ := Sheet.isPlace_of_place? hplace
    . exact ⟨hpos, .inl hle⟩
    . have hempty := Sheet.unique_eq_nil.mpr hnone
      exact ⟨hpos, .inr ⟨by rw [hempty]; rfl, hone, hnone⟩⟩

def framesDocument (frames : List (Option Pixels)) : Document where
  name := "frames"
  player := ⟨0, 0, 0, 0⟩
  font := ⟨1, [], []⟩
  frames := frames
  tiles := [none, some ⟨1, "all", ⟨0x3FF0000000000000⟩, 0, 0, false, none, List.range frames.length⟩]
  rooms := []
  sounds := []
  scripts := []

theorem framesDocument_builds (frames : List (Option Pixels))
    (h : (framesDocument frames).compiles [])
    : ∃ product journal', (framesDocument frames).build {} [] = (.ok product, journal') := by
  obtain ⟨product, journal', hbuild, -⟩ := Document.build_succeeds h
    (Variable.Storage.allot_nothing _)
  exact ⟨product, journal', hbuild⟩

def mixedFrames : List (Option Pixels) :=
  [none, some (.replicate 64 1), none, some (.replicate 64 0), some (.replicate 64 1)]

theorem places_in_sheet_mixed
    : ∃ product journal', (framesDocument mixedFrames).build {} [] = (.ok product, journal') ∧
        ∃ body count, Lua.parse product.program = some body ∧ product.tiles.height = 8 * count ∧
          (tileFrames body).map (fun (id, places) => (id, places.length)) = [(1, 5)] ∧
          ∀ id places, (id, places) ∈ tileFrames body → ∀ p ∈ places, 1 ≤ p ∧ p ≤ count := by
  obtain ⟨product, journal', hbuild⟩ :=
    framesDocument_builds mixedFrames (by decide +kernel)
  obtain ⟨body, count, hparse, -, hheight, htiles, hplaces⟩ := places_in_sheet hbuild
  refine ⟨product, journal', hbuild, body, count, hparse, hheight, htiles, ?_⟩
  intro id places hmem p hp
  obtain ⟨hpos, hle | ⟨-, -, hnone⟩⟩ := hplaces id places hmem p hp
  . exact ⟨hpos, hle⟩
  . cases hnone (some (.replicate 64 1)) (by simp [framesDocument, mixedFrames])

theorem place_beyond_sheet
    : ∃ product journal', (framesDocument [none]).build {} [] = (.ok product, journal') ∧
        ¬∃ body count, Lua.parse product.program = some body ∧ product.tiles.height = 8 * count ∧
          ∀ id places, (id, places) ∈ tileFrames body → ∀ p ∈ places, 1 ≤ p ∧ p ≤ count := by
  obtain ⟨product, journal', hbuild⟩ := framesDocument_builds [none] (by decide +kernel)
  refine ⟨product, journal', hbuild, ?_⟩
  rintro ⟨body, count, hparse, hheight, hplaces⟩
  obtain ⟨m, hm⟩ := Document.build_eq_ok hbuild
  rw [hm.states_program.parse_eq] at hparse
  cases hparse
  have hempty : product.tiles.height = 8 * 0 := (Sheet.strip_size hm.tiles_eq).2
  have htiles : tileFrames (m.statements {} product.storage) = [(1, [1])] := hm.tileFrames_eq
  have hle := (hplaces 1 [1] (by rw [htiles]; simp) 1 (by simp)).2
  omega

end PulpGame
