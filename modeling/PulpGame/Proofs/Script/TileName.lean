import PulpGame.Proofs.Block.Expansion
import PulpGame.Proofs.Program.Statements
import PulpGame.Proofs.Script.Mention
import PulpGame.Proofs.Script.Task
import PulpGame.Proofs.Sheet.Packing

namespace PulpGame

namespace Block

open Json (Value)

def statementTiles : Value → List String
  | .list (.text word :: operands) => (exprOperands word operands).flatMap (exprNames "id")
  | _ => []

theorem exprNames_eq (kind : String) (v : Value)
    : exprNames kind v = (operations v).flatMap fun o => ownNames kind o.1 o.2 := by
  let Agrees (v : Value) : Prop :=
    exprNames kind v = (operations v).flatMap fun o => ownNames kind o.1 o.2
  refine operations.induct Agrees (fun vs => ∀ v ∈ vs, Agrees v) ?operation ?other ?nil ?cons v
  case operation =>
    intro word operands ih
    dsimp only [Agrees]
    rw [exprNames, operations, operandNames_eq, operandOperations_eq, List.flatMap_cons,
      ← List.map_take, ← List.map_take, ← List.flatMap_def, ← List.flatMap_def, List.flatMap_assoc]
    congr 1
    apply List.flatMap_congr
    intro v hv
    exact ih v (List.mem_of_mem_take hv)
  case other =>
    intro v hother
    dsimp only [Agrees]
    rw [exprNames, operations]
    . rfl
    . exact hother
    . exact hother
  case nil => simp
  case cons =>
    intro v vs hv hvs
    exact List.forall_mem_cons.mpr ⟨hv, hvs⟩

theorem unknownTile_inj {n m : String}
    : s!"unknown tile `{n}`" = s!"unknown tile `{m}`" ↔ n = m := by
  constructor
  . intro h
    exact String.toList_inj.mp (by simpa [toString] using congrArg String.toList h)
  . rintro rfl
    rfl

theorem unsupported_ne_unknownTile (site : Site) (what word n : String)
    : (site.unsupported what word).text? ≠ some s!"unknown tile `{n}`" := by
  intro h
  simp only [Site.unsupported, Note.text?, Option.some.injEq] at h
  simpa [toString] using congrArg String.toList h

variable {site : Site} {n : String}

theorem operationReport?_eq_unknownTile {operation : String × List Value}
    : operationReport? site operation = some s!"unknown tile `{n}`" ↔
        n ∈ ownNames "id" operation.1 operation.2 ∧ site.tileId? n = none := by
  unfold operationReport?
  split
  . next name rest =>
    simp only [Option.ite_none_right_eq_some, Option.some.injEq, unknownTile_inj, ownNames,
      List.mem_singleton, if_true, Option.isNone_iff_eq_none]
    constructor
    . rintro ⟨hnone, rfl⟩
      exact ⟨rfl, hnone⟩
    . rintro ⟨rfl, hnone⟩
      exact ⟨hnone, rfl⟩
  . next word operands hother =>
    -- Neither side holds: the report is another one, and the operation names no tile.
    have hown : n ∉ ownNames "id" word operands := by
      unfold ownNames
      split
      . next s rest =>
        rw [if_neg]
        . exact List.not_mem_nil
        . rintro rfl
          exact hother s rest rfl rfl
      . exact List.not_mem_nil
    simp [hown, unsupported_ne_unknownTile]

theorem mem_statementReports {v : Value}
    : s!"unknown tile `{n}`" ∈ statementReports site v ↔
        n ∈ statementTiles v ∧ site.tileId? n = none := by
  unfold statementReports statementTiles
  split
  . next word operands =>
    split
    . simp only [exprReports, exprNames_eq, List.mem_flatMap, List.mem_filterMap,
        operationReport?_eq_unknownTile]
      constructor
      . rintro ⟨v, hv, o, ho, hn, hnone⟩
        exact ⟨⟨v, hv, o, ho, hn⟩, hnone⟩
      . rintro ⟨⟨v, hv, o, ho, hn⟩, hnone⟩
        exact ⟨v, hv, o, ho, hn, hnone⟩
    . next hword =>
      simp only [statementWords, List.mem_cons, List.not_mem_nil, or_false, not_or] at hword
      simp [exprOperands, hword, unsupported_ne_unknownTile]
  . simp

theorem BlockMeans.mem_unknownTiles {blocks : List Value} {i : Nat} {body : List Lua.Statement}
    {notes : List Note} (h : BlockMeans site blocks i body notes) (n : String)
    : s!"unknown tile `{n}`" ∈ notes.filterMap Note.text? ↔
        Mentions statementTiles blocks i n ∧ site.tileId? n = none := by
  rw [h.mem_view fun _ _ _ _ hstatement => hstatement.reports_eq]
  simp only [Mentions, mem_statementReports]
  constructor
  . rintro ⟨k, items, s, hreach, hk, hs, hn, hnone⟩
    exact ⟨⟨k, items, s, hreach, hk, hs, hn⟩, hnone⟩
  . rintro ⟨⟨k, items, s, hreach, hk, hs, hn⟩, hnone⟩
    exact ⟨k, items, s, hreach, hk, hs, hn, hnone⟩

theorem exprMeans_tile_iff {rest : List Value} {t : Lua.Term} {notes : List Note}
    : ExprMeans site (.list (.text "id" :: .text n :: rest)) t notes ↔
        match site.tileId? n with
        | some id => t = Lua.numeralTerm (toString id) ∧ notes = []
        | none => t = .nil ∧ notes = [.diagnostic s!"unknown tile `{n}`"] := by
  constructor
  . intro h
    generalize hv : Value.list (.text "id" :: .text n :: rest) = v at h
    cases h with
    | tile hid =>
      cases hv
      rw [hid]
      exact ⟨rfl, rfl⟩
    | unknownTile hnone =>
      cases hv
      rw [hnone]
      exact ⟨rfl, rfl⟩
    | binary hword | apply hword | unsupported hword =>
      cases hv
      cases hword
    | _ => simp at hv
  . intro h
    cases hid : site.tileId? n with
    | some id =>
      rw [hid] at h
      obtain ⟨rfl, rfl⟩ := h
      exact .tile hid
    | none =>
      rw [hid] at h
      obtain ⟨rfl, rfl⟩ := h
      exact .unknownTile hid

end Block

namespace Script.Parts

variable {p : Parts} {doc : Document} {tileId? : String → Option Int} {script : Script}

theorem name_eq (h : p.Compile doc tileId? script) : p.name = nameOf doc p.owner script.id := by
  unfold nameOf
  rcases h.named with ⟨hname, -⟩ | ⟨hnone, hname, -⟩
  . rw [hname]
    rfl
  . rw [hnone, hname]
    rfl

theorem unknownTile_notMem_extra {owner : Owner} {id : Int} {name : String} {extra : List Note}
    (h : IsNamed doc owner id name extra) (n : String)
    : s!"unknown tile `{n}`" ∉ extra.filterMap Note.text? := by
  rcases h with ⟨-, rfl⟩ | ⟨-, -, rfl⟩
  . exact List.not_mem_nil
  . simp only [List.filterMap_cons, Note.text?, List.filterMap_nil, List.mem_singleton]
    intro heq
    simpa [toString] using congrArg String.toList heq

theorem mem_unknownTiles (h : p.Compile doc tileId? script) (n : String)
    : s!"unknown tile `{n}`" ∈ p.notes.filterMap Note.text? ↔
        script.Mentions Block.statementTiles n ∧ tileId? n = none := by
  rw [notes, List.filterMap_append, List.filterMap_flatMap, List.mem_append, List.mem_flatMap,
    or_iff_right (unknownTile_notMem_extra h.named n)]
  calc _ ↔ ∃ event ∈ events (script.data.getD []), ∃ root, Block.ref? event.2 = some root ∧
        (Block.Mentions Block.statementTiles (blocks (script.data.getD [])) root n ∧
          tileId? n = none) :=
        exists_handler_iff h fun _ _ _ _ hmeans => hmeans.mem_unknownTiles n
    _ ↔ _ := by simp only [Mentions, ← and_assoc, exists_and_right]

end Script.Parts

namespace Makings.Make

variable {doc : Document} {m : Makings doc} {settings : Settings} {product : Product}

theorem tileId?_ledger (m : Makings doc)
    : m.ledger.tileId? = Tile.lastId? (doc.tiles.filterMap id) := by
  funext name
  have hledger : m.ledger =
      ({ notes := m.ledger.notes } : Ledger).enterTiles (doc.tiles.filterMap id) := by
    rw [Ledger.enterTiles, List.nil_append]
    rfl
  rw [hledger, Ledger.tileId?_enterTiles]
  exact Option.or_none

theorem mem_unknownTiles (h : m.Make settings product) (n : String)
    : s!"unknown tile `{n}`" ∈ product.diagnostics ↔
        doc.Mentions Block.statementTiles n ∧ m.ledger.tileId? n = none := by
  rw [h.diagnostics_eq, Ledger.diagnostics, mem_sortedOnce, Document.Mentions, h.scripts_eq]
  change _ ∈ (m.items.flatMap (·.parts.notes)).filterMap Note.text? ↔ _
  rw [List.filterMap_flatMap, List.mem_flatMap]
  constructor
  . rintro ⟨i, hi, hn⟩
    obtain ⟨hmentions, hnone⟩ := (Script.Parts.mem_unknownTiles (h.items_compile i hi) n).mp hn
    exact ⟨⟨i.script, List.mem_map_of_mem hi, hmentions⟩, hnone⟩
  . rintro ⟨⟨script, hscript, hmentions⟩, hnone⟩
    obtain ⟨i, hi, rfl⟩ := List.mem_map.mp hscript
    exact ⟨i, hi, (Script.Parts.mem_unknownTiles (h.items_compile i hi) n).mpr ⟨hmentions, hnone⟩⟩

theorem handler_mem (h : m.Make settings product) {script : Script} (hscript : script ∈ doc.scripts)
    {event : String × Json.Value} (hevent : event ∈ Script.events (script.data.getD []))
    : ∃ owner root body notes, Owner.ofNat? script.kind = some owner ∧
        Block.ref? event.2 = some root ∧
        .assign [Block.handlerPlace (Script.nameOf doc owner script.id) event.1]
          [Block.handlerFunction body] ∈ m.statements settings product.storage ∧
        Block.BlockMeans ⟨Script.nameOf doc owner script.id, event.1, m.ledger.tileId?⟩
          (Script.blocks (script.data.getD [])) root body notes := by
  rw [h.scripts_eq, List.mem_map] at hscript
  obtain ⟨i, hi, rfl⟩ := hscript
  have hcompile := h.items_compile i hi
  obtain ⟨c, hc, rfl⟩ := (Script.Parts.mem_handlers hcompile).mp hevent
  obtain ⟨body, notes, -, -, -, hstatements, hmeans⟩ :=
    Block.runs_handler (hcompile.handlers_compile c hc)
  refine ⟨i.parts.owner, c.root, body, notes, hcompile.owner_eq, rfl, ?_, ?_⟩
  . rw [← Script.Parts.name_eq hcompile]
    have hcode : c.code ∈ i.parts.code i.script.id :=
      List.mem_append_right _ (List.mem_map_of_mem hc)
    have hmem : .assign [Block.handlerPlace i.parts.name c.event] [Block.handlerFunction body] ∈
        m.items.flatMap fun i => Lua.Stat.statementsAll (i.parts.code i.script.id) := by
      simp only [Lua.Stat.statementsAll_eq, List.mem_flatMap]
      exact ⟨i, hi, c.code, hcode, by rw [hstatements]; exact List.mem_cons_self⟩
    simp only [statements, List.mem_append, hmem, true_or, or_true]
  . rw [← Script.Parts.name_eq hcompile]
    exact hmeans

end Makings.Make

/-- A list of tiles has a table exactly if all frames of those that are present are in the packing,
which has a place for each frame and each hole. Otherwise the failure names the first tile with a
frame that is missing, and the first such frame. In both cases the tiles up to there are entered,
and a name has the id of the last one that was entered under it.

In the program of a document every handler gives the name of a tile as the id of the last tile with
the name. If there is none it gives `nil`, and exactly then the name is reported. -/
theorem tiles_registered
    : (∀ frames, (Sheet.pack frames).places.length = frames.length) ∧
        (∀ (packing : Sheet.Packing) (tiles : List (Option Tile)) (ledger : Ledger),
          ∃ result entered,
            outcome (Entity.tileTable packing tiles) ledger = (result, ledger.enterTiles entered) ∧
            (result.isOk ↔ ∀ t, some t ∈ tiles → ∀ f ∈ t.frames, f < packing.places.length) ∧
            (result.isOk → entered = tiles.filterMap id) ∧
            (∀ e, result = .error e →
              Entity.StopsBehind packing entered (tiles.filterMap id) e) ∧
            ∀ name, (ledger.enterTiles entered).tileId? name =
              (Tile.lastId? entered name).or (ledger.tileId? name)) ∧
        ∀ (doc : Document) (settings : Settings) (journal journal' : List Journal.Entry)
          (product : Product), doc.build settings journal = (.ok product, journal') →
          let present := doc.tiles.filterMap id
          ∃ statements, Lua.parse product.program = some statements ∧
            (∀ script ∈ doc.scripts, ∀ event ∈ Script.events (script.data.getD []),
              ∃ owner root body notes, Owner.ofNat? script.kind = some owner ∧
                Block.ref? event.2 = some root ∧
                .assign [Block.handlerPlace (Script.nameOf doc owner script.id) event.1]
                  [Block.handlerFunction body] ∈ statements ∧
                Block.BlockMeans ⟨Script.nameOf doc owner script.id, event.1, Tile.lastId? present⟩
                  (Script.blocks (script.data.getD [])) root body notes) ∧
            (∀ script event name rest t notes,
              Block.ExprMeans ⟨script, event, Tile.lastId? present⟩
                  (.list (.text "id" :: .text name :: rest)) t notes ↔
                match Tile.lastId? present name with
                | some id => t = Lua.numeralTerm (toString id) ∧ notes = []
                | none => t = .nil ∧ notes = [.diagnostic s!"unknown tile `{name}`"]) ∧
            ∀ name, s!"unknown tile `{name}`" ∈ product.diagnostics ↔
              doc.Mentions Block.statementTiles name ∧ ∀ t ∈ present, t.name ≠ name := by
  refine ⟨fun frames => (Sheet.pack_packs frames).length_places, ?_, ?_⟩
  . intro packing tiles ledger
    have hpresent : (∀ t ∈ tiles.filterMap id, Entity.HasFrames packing t) ↔
        ∀ t, some t ∈ tiles → ∀ f ∈ t.frames, f < packing.places.length := by
      simp [Entity.HasFrames]
    rw [← hpresent]
    rcases Entity.tileTable_cases packing tiles ledger with
      ⟨records, hrun, -, hall⟩ | ⟨before, e, hrun, hstops⟩
    . exact ⟨.ok _, _, hrun, ⟨fun _ => hall, fun _ => rfl⟩, fun _ => rfl, by simp,
        ledger.tileId?_enterTiles _⟩
    . refine ⟨.error e, before, hrun, ⟨by simp, fun hall => absurd hall hstops.not_all⟩, by simp,
        ?_, ledger.tileId?_enterTiles _⟩
      rintro _ ⟨⟩
      exact hstops
  . intro doc settings journal journal' product hbuild present
    obtain ⟨m, hm⟩ := Document.build_eq_ok hbuild
    -- every tile is entered before the scripts are compiled, so the blocks see the last ids
    have hid : m.ledger.tileId? = Tile.lastId? present := Makings.Make.tileId?_ledger m
    refine ⟨_, hm.states_program.parse_eq, ?_, ?_, ?_⟩
    . intro script hscript event hevent
      rw [← hid]
      exact hm.handler_mem hscript hevent
    . intro script event name rest t notes
      exact Block.exprMeans_tile_iff
    . intro name
      rw [hm.mem_unknownTiles, hid, Tile.lastId?_eq_none]

def doorBlocks : List Json.Value :=
  [.list [.list [.text "log", .list [.text "id", .text "door"]],
    .list [.text "log", .list [.text "id", .text "ghost"]]]]

def doorsDocument : Document where
  name := "doors"
  player := ⟨0, 0, 0, 0⟩
  font := ⟨1, [], []⟩
  frames := [none]
  tiles := [some ⟨3, "door", ⟨0⟩, 0, 0, true, none, [0]⟩, none,
    some ⟨7, "door", ⟨0⟩, 0, 0, true, none, [0, 0]⟩]
  rooms := []
  sounds := []
  scripts := [⟨0, 0, some [("load", Block.blockRef 0), (Script.blocksKey, .list doorBlocks)]⟩]

theorem tiles_registered_doors
    : ∃ product journal' statements body notes,
        doorsDocument.build {} [] = (.ok product, journal') ∧
        Lua.parse product.program = some statements ∧
        .assign [Block.handlerPlace "game" "load"] [Block.handlerFunction body] ∈ statements ∧
        Block.BlockMeans ⟨"game", "load", Tile.lastId? (doorsDocument.tiles.filterMap id)⟩
          doorBlocks 0 body notes ∧
        Tile.lastId? (doorsDocument.tiles.filterMap id) "door" = some 7 ∧
        "unknown tile `ghost`" ∈ product.diagnostics ∧
        "unknown tile `door`" ∉ product.diagnostics := by
  have hcompiles : doorsDocument.compiles [] := by decide +kernel
  have hbuilds : ∃ product journal', doorsDocument.build {} [] = (.ok product, journal') ∧
      product.storage = ⟨[], []⟩ :=
    Document.build_succeeds hcompiles (Variable.Storage.allot_nothing _)
  obtain ⟨product, journal', hbuild, -⟩ := hbuilds
  obtain ⟨statements, hparse, hhandlers, -, hreports⟩ :=
    tiles_registered.2.2 doorsDocument {} [] journal' product hbuild
  obtain ⟨owner, root, body, notes, howner, hroot, hmem, hmeans⟩ :=
    hhandlers _ List.mem_cons_self ("load", Block.blockRef 0) List.mem_cons_self
  cases howner
  cases hroot
  have hghost : doorsDocument.Mentions Block.statementTiles "ghost" :=
    ⟨_, List.mem_cons_self, ("load", Block.blockRef 0), List.mem_cons_self, 0, rfl, 0, _,
      .list [.text "log", .list [.text "id", .text "ghost"]], .refl, rfl,
      List.mem_cons_of_mem _ List.mem_cons_self, List.mem_cons_self⟩
  refine ⟨product, journal', statements, body, notes, hbuild, hparse, hmem, hmeans,
    by decide +kernel, (hreports "ghost").mpr ⟨hghost, by decide +kernel⟩, ?_⟩
  intro hdoor
  exact absurd ((hreports "door").mp hdoor).2 (by decide +kernel)

end PulpGame
