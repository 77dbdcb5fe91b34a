import PulpGame.Proofs.Block.Wording
import PulpGame.Proofs.Document.Finite
import PulpGame.Proofs.Program.Sections
import PulpGame.Proofs.Variable.Coverage

namespace PulpGame

open Lua (Token Stat Spells anyChar spells_break)
open Program (Plain plain_append)
open Variable (isBare)

/-- The names that a program takes from its document: variables as far as they can be bare names,
and keys of events, fields of events and names of scripts as far as they can be names. -/
inductive Document.Offers (doc : Document) (n : String) : Prop where
  | variable (hbare : isBare n) (h : doc.Mentions Block.statementVariables n)
  | field (hname : Lua.isName n) (h : doc.Mentions Block.statementFields n)
  | event (hname : Lua.isName n) {script : Script} (hscript : script ∈ doc.scripts)
      {root : Json.Value} (h : (n, root) ∈ Script.events (script.data.getD []))
  | script (hname : Lua.isName n) {script : Script} (hscript : script ∈ doc.scripts) {owner : Owner}
      {extra : List Note} (howner : Owner.ofNat? script.kind = some owner)
      (h : Script.IsNamed doc owner script.id n extra)

namespace Script.Parts

variable {p : Parts} {doc : Document} {tileId? : String → Option Int} {script : Script}

theorem offers_event (h : p.Compile doc tileId? script) (hscript : script ∈ doc.scripts)
    {c : CompiledHandler} (hc : c ∈ p.handlers) (hname : Lua.isName c.event) : doc.Offers c.event :=
  .event hname hscript ((mem_handlers h).mpr ⟨c, hc, rfl⟩)

theorem plain_code (h : p.Compile doc tileId? script) (hscript : script ∈ doc.scripts)
    : Plain doc.Offers (Stat.tokensAll (p.code script.id)) := by
  rw [code, Program.plain_tokensAll, List.forall_mem_append, ← Program.plain_tokensAll,
    List.forall_mem_map]
  constructor
  . exact plain_registration _ _ _ fun hname => .script hname hscript h.owner_eq h.named
  . intro c hc
    refine Block.plain_handler ?_ (offers_event h hscript hc) (h.handlers_compile c hc)
    have hmentions {names : Json.Value → List String} {n : String}
        (hn : Block.Mentions names (blocks (script.data.getD [])) c.root n)
        : doc.Mentions names n :=
      ⟨script, hscript, _, (mem_handlers h).mpr ⟨c, hc, rfl⟩, c.root, rfl, hn⟩
    exact ⟨fun v hv hbare => .variable hbare (hmentions hv),
      fun n hn hname => .field hname (hmentions hn)⟩

theorem offers_request (h : p.Compile doc tileId? script) (hscript : script ∈ doc.scripts)
    {r : Mimic.Request} (hr : Note.mimic r ∈ p.notes) (hname : Lua.isName r.event)
    : doc.Offers r.event := by
  rcases List.mem_append.mp hr with hr | hr
  . rcases h.named with ⟨-, hextra⟩ | ⟨-, -, hextra⟩ <;> simp [hextra] at hr
  . obtain ⟨c, hc, hr⟩ := List.mem_flatMap.mp hr
    obtain ⟨body, new, hnotes, -, -, -, hmeans⟩ := Block.runs_handler (h.handlers_compile c hc)
    rw [hnotes] at hr
    have hevent : r.event = c.event := hmeans.event_eq hr
    rw [hevent] at hname ⊢
    exact offers_event h hscript hc hname

end Script.Parts

theorem Program.spells_headline (name : String)
    : Spells anyChar s!"\n----------------- {Lua.escape name} ----------------------------\n" [] := by
  -- the name is escaped, so the headline is one line
  have hline : ("--------------- " ++ Lua.escape name ++
      " ----------------------------").toList.all (!Lua.isLineEnd ·) := by
    rw [String.toList_append, String.toList_append, List.all_append, List.all_append,
      Lua.all_escape_not_isLineEnd]
    rfl
  have hstart : ("--------------- " ++ Lua.escape name ++
      " ----------------------------").toList.head?.all (· != '[') := by
    rw [String.toList_append, String.toList_append]
    rfl
  have hcomment := Lua.spells_comment hline hstart
  have hheadline := (spells_break.append_anyChar hcomment).append spells_break rfl
  have htext : s!"\n----------------- {Lua.escape name} ----------------------------\n" =
      "\n----------------- " ++ Lua.escape name ++ " ----------------------------\n" := rfl
  have hopening : "\n----------------- " = "\n" ++ ("--" ++ "--------------- ") := rfl
  have hclosing : " ----------------------------\n" = " ----------------------------" ++ "\n" := rfl
  rw [htext, hopening, hclosing]
  simpa [-String.reduceAppend, String.append_assoc] using hheadline

theorem Program.spells_scriptText {p : Script.Parts} {doc : Document}
    {tileId? : String → Option Int} {script : Script} (h : p.Compile doc tileId? script)
    : Spells anyChar (scriptText (p.compiled script.id)) (Stat.tokensAll (p.code script.id)) :=
  (spells_headline p.name).append_anyChar (Script.Parts.spells_code h)

def Makings.tokens {doc : Document} (m : Makings doc) (settings : Settings)
    (storage : Variable.Storage) : List Token :=
  Stat.tokensAll (Program.preamble doc) ++ Stat.tokensAll storage.declare ++
    Entity.tableTokens "tiles" m.records ++
    Entity.tableTokens "rooms" ((doc.rooms.filterMap id).map Room.toRecord) ++
    Entity.tableTokens "sounds" ((doc.sounds.filterMap id).map Sound.toRecord) ++
    Stat.tokensAll Program.songs ++
    m.items.flatMap (fun i => Stat.tokensAll (i.parts.code i.script.id)) ++
    Stat.tokensAll ((Mimic.plan m.ledger.mimics).resolve settings.passes) ++
    Stat.tokensAll storage.access ++ Stat.tokensAll Program.epilogue

namespace Makings.Make

variable {doc : Document} {m : Makings doc} {settings : Settings} {product : Product}

theorem records_fits (h : m.Make settings product) (hfinite : doc.IsFinite)
    : ∀ r ∈ m.records, r.Fits := by
  have htiles : ∀ t ∈ doc.tiles.filterMap id, t.fps.isFinite := by
    simpa using hfinite.tiles
  have hrecords := h.records_fit
  generalize m.records = records at hrecords ⊢
  generalize doc.tiles.filterMap id = tiles at hrecords htiles
  induction hrecords with
  | nil => simp
  | cons hrecord _ ih =>
    rw [List.forall_mem_cons] at htiles ⊢
    obtain ⟨places, -, rfl⟩ := hrecord
    exact ⟨Tile.toRecord_fits htiles.1 places, ih htiles.2⟩

theorem sounds_fits {doc : Document} (hfinite : doc.IsFinite)
    : ∀ r ∈ (doc.sounds.filterMap id).map Sound.toRecord, r.Fits := by
  rw [List.forall_mem_map]
  intro s hs
  exact Sound.toRecord_fits (hfinite.sounds s (by simpa using hs))

theorem rooms_fits (doc : Document)
    : ∀ r ∈ (doc.rooms.filterMap id).map Room.toRecord, r.Fits := by
  rw [List.forall_mem_map]
  exact fun r _ => r.toRecord_fits

theorem spells_program (h : m.Make settings product) (hfinite : doc.IsFinite)
    : Spells anyChar product.program (m.tokens settings product.storage) := by
  have hpreamble := Lua.spells_chunk (Program.preamble_fits doc)
  have hdeclare := Lua.spells_chunk (Variable.declare_fits h.isBare_fast)
  have htiles := Entity.spells_table (rfl : Lua.isName "tiles") (records_fits h hfinite) 4
  have hrooms := Entity.spells_table (rfl : Lua.isName "rooms") (rooms_fits doc) 2
  have hsounds := Entity.spells_table (rfl : Lua.isName "sounds") (sounds_fits hfinite) 2
  have hsongs := Lua.spells_chunk Program.songs_fits
  have hscripts := Spells.join_map fun i hi => Program.spells_scriptText (h.items_compile i hi)
  have hmimics := Mimic.spells_code (Mimic.plan m.ledger.mimics) settings.passes
  have haccess := Lua.spells_chunk (Variable.access_fits h.isBare_fast)
  have hepilogue := Lua.spells_chunk Program.epilogue_fits
  have hfront := ((((hpreamble.append_anyChar spells_break).append_anyChar hdeclare).append_anyChar
    htiles).append_anyChar hrooms).append_anyChar hsounds
  have hmiddle := (((hfront.append_anyChar spells_break).append_anyChar hsongs).append_anyChar
    hscripts).append_anyChar hmimics
  have hall := (((hmiddle.append_anyChar spells_break).append_anyChar haccess).append_anyChar
    spells_break).append_anyChar hepilogue
  rw [h.program_eq, Program.text, sections, tokens]
  simpa [Entity.roomTable, Entity.soundTable, Function.comp_def] using hall

theorem plain_program (h : m.Make settings product) (hfinite : doc.IsFinite)
    : Plain doc.Offers (m.tokens settings product.storage) := by
  have hvariable : ∀ v ∈ product.storage.all, isBare v → doc.Offers v :=
    fun v hv hbare => .variable hbare ((h.mem_all v).mp hv)
  have hscript (i : Compilation.Item) (hi : i ∈ m.items) : i.script ∈ doc.scripts := by
    rw [h.scripts_eq]
    exact List.mem_map_of_mem hi
  have hscripts : Plain doc.Offers
      (m.items.flatMap fun i => Stat.tokensAll (i.parts.code i.script.id)) :=
    Program.plain_flatMap.mpr fun i hi =>
      Script.Parts.plain_code (h.items_compile i hi) (hscript i hi)
  have hmimics : Plain doc.Offers
      (Stat.tokensAll ((Mimic.plan m.ledger.mimics).resolve settings.passes)) := by
    apply Mimic.plain_plan
    intro r hr
    -- a request of the plan was noted by some event, whose script offers its names
    obtain ⟨n, hn, hrequest⟩ := List.mem_filterMap.mp hr
    obtain ⟨i, hi, hn⟩ := List.mem_flatMap.mp hn
    cases n <;> cases hrequest
    exact Script.Parts.offers_request (h.items_compile i hi) (hscript i hi) hn
  have hsongs : Plain doc.Offers (Stat.tokensAll Program.songs) := Program.plain_of_all (by decide)
  have hepilogue : Plain doc.Offers (Stat.tokensAll Program.epilogue) :=
    Program.plain_of_all (by decide)
  simp only [tokens, plain_append]
  exact ⟨⟨⟨⟨⟨⟨⟨⟨⟨Program.plain_preamble doc,
    Variable.Storage.plain_declare hvariable h.isBare_fast⟩,
    Entity.plain_table (by decide) (records_fits h hfinite)⟩,
    Entity.plain_table (by decide) (rooms_fits doc)⟩,
    Entity.plain_table (by decide) (sounds_fits hfinite)⟩, hsongs⟩, hscripts⟩, hmimics⟩,
    Variable.Storage.plain_access hvariable h.isBare_fast⟩, hepilogue⟩

end Makings.Make

/-- The program of a document that was read out of a text is read to its end. Its tokens are
literals, words and symbols that every program may have, and names that the document offers; all
else that the document says stands within literals and comments. -/
theorem program_tokens {source : String} {doc : Document} {settings : Settings} {product : Product}
    {journal journal' : List Journal.Entry} (hsource : Document.ofText source = .ok doc)
    (h : doc.build settings journal = (.ok product, journal'))
    : ∃ m : Makings doc, m.Make settings product ∧
        Lua.tokens? product.program.toList = some (m.tokens settings product.storage) ∧
        ∀ t ∈ m.tokens settings product.storage, Program.Allowed doc.Offers t := by
  obtain ⟨m, hm⟩ := Document.build_eq_ok h
  have hfinite := Document.isFinite_ofText hsource
  exact ⟨m, hm, (hm.spells_program hfinite).tokens?_eq, hm.plain_program hfinite⟩

def hostileSource : String :=
  "[\"]]\\\"--\",[0,0,0,0],[1],[],[[0,\"end\\n\",1.5,0,0,false,\"]]\"]],[[0,\"--[[\",-1,[],[\x7b\"x\":1,\"y\":2,\"fin\":\"]]\"\x7d]]],[],[[0,2,\x7b\"x\":[\"block\",0],\"__blocks\":[[[\"set\",\"and\",1],[\"mimic\",\"\\n\"],[\"]]\\n\"]]]\x7d]]]"

theorem program_tokens_hostile
    : ∃ doc product journal', Document.ofText hostileSource = .ok doc ∧
        doc.build {} [] = (.ok product, journal') ∧ product.storage = ⟨[], ["and"]⟩ ∧
        ∃ m : Makings doc, m.Make {} product ∧
          Lua.tokens? product.program.toList = some (m.tokens {} product.storage) ∧
          ∀ t ∈ m.tokens {} product.storage, Program.Allowed doc.Offers t := by
  have hcompiles : (Document.ofText hostileSource).toOption.any (·.compiles ["and"]) := by
    decide +kernel
  obtain ⟨doc, hread, hdoc⟩ := Option.any_eq_true _ _ |>.mp hcompiles
  have hsource : Document.ofText hostileSource = .ok doc := by
    generalize Document.ofText hostileSource = x at hread
    cases x <;> cases hread
    rfl
  obtain ⟨product, journal', hbuild, hstorage⟩ : ∃ product journal',
      doc.build {} [] = (.ok product, journal') ∧ product.storage = ⟨[], ["and"]⟩ := by
    apply Document.build_succeeds hdoc
    rw [Variable.Storage.allot, Variable.ranked_of_sorted (by decide) (by decide)]
    rfl
  exact ⟨doc, product, journal', hsource, hbuild, hstorage, program_tokens hsource hbuild⟩

end PulpGame
