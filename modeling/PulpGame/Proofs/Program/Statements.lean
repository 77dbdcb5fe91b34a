import PulpGame.Proofs.Entity.Statements
import PulpGame.Proofs.Mimic.Section
import PulpGame.Proofs.Program.Tokens

namespace PulpGame

open Lua (Stat Statement States Spells anyChar spells_break)

namespace Variable.Storage

theorem states_declare {s : Storage} (h : ∀ v ∈ s.fast, isBare v)
    : States (Lua.chunkText s.declare) (Stat.statementsAll s.declare) := by
  apply States.chunk (declare_fits h)
  rw [declare, List.forall_mem_append, List.forall_mem_map, List.forall_mem_map]
  exact ⟨fun _ _ => rfl, fun _ _ => rfl⟩

theorem states_access {s : Storage} (h : ∀ v ∈ s.fast, isBare v)
    : States (Lua.chunkText s.access) (Stat.statementsAll s.access) := by
  apply States.chunk (access_fits h)
  simp only [access, List.forall_mem_cons, List.not_mem_nil, false_implies, implies_true, and_true]
  exact ⟨rfl, rfl, rfl, rfl⟩

end Variable.Storage

theorem Mimic.states_code (p : Plan) (passes : Nat)
    : States (p.code passes) (Stat.statementsAll (p.resolve passes)) := by
  have hfits := plan_resolve_fits p passes
  unfold Plan.code
  generalize p.resolve passes = body at hfits
  cases body with
  | nil => exact States.ofNothing Spells.empty
  | cons st body =>
    have hbody : ∀ s ∈ Stat.comment "mimics" :: st :: body, s.Fits ∧ s.isLast = false :=
      List.forall_mem_cons.mpr ⟨⟨.comment rfl, rfl⟩, hfits⟩
    apply (States.ofNothing spells_break).append
    exact States.chunk (fun s hs => (hbody s hs).1) fun s hs => (hbody s hs).2

theorem Program.states_scriptText {p : Script.Parts} {doc : Document}
    {tileId? : String → Option Int} {script : Script} (h : p.Compile doc tileId? script)
    : States (scriptText (p.compiled script.id)) (Stat.statementsAll (p.code script.id)) := by
  have hfits := Script.registration_fits p.name p.owner script.id
  have hregistration : States (Lua.chunkText (Script.registration p.name p.owner script.id))
      (Stat.statementsAll (Script.registration p.name p.owner script.id)) :=
    States.chunk (fun st hst => (hfits st hst).1) fun st hst => (hfits st hst).2
  have hhandler (c : CompiledHandler) (hc : c ∈ p.handlers)
      : States ("\n" ++ Lua.chunkText [c.code]) c.code.statements := by
    have hmem : c.code ∈ p.code script.id := List.mem_append_right _ (List.mem_map_of_mem hc)
    have hcode := Script.Parts.code_fits h c.code hmem
    have hchunk : States (Lua.chunkText [c.code]) (Stat.statementsAll [c.code]) :=
      States.chunk (by simpa using hcode.1) (by simpa using hcode.2)
    simpa [Stat.statementsAll] using (States.ofNothing spells_break).append hchunk
  have hcode : Stat.statementsAll (p.code script.id) =
      Stat.statementsAll (Script.registration p.name p.owner script.id) ++
        p.handlers.flatMap (·.code.statements) := by
    simp [Stat.statementsAll_eq, Script.Parts.code, List.flatMap_map]
  rw [hcode]
  exact (States.ofNothing (spells_headline p.name)).append
    (hregistration.append (States.join_map hhandler))

def Makings.statements {doc : Document} (m : Makings doc) (settings : Settings)
    (storage : Variable.Storage) : List Statement :=
  Stat.statementsAll (Program.preamble doc) ++ Stat.statementsAll storage.declare ++
    Entity.tableStatements "tiles" m.records ++
    Entity.tableStatements "rooms" ((doc.rooms.filterMap id).map Room.toRecord) ++
    Entity.tableStatements "sounds" ((doc.sounds.filterMap id).map Sound.toRecord) ++
    Stat.statementsAll Program.songs ++
    m.items.flatMap (fun i => Stat.statementsAll (i.parts.code i.script.id)) ++
    Stat.statementsAll ((Mimic.plan m.ledger.mimics).resolve settings.passes) ++
    Stat.statementsAll storage.access ++ Stat.statementsAll Program.epilogue

namespace Makings.Make

variable {doc : Document} {m : Makings doc} {settings : Settings} {product : Product}

theorem records_isNamed (h : m.Make settings product) : ∀ r ∈ m.records, r.IsNamed := by
  rw [(Entity.records_eq h.records_fit).1, List.forall_mem_map]
  exact fun t _ => t.toRecord_isNamed _

theorem states_program (h : m.Make settings product)
    : States product.program (m.statements settings product.storage) := by
  have hbreak := States.ofNothing spells_break
  have hpreamble := States.chunk (Program.preamble_fits doc)
    (by simp [Program.preamble, Program.aliases, Stat.isLast])
  have hdeclare := Variable.Storage.states_declare h.isBare_fast
  have htiles := Entity.states_table (rfl : Lua.isName "tiles") h.records_isNamed 4
  have hrooms := Entity.states_table (rfl : Lua.isName "rooms")
    (List.forall_mem_map.mpr fun r (_ : r ∈ doc.rooms.filterMap id) => r.toRecord_isNamed) 2
  have hsounds := Entity.states_table (rfl : Lua.isName "sounds")
    (List.forall_mem_map.mpr fun s (_ : s ∈ doc.sounds.filterMap id) => s.toRecord_isNamed) 2
  have hsongs := States.chunk Program.songs_fits (by simp [Program.songs, Stat.isLast])
  have hscripts := States.join_map fun i hi => Program.states_scriptText (h.items_compile i hi)
  have hmimics := Mimic.states_code (Mimic.plan m.ledger.mimics) settings.passes
  have haccess := Variable.Storage.states_access h.isBare_fast
  have hepilogue := States.chunk Program.epilogue_fits
    (by simp [Program.epilogue, Program.runtimeCall, Stat.isLast])
  have hfront := ((((hpreamble.append hbreak).append hdeclare).append htiles).append
    hrooms).append hsounds
  have hmiddle := (((hfront.append hbreak).append hsongs).append hscripts).append hmimics
  have hall := (((hmiddle.append hbreak).append haccess).append hbreak).append hepilogue
  rw [h.program_eq, Program.text, sections, statements]
  simpa [Entity.roomTable, Entity.soundTable, Function.comp_def] using hall

end Makings.Make

end PulpGame
