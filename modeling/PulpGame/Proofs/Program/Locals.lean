import PulpGame.Proofs.Lua.Locals
import PulpGame.Proofs.Program.Statements
import PulpGame.Proofs.Script.Binding

namespace PulpGame

open Lua (Stat Statement Occupies)

namespace Program

theorem occupies_preamble (doc : Document) (held : Nat)
    : Occupies (Stat.statementsAll (preamble doc)) (locals doc) held :=
  ⟨rfl, Nat.zero_le _⟩

theorem length_locals (doc : Document) : (locals doc).length = preambleLocals := rfl

theorem nodup_locals (doc : Document) : (locals doc).Nodup := by
  rw [locals_eq]
  decide

end Program

theorem Entity.occupies_table (table : String) (records : List Record) (held : Nat)
    : Occupies (tableStatements table records) [] held := by
  apply Occupies.ofNone
  rw [tableStatements, List.forall_mem_cons, List.forall_mem_map]
  exact ⟨⟨rfl, rfl⟩, fun _ _ => ⟨rfl, rfl⟩⟩

namespace Variable.Storage

theorem occupies_declare (s : Storage) (held : Nat)
    : Occupies (Stat.statementsAll s.declare) s.fast held := by
  have hfast : Occupies (s.fast.flatMap fun v => (Stat.action (.declare v (.numeral "0"))).statements)
      (s.fast.flatMap fun v => [v]) held :=
    Occupies.flatMap fun v _ => ⟨rfl, Nat.zero_le _⟩
  have hdynamic : Occupies (s.dynamic.flatMap fun v => (reset v).statements) [] held :=
    Occupies.flatMap_none fun v _ => ⟨rfl, Nat.zero_le _⟩
  have hall := hfast.append hdynamic
  simpa [Stat.statementsAll_eq, declare, List.flatMap_append, List.flatMap_map] using hall

theorem occupies_access (s : Storage) (held : Nat)
    : Occupies (Stat.statementsAll s.access) [] held :=
  ⟨rfl, Nat.zero_le _⟩

end Variable.Storage

theorem Script.Parts.occupies_code {p : Parts} {doc : Document} {tileId? : String → Option Int}
    {script : Script} (h : p.Compile doc tileId? script) (held : Nat)
    : Occupies (Stat.statementsAll (p.code script.id)) [] held := by
  apply Occupies.ofNone
  intro s hs
  rcases mem_statements_code h hs with ⟨st, hst, hs⟩ | ⟨event, body, rfl⟩
  . rcases mem_registration.mp hst with rfl | ⟨-, rfl⟩ | rfl
    all_goals
      cases List.mem_singleton.mp hs
      exact ⟨rfl, rfl⟩
  . -- the locals of a handler are those of a function
    exact ⟨rfl, rfl⟩

namespace Mimic

def requestLocals : Nat := 6

theorem Request.occupies_resolve (r : Request)
    : Occupies r.resolve.statements [] requestLocals := by
  unfold resolve
  dsimp only
  split
  . exact ⟨rfl, Nat.le_refl _⟩
  . exact ⟨rfl, Nat.zero_le _⟩

theorem occupies_requests (rs : List Request)
    : Occupies (Stat.statementsAll (rs.map Request.resolve)) [] requestLocals := by
  rw [Stat.statementsAll_eq, List.flatMap_map]
  exact Occupies.flatMap_none fun r _ => r.occupies_resolve

theorem Plan.occupies_resolve (p : Plan) (passes : Nat)
    : Occupies (Stat.statementsAll (p.resolve passes)) [] loopLocals := by
  have hordered := occupies_requests p.orderedRequests
  have hcyclic := occupies_requests p.cyclicRequests
  have hfront : Occupies (Stat.statementsAll (p.orderedRequests.map Request.resolve)) []
      loopLocals :=
    ⟨hordered.names_eq, Nat.le_trans hordered.held_le (by decide)⟩
  rw [resolve, Stat.statementsAll_eq, List.flatMap_append, ← Stat.statementsAll_eq,
    ← Stat.statementsAll_eq]
  apply hfront.append
  split
  . exact ⟨rfl, Nat.zero_le _⟩
  . constructor
    . simp [Stat.statementsAll, Stat.statements, Lua.blockLocalNames, Statement.localNames,
        hcyclic.names_eq]
    . have := hcyclic.held_le
      simp [Stat.statementsAll, Stat.statements, Lua.blockHeldByLoops, Statement.heldByLoops,
        Lua.hiddenInCount, requestLocals, loopLocals] at this ⊢
      omega

end Mimic

namespace Makings.Make

variable {doc : Document} {m : Makings doc} {settings : Settings} {product : Product}

theorem occupies (h : m.Make settings product)
    : Occupies (m.statements settings product.storage) (Program.locals doc ++ product.storage.fast)
        loopLocals := by
  have hpreamble := Program.occupies_preamble doc loopLocals
  have hdeclare := product.storage.occupies_declare loopLocals
  have htiles := Entity.occupies_table "tiles" m.records loopLocals
  have hrooms := Entity.occupies_table "rooms" ((doc.rooms.filterMap id).map Room.toRecord) loopLocals
  have hsounds := Entity.occupies_table "sounds" ((doc.sounds.filterMap id).map Sound.toRecord)
    loopLocals
  have hsongs : Occupies (Stat.statementsAll Program.songs) [] loopLocals := ⟨rfl, Nat.zero_le _⟩
  have hscripts : Occupies (m.items.flatMap fun i => Stat.statementsAll (i.parts.code i.script.id))
      [] loopLocals :=
    Occupies.flatMap_none fun i hi => Script.Parts.occupies_code (h.items_compile i hi) _
  have hmimics := (Mimic.plan m.ledger.mimics).occupies_resolve settings.passes
  have haccess := product.storage.occupies_access loopLocals
  have hepilogue : Occupies (Stat.statementsAll Program.epilogue) [] loopLocals :=
    ⟨rfl, Nat.zero_le _⟩
  have hfront := ((((hpreamble.append hdeclare).append htiles).append hrooms).append
    hsounds).append hsongs
  have hall := (((hfront.append hscripts).append hmimics).append haccess).append hepilogue
  simpa [statements] using hall

theorem nodup_locals (h : m.Make settings product)
    : (Program.locals doc ++ product.storage.fast).Nodup := by
  rw [List.nodup_append']
  refine ⟨Program.nodup_locals doc, ?_, ?_⟩
  . exact (List.nodup_append'.mp h.nodup_all).1
  . intro n hlocal hfast
    have hbare := h.isBare_fast n hfast
    simp [Variable.isBare, Program.needsNamespace_of_local hlocal] at hbare

theorem length_fast_le (h : m.Make settings product)
    : product.storage.fast.length ≤ Variable.fastLimit := by
  rw [(Variable.Storage.allot_eq h.allot_eq).1, List.length_take]
  omega

end Makings.Make

/-- The program of a document is a block with never more active locals than Lua allows, whatever the
number of variables asked for and the mimics. Its locals are those of the preamble and the variables
that were made locals, each declared once. -/
theorem locals_within_limit {doc : Document} {settings : Settings} {product : Product}
    {journal journal' : List Journal.Entry}
    (h : doc.build settings journal = (.ok product, journal'))
    : ∃ body, Lua.parse product.program = some body ∧
        (∀ k ∈ Lua.blockActiveLocals 0 body, k ≤ localsLimit) ∧
        Lua.blockLocalNames body = Program.locals doc ++ product.storage.fast ∧
        (Lua.blockLocalNames body).Nodup ∧ (Program.locals doc).length = preambleLocals := by
  obtain ⟨m, hm⟩ := Document.build_eq_ok h
  have hoccupies := hm.occupies
  refine ⟨_, hm.states_program.parse_eq, ?_, hoccupies.names_eq, ?_, Program.length_locals doc⟩
  . intro k hk
    have hle := hoccupies.le hk
    have hfast := hm.length_fast_le
    rw [List.length_append, Program.length_locals] at hle
    unfold Variable.fastLimit localsLimit preambleLocals loopLocals at *
    omega
  . rw [hoccupies.names_eq]
    exact hm.nodup_locals

theorem locals_within_limit_coins
    : ∃ product journal', coinDocument.build {} [] = (.ok product, journal') ∧
        ∃ body, Lua.parse product.program = some body ∧
          (∀ k ∈ Lua.blockActiveLocals 0 body, k ≤ localsLimit) ∧
          (Lua.blockLocalNames body).Nodup ∧ "coins" ∈ Lua.blockLocalNames body := by
  obtain ⟨product, journal', hbuild, hstorage⟩ := coinDocument_builds
  obtain ⟨body, hparse, hlimit, hnames, hnodup, -⟩ := locals_within_limit hbuild
  refine ⟨product, journal', hbuild, body, hparse, hlimit, hnodup, ?_⟩
  rw [hnames, hstorage]
  simp

end PulpGame
