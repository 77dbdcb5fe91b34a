import PulpGame.Proofs.Block.Handler
import PulpGame.Script.Compilation

namespace PulpGame

structure CompiledHandler where
  event : String
  root : Nat
  code : Lua.Stat
  notes : List Note

namespace CompiledHandler

def Compiles (h : CompiledHandler) (tileId? : String → Option Int) (script : String)
    (blocks : List Json.Value) : Prop :=
  Runs (Block.handler ⟨script, h.event, tileId?⟩ blocks h.root) [] h.code h.notes

end CompiledHandler

namespace Script

def IsNamed (doc : Document) (owner : Owner) (id : Int) (name : String) (extra : List Note) : Prop :=
  ownerName? doc owner id = some name ∧ extra = [] ∨
    ownerName? doc owner id = none ∧ name = s!"__UNKNOWN_SCRIPT_{owner.toNat}_{id}" ∧
      extra = [.diagnostic s!"unknown script, type {owner.toNat}, id {id}"]

def codeText (name : String) (owner : Owner) (id : Int) (handlers : List CompiledHandler) : String :=
  Lua.chunkText (registration name owner id) ++
    String.join (handlers.map fun h => "\n" ++ Lua.chunkText [h.code])

structure Parts where
  name : String
  owner : Owner
  handlers : List CompiledHandler
  extra : List Note

namespace Parts

def notes (p : Parts) : List Note := p.extra ++ p.handlers.flatMap (·.notes)

def compiled (p : Parts) (id : Int) : CompiledScript := ⟨p.name, codeText p.name p.owner id p.handlers⟩

structure Compile (p : Parts) (doc : Document) (tileId? : String → Option Int) (script : Script) :
    Prop where
  owner_eq : Owner.ofNat? script.kind = some p.owner
  named : IsNamed doc p.owner script.id p.name p.extra
  events_eq : events (script.data.getD []) =
    p.handlers.map fun h => (h.event, Block.blockRef h.root)
  handlers_compile : ∀ h ∈ p.handlers,
    h.Compiles tileId? p.name (blocks (script.data.getD []))

end Parts

variable {doc : Document} {u u' : Unit} {ledger ledger' : Ledger}

def Adds (ledger : Ledger) (notes : List Note) (ledger' : Ledger) : Prop :=
  ledger' = { ledger with notes := ledger.notes ++ notes }

theorem Adds.nil (ledger : Ledger) : Adds ledger [] ledger := by
  simp [Adds]

theorem Adds.trans {ns ms : List Note} {mid : Ledger} (h : Adds ledger ns mid)
    (h' : Adds mid ms ledger') : Adds ledger (ns ++ ms) ledger' := by
  subst h h'
  simp [Adds]

theorem Adds.tileId?_eq {ns : List Note} (h : Adds ledger ns ledger')
    : ledger'.tileId? = ledger.tileId? := by
  subst h
  rfl

theorem runs_note {n : Note} (h : Runs (Compiling.note n : Compiling Unit Unit) (u, ledger) u
    (u', ledger')) : Adds ledger [n] ledger' := by
  cases runs_modify.mp h
  rfl

theorem runs_name {owner : Owner} {id : Int} {name : String}
    (h : Runs (Script.name doc owner id : Compiling Unit String) (u, ledger) name (u', ledger'))
    : ∃ extra, IsNamed doc owner id name extra ∧ Adds ledger extra ledger' := by
  unfold Script.name at h
  split at h
  . next n hn =>
    rw [runs_pure] at h
    obtain ⟨rfl, heq⟩ := h
    cases heq
    exact ⟨[], .inl ⟨hn, rfl⟩, .nil _⟩
  . next hn =>
    rw [runs_bind] at h
    obtain ⟨_, ⟨_, mid⟩, hnote, h⟩ := h
    rw [runs_pure] at h
    obtain ⟨rfl, heq⟩ := h
    cases heq
    exact ⟨_, .inr ⟨hn, rfl, rfl⟩, runs_note hnote⟩

theorem runs_compileEvent {name text : String} {blocks : List Json.Value}
    {event : String × Json.Value}
    (h : Runs (compileEvent blockCompiler name blocks event) (u, ledger) text (u', ledger'))
    : ∃ c : CompiledHandler, event = (c.event, Block.blockRef c.root) ∧
        c.Compiles ledger.tileId? name blocks ∧ text = Lua.chunkText [c.code] ∧
        Adds ledger c.notes ledger' := by
  unfold compileEvent at h
  split at h
  . next root hroot =>
    obtain ⟨st, notes, hrun, rfl, rfl⟩ := Block.blockCompiler_eq_ok h
    refine ⟨⟨event.1, root, st, notes⟩, ?_, hrun, rfl, rfl⟩
    rw [← Block.ref?_eq_some hroot]
  . exact absurd h runs_throw

theorem runs_events {name : String} {blocks : List Json.Value} {es : List (String × Json.Value)}
    {texts : List String}
    (h : Runs (es.mapM (compileEvent blockCompiler name blocks)) (u, ledger) texts (u', ledger'))
    : ∃ handlers : List CompiledHandler,
        es = handlers.map (fun c => (c.event, Block.blockRef c.root)) ∧
        (∀ c ∈ handlers, c.Compiles ledger.tileId? name blocks) ∧
        texts = handlers.map (fun c => Lua.chunkText [c.code]) ∧
        Adds ledger (handlers.flatMap (·.notes)) ledger' := by
  induction es generalizing texts u ledger with
  | nil =>
    rw [List.mapM_nil, runs_pure] at h
    obtain ⟨rfl, heq⟩ := h
    cases heq
    exact ⟨[], rfl, by simp, rfl, .nil _⟩
  | cons e es ih =>
    rw [List.mapM_cons, runs_bind] at h
    obtain ⟨text, ⟨_, mid⟩, he, h⟩ := h
    rw [runs_bind] at h
    obtain ⟨rest, ⟨_, mid'⟩, hes, h⟩ := h
    rw [runs_pure] at h
    obtain ⟨rfl, heq⟩ := h
    cases heq
    obtain ⟨c, rfl, hc, rfl, hadds⟩ := runs_compileEvent he
    obtain ⟨handlers, rfl, hhandlers, rfl, hadds'⟩ := ih hes
    rw [hadds.tileId?_eq] at hhandlers
    refine ⟨c :: handlers, rfl, ?_, rfl, hadds.trans hadds'⟩
    simpa [hc] using hhandlers

theorem runs_compile {script : Script} {result : CompiledScript × Nat}
    (h : Runs (script.compile doc blockCompiler) (u, ledger) result (u', ledger'))
    : ∃ p : Parts, p.Compile doc ledger.tileId? script ∧ result.1 = p.compiled script.id ∧
        Adds ledger p.notes ledger' := by
  unfold compile at h
  split at h
  . exact absurd h runs_throw
  . next owner howner =>
    simp only [runs_bind] at h
    obtain ⟨name, ⟨_, mid⟩, hname, texts, ⟨_, mid'⟩, htexts, h⟩ := h
    rw [runs_pure] at h
    obtain ⟨rfl, heq⟩ := h
    cases heq
    obtain ⟨extra, hnamed, hadds⟩ := runs_name hname
    obtain ⟨handlers, hevents, hhandlers, rfl, hadds'⟩ := runs_events htexts
    rw [hadds.tileId?_eq] at hhandlers
    refine ⟨⟨name, owner, handlers, extra⟩, ⟨howner, hnamed, hevents, hhandlers⟩, ?_,
      hadds.trans hadds'⟩
    simp [Parts.compiled, codeText, List.map_map, Function.comp_def]

end Script

namespace Compilation

structure Item where
  script : Script
  parts : Script.Parts

theorem run_compileAll_cons {σ : Type} (doc : Document) (compiler : EventCompiler σ)
    (script : Script) (scripts : List Script) (s : σ × Ledger)
    : (compileAll doc compiler (script :: scripts)).run s =
        match outcome (script.compile doc compiler) s with
        | (.error e, mid) => (⟨[], some e⟩, mid)
        | (.ok c, mid) =>
          let rest := (compileAll doc compiler scripts).run mid
          ({ rest.1 with done := c :: rest.1.done }, rest.2) := by
  rw [compileAll, StateT.run_bind]
  rcases hscript : outcome (script.compile doc compiler) s with ⟨e | c, mid⟩
  . have hrun : (script.compile doc compiler).run.run s = (.error e, mid) := hscript
    rw [hrun]
    rfl
  . have hrun : (script.compile doc compiler).run.run s = (.ok c, mid) := hscript
    rw [hrun]
    rfl

theorem compileAll_eq {doc : Document} {scripts : List Script} {u u' : Unit}
    {ledger ledger' : Ledger} {done : List (CompiledScript × Nat)}
    (h : (compileAll doc blockCompiler scripts).run (u, ledger) = (⟨done, none⟩, u', ledger'))
    : ∃ items : List Item, scripts = items.map (·.script) ∧
        done.map (·.1) = items.map (fun i => i.parts.compiled i.script.id) ∧
        (∀ i ∈ items, i.parts.Compile doc ledger.tileId? i.script) ∧
        Script.Adds ledger (items.flatMap (·.parts.notes)) ledger' := by
  induction scripts generalizing done u ledger with
  | nil =>
    cases h
    exact ⟨[], rfl, rfl, by simp, .nil _⟩
  | cons script scripts ih =>
    rw [run_compileAll_cons] at h
    rcases hscript : outcome (script.compile doc blockCompiler) (u, ledger) with ⟨e | c, v, mid⟩
    . rw [hscript] at h
      cases h
    . rw [hscript] at h
      obtain ⟨p, hp, hc, hadds⟩ := Script.runs_compile hscript
      rcases hrest : (compileAll doc blockCompiler scripts).run (v, mid) with ⟨⟨others, f⟩, w, last⟩
      dsimp only at h
      rw [hrest] at h
      cases h
      obtain ⟨items, rfl, hdone, hitems, hadds'⟩ := ih hrest
      -- Scripts enter no tiles, so that all of them find the same ids.
      rw [hadds.tileId?_eq] at hitems
      refine ⟨⟨script, p⟩ :: items, rfl, ?_, ?_, hadds.trans hadds'⟩
      . simp [hc, hdone]
      . simpa [hp] using hitems

end Compilation

end PulpGame
