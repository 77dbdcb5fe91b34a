import PulpGame.Proofs.Document.Keys
import PulpGame.Proofs.Document.Validity

namespace PulpGame

open Lua (chunkText)

theorem find?_eq_of_perm {α : Type} {p : α → Bool} {as bs : List α} (h : as.Perm bs)
    (hunique : ∀ a ∈ as, ∀ b ∈ as, p a → p b → a = b) : as.find? p = bs.find? p := by
  cases has : as.find? p with
  | none =>
    rw [List.find?_eq_none] at has
    symm
    rw [List.find?_eq_none]
    exact fun b hb => has b (h.mem_iff.mpr hb)
  | some a =>
    have ha := List.mem_of_find?_eq_some has
    have hpa := List.find?_some has
    cases hbs : bs.find? p with
    | none =>
      rw [List.find?_eq_none] at hbs
      exact absurd hpa (hbs a (h.mem_iff.mp ha))
    | some b =>
      have hb := h.mem_iff.mpr (List.mem_of_find?_eq_some hbs)
      rw [hunique a ha b hb hpa (List.find?_some hbs)]

namespace Script

structure Permutes (s s' : Script) : Prop where
  id_eq : s.id = s'.id
  kind_eq : s.kind = s'.kind
  data : (s.data.getD []).Perm (s'.data.getD [])

/-- The entries have different keys, as they do whenever a script is read out of a text. -/
structure Reorders (s s' : Script) : Prop extends s.Permutes s' where
  keys : Json.HasKeysOnce (s.data.getD [])

namespace Reorders

variable {s s' : Script} (h : s.Reorders s')

include h

theorem symm : s'.Reorders s where
  id_eq := h.id_eq.symm
  kind_eq := h.kind_eq.symm
  data := h.data.symm
  keys := (h.data.map Prod.fst).nodup_iff.mp h.keys

theorem blocks_eq : blocks (s.data.getD []) = blocks (s'.data.getD []) := by
  unfold blocks
  rw [find?_eq_of_perm h.data]
  intro a ha b hb hkey hkey'
  apply List.inj_on_of_nodup_map h.keys ha hb
  rw [eq_of_beq hkey, eq_of_beq hkey']

theorem events_perm : (events (s.data.getD [])).Perm (events (s'.data.getD [])) :=
  h.data.filter _

theorem isValid (hvalid : s.IsValid) : s'.IsValid where
  owner := h.kind_eq ▸ hvalid.owner
  events event hevent := by
    rw [← h.blocks_eq]
    exact hvalid.events event (h.events_perm.mem_iff.mpr hevent)

theorem mentions {names : Json.Value → List String} {n : String} (hn : s.Mentions names n)
    : s'.Mentions names n := by
  obtain ⟨event, hevent, root, hroot, hmentions⟩ := hn
  rw [h.blocks_eq] at hmentions
  exact ⟨event, h.events_perm.mem_iff.mp hevent, root, hroot, hmentions⟩

end Reorders

end Script

namespace Document

variable {doc : Document}

def entered (doc : Document) : Ledger where
  tiles := (doc.tiles.filterMap id).map fun t => (t.name, t.id)

def compiled (doc : Document) (script : Script) : CompiledScript :=
  match (outcome (script.compile doc blockCompiler) ((), doc.entered)).1 with
  | .ok (c, _) => c
  | .error _ => default

def notes (doc : Document) (script : Script) : List Note :=
  (outcome (script.compile doc blockCompiler) ((), doc.entered)).2.2.notes

def eventText (doc : Document) (script : String) (blocks : List Json.Value)
    (event : String × Json.Value) : String :=
  match (outcome (Script.compileEvent blockCompiler script blocks event) ((), doc.entered)).1 with
  | .ok text => text
  | .error _ => ""

def handlersText (doc : Document) (script : String) (blocks : List Json.Value)
    (data : List (String × Json.Value)) : String :=
  String.join ((Script.events data).map fun event => "\n" ++ doc.eventText script blocks event)

end Document

namespace Script

theorem IsNamed.unique {doc : Document} {owner : Owner} {id : Int} {n n' : String}
    {extra extra' : List Note} (h : IsNamed doc owner id n extra) (h' : IsNamed doc owner id n' extra')
    : n = n' ∧ extra = extra' := by
  rcases h with ⟨hname, rfl⟩ | ⟨hname, rfl, rfl⟩ <;>
    rcases h' with ⟨hname', rfl⟩ | ⟨hname', rfl, rfl⟩ <;> simp_all

end Script

namespace CompiledHandler

def Handles (tileId? : String → Option Int) (script : String) (blocks : List Json.Value)
    (event : String × Json.Value) (c : CompiledHandler) : Prop :=
  event = (c.event, Block.blockRef c.root) ∧ c.Compiles tileId? script blocks

theorem handles_unique {tileId? : String → Option Int} {script : String} {blocks : List Json.Value}
    : Relator.RightUnique (Handles tileId? script blocks) := by
  rintro event ⟨e, root, code, notes⟩ ⟨e', root', code', notes'⟩ ⟨hevent, hc⟩ ⟨hevent', hc'⟩
  rw [hevent] at hevent'
  obtain ⟨rfl, hroot⟩ := Prod.mk.inj hevent'
  obtain rfl : root = root' := by
    have := congrArg Block.ref? hroot
    simpa [Block.ref?_blockRef] using this
  obtain ⟨rfl, rfl⟩ := runs_unique hc hc'
  rfl

theorem eventText_eq {doc : Document} {script : String} {blocks : List Json.Value}
    {c : CompiledHandler} (h : c.Compiles doc.entered.tileId? script blocks)
    : doc.eventText script blocks (c.event, Block.blockRef c.root) = chunkText [c.code] := by
  have hrun := Block.run_blockCompiler script c.event blocks c.root doc.entered
  have hcode : outcome (Block.handler ⟨script, c.event, doc.entered.tileId?⟩ blocks c.root) [] =
      (.ok c.code, c.notes) := h
  rw [hcode] at hrun
  unfold Document.eventText outcome Script.compileEvent
  rw [Block.ref?_blockRef]
  dsimp only
  rw [hrun]

end CompiledHandler

namespace Script.Parts

open CompiledHandler (Handles handles_unique eventText_eq)

variable {p p' : Parts} {doc : Document} {tileId? : String → Option Int} {s s' : Script}

theorem Compile.handles (h : p.Compile doc tileId? s)
    : List.Forall₂ (Handles tileId? p.name (blocks (s.data.getD []))) (events (s.data.getD []))
        p.handlers := by
  rw [h.events_eq, List.forall₂_map_left_iff, List.forall₂_same]
  exact fun c hc => ⟨rfl, h.handlers_compile c hc⟩

theorem Compile.reorders (h : p.Compile doc tileId? s) (h' : p'.Compile doc tileId? s')
    (hs : s.Reorders s')
    : p.name = p'.name ∧ p.owner = p'.owner ∧ p.extra = p'.extra ∧ p.handlers.Perm p'.handlers := by
  have howner : p.owner = p'.owner := by
    have := hs.kind_eq ▸ h.owner_eq
    exact Option.some.inj (this.symm.trans h'.owner_eq)
  have hnamed := h'.named
  rw [← howner, ← hs.id_eq] at hnamed
  obtain ⟨hname, hextra⟩ := h.named.unique hnamed
  have hhandles := h'.handles
  rw [← hname, ← hs.blocks_eq] at hhandles
  exact ⟨hname, howner, hextra,
    List.rel_perm_imp handles_unique h.handles hhandles hs.events_perm⟩

theorem Compile.unique (h : p.Compile doc tileId? s) (h' : p'.Compile doc tileId? s) : p = p' := by
  have howner : p.owner = p'.owner := Option.some.inj (h.owner_eq.symm.trans h'.owner_eq)
  have hnamed := h'.named
  rw [← howner] at hnamed
  obtain ⟨hname, hextra⟩ := h.named.unique hnamed
  have hhandles := h'.handles
  rw [← hname] at hhandles
  have hhandlers : p.handlers = p'.handlers :=
    List.right_unique_forall₂' handles_unique h.handles hhandles
  obtain ⟨name, owner, handlers, extra⟩ := p
  cases hname
  cases howner
  cases hhandlers
  cases hextra
  rfl

end Script.Parts

namespace Script

open CompiledHandler (eventText_eq)

variable {doc : Document} {s s' : Script}

theorem IsValid.alone (h : s.IsValid) (doc : Document)
    : ∃ p : Parts, p.Compile doc doc.entered.tileId? s ∧ doc.compiled s = p.compiled s.id ∧
        doc.notes s = p.notes := by
  obtain ⟨⟨c, count⟩, ⟨u, ledger⟩, hrun⟩ := h.total doc ((), doc.entered)
  obtain ⟨p, hp, hc, hadds⟩ := runs_compile hrun
  refine ⟨p, hp, ?_⟩
  unfold Runs at hrun
  unfold Document.compiled Document.notes
  rw [hrun]
  cases hadds
  exact ⟨hc, rfl⟩

theorem Parts.Compile.alone {p : Parts} (h : p.Compile doc doc.entered.tileId? s)
    : doc.compiled s = p.compiled s.id ∧ doc.notes s = p.notes := by
  obtain ⟨p', hp', hall⟩ := h.isValid.alone doc
  obtain rfl := h.unique hp'
  exact hall

theorem Parts.Compile.code_eq {p : Parts} (h : p.Compile doc doc.entered.tileId? s)
    : p.compiled s.id = ⟨p.name, chunkText (registration p.name p.owner s.id) ++
        doc.handlersText p.name (blocks (s.data.getD [])) (s.data.getD [])⟩ := by
  rw [compiled, codeText, Document.handlersText, h.events_eq, List.map_map]
  congr 3
  apply List.map_congr_left
  intro c hc
  rw [Function.comp_apply, eventText_eq (h.handlers_compile c hc)]

theorem IsValid.perm_notes (h : s.IsValid) (doc : Document) (hs : s.Reorders s')
    : (doc.notes s).Perm (doc.notes s') := by
  obtain ⟨p, hp, -, hnotes⟩ := h.alone doc
  obtain ⟨p', hp', -, hnotes'⟩ := (hs.isValid h).alone doc
  obtain ⟨-, -, hextra, hhandlers⟩ := hp.reorders hp' hs
  rw [hnotes, hnotes', Parts.notes, Parts.notes, hextra]
  exact (hhandlers.flatMap_right _).append_left _

theorem IsValid.compiled_eq (h : s.IsValid) (doc : Document) (hs : s.Reorders s')
    : ∃ name front,
        doc.compiled s = ⟨name, front ++
          doc.handlersText name (blocks (s.data.getD [])) (s.data.getD [])⟩ ∧
        doc.compiled s' = ⟨name, front ++
          doc.handlersText name (blocks (s.data.getD [])) (s'.data.getD [])⟩ := by
  obtain ⟨p, hp, hcode, -⟩ := h.alone doc
  obtain ⟨p', hp', hcode', -⟩ := (hs.isValid h).alone doc
  obtain ⟨hname, howner, -, -⟩ := hp.reorders hp' hs
  refine ⟨p.name, chunkText (registration p.name p.owner s.id), ?_, ?_⟩
  . rw [hcode, hp.code_eq]
  . rw [hcode', hp'.code_eq, ← hname, ← howner, ← hs.id_eq, ← hs.blocks_eq]

end Script

end PulpGame
