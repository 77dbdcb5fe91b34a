import PulpGame.Proofs.Build
import PulpGame.Proofs.Block.Occurrence
import PulpGame.Proofs.Ledger

namespace PulpGame

namespace Script

def Mentions (names : Json.Value → List String) (script : Script) (n : String) : Prop :=
  ∃ event ∈ events (script.data.getD []), ∃ root, Block.ref? event.2 = some root ∧
    Block.Mentions names (blocks (script.data.getD [])) root n

/-- Every event of the script has a handler in the code, which has the places of the variables that
the blocks of the event mention, and of no other ones. -/
def IsHandled (script : Script) (c : CompiledScript) : Prop :=
  ∀ event ∈ events (script.data.getD []), ∃ root before text behind body,
    Block.ref? event.2 = some root ∧ c.code = before ++ text ++ behind ∧
      Lua.parse text = some [.assign [Block.handlerPlace c.name event.1] [Block.handlerFunction body]] ∧
      ∀ v, (Variable.place v).term ∈ Variable.statementsPlaces body ↔
        Block.Mentions Block.statementVariables (blocks (script.data.getD [])) root v

namespace Parts

variable {p : Parts} {doc : Document} {tileId? : String → Option Int} {script : Script}

theorem uses_extra {owner : Owner} {id : Int} {name : String} {extra : List Note}
    (h : IsNamed doc owner id name extra) : Block.uses extra = [] := by
  rcases h with ⟨-, rfl⟩ | ⟨-, -, rfl⟩ <;> rfl

theorem mem_handlers (h : p.Compile doc tileId? script) {event : String × Json.Value}
    : event ∈ events (script.data.getD []) ↔
        ∃ c ∈ p.handlers, event = (c.event, Block.blockRef c.root) := by
  rw [h.events_eq, List.mem_map]
  simp only [eq_comm]

theorem exists_handler_iff (h : p.Compile doc tileId? script) {P : List Note → Prop}
    {R : Nat → Prop}
    (hblock : ∀ event root body notes,
      Block.BlockMeans ⟨p.name, event, tileId?⟩ (blocks (script.data.getD [])) root body notes →
        (P notes ↔ R root))
    : (∃ c ∈ p.handlers, P c.notes) ↔
        ∃ event ∈ events (script.data.getD []), ∃ root, Block.ref? event.2 = some root ∧ R root := by
  have hhandler (c : CompiledHandler) (hc : c ∈ p.handlers) : P c.notes ↔ R c.root := by
    obtain ⟨body, new, hnotes, -, -, -, hmeans⟩ := Block.runs_handler (h.handlers_compile c hc)
    rw [hnotes]
    exact hblock _ _ _ _ hmeans
  constructor
  . rintro ⟨c, hc, hP⟩
    exact ⟨_, (mem_handlers h).mpr ⟨c, hc, rfl⟩, c.root, rfl, (hhandler c hc).mp hP⟩
  . rintro ⟨event, hevent, root, hroot, hR⟩
    obtain ⟨c, hc, rfl⟩ := (mem_handlers h).mp hevent
    rw [Block.ref?_blockRef] at hroot
    cases hroot
    exact ⟨c, hc, (hhandler c hc).mpr hR⟩

theorem mem_uses (h : p.Compile doc tileId? script) (v : String)
    : v ∈ Block.uses p.notes ↔ script.Mentions Block.statementVariables v := by
  rw [notes, Block.uses_append, uses_extra h.named, List.nil_append, Block.uses_flatMap,
    List.mem_flatMap]
  exact exists_handler_iff h fun _ _ _ _ hmeans => hmeans.mem_uses v

theorem isHandled (h : p.Compile doc tileId? script) : script.IsHandled (p.compiled script.id) := by
  intro event hevent
  obtain ⟨c, hc, rfl⟩ := (mem_handlers h).mp hevent
  obtain ⟨body, new, -, hfits, -, hstatements, hmeans⟩ :=
    Block.runs_handler (h.handlers_compile c hc)
  obtain ⟨front, others, hsplit⟩ := List.append_of_mem hc
  let written (hs : List CompiledHandler) : String :=
    String.join (hs.map fun h => "\n" ++ Lua.chunkText [h.code])
  refine ⟨c.root, Lua.chunkText (registration p.name p.owner script.id) ++ written front ++ "\n",
    Lua.chunkText [c.code], written others, body, rfl, ?_, ?_, hmeans.mem_places⟩
  . simp [written, compiled, codeText, hsplit, String.append_assoc]
  . rw [Lua.parse_chunk (by simpa using hfits) (by simp)]
    simp [Lua.Stat.statementsAll, hstatements, compiled]

end Parts

end Script

namespace Document

def Mentions (names : Json.Value → List String) (doc : Document) (n : String) : Prop :=
  ∃ script ∈ doc.scripts, script.Mentions names n

end Document

theorem Compilation.mem_uses {doc : Document} {tileId? : String → Option Int} {items : List Item}
    (h : ∀ i ∈ items, i.parts.Compile doc tileId? i.script) (v : String)
    : v ∈ Block.uses (items.flatMap (·.parts.notes)) ↔
        ∃ script ∈ items.map (·.script), script.Mentions Block.statementVariables v := by
  rw [Block.uses_flatMap, List.mem_flatMap]
  simp only [List.mem_map, exists_exists_and_eq_and]
  apply exists_congr
  intro i
  apply and_congr_right
  intro hi
  exact Script.Parts.mem_uses (h i hi) v

namespace Makings.Make

variable {doc : Document} {m : Makings doc} {settings : Settings} {product : Product}

theorem mem_uses (h : m.Make settings product) (v : String)
    : v ∈ m.ledger.uses ↔ doc.Mentions Block.statementVariables v := by
  rw [Document.Mentions, h.scripts_eq]
  exact Compilation.mem_uses h.items_compile v

theorem isHandled (h : m.Make settings product)
    : List.Forall₂ Script.IsHandled doc.scripts
        (m.sections settings product.storage).scripts := by
  rw [h.scripts_eq, sections, List.forall₂_map_left_iff, List.forall₂_map_right_iff,
    List.forall₂_same]
  intro i hi
  exact Script.Parts.isHandled (h.items_compile i hi)

end Makings.Make

end PulpGame
