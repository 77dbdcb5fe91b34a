import PulpGame.Proofs.Script.Compilation
import PulpGame.Proofs.Script.Task

namespace PulpGame

variable {σ α β : Type} {compiler : EventCompiler σ}

def recorded (compiler : EventCompiler σ) : EventCompiler (σ × List (Performed σ)) :=
  fun script event blocks root => ExceptT.mk fun ((s, record), ledger) =>
    let (result, after) := outcome (compiler script event blocks root) (s, ledger)
    let call : Call := ⟨script, event, blocks, root⟩
    (result, (after.1, record ++ [⟨call, (s, ledger), result, after⟩]), after.2)

theorem outcome_recorded (compiler : EventCompiler σ) (c : Call) (s : σ)
    (record : List (Performed σ)) (ledger : Ledger)
    : outcome (c.run (recorded compiler)) ((s, record), ledger) =
        let (result, after) := outcome (c.run compiler) (s, ledger)
        (result, (after.1, record ++ [⟨c, (s, ledger), result, after⟩]), after.2) :=
  rfl

def failure? {ε : Type} : Except ε α → Option ε
  | .ok _ => none
  | .error e => some e

/-- The second computation does what the first one does, and both do these tasks: what the calls give
back fits the value, and the second one records them. -/
def Recounts (compiler : EventCompiler σ) (tasks : List Task) (fits : List String → α → Prop)
    (plain : Compiling σ α) (recording : Compiling (σ × List (Performed σ)) α) : Prop :=
  ∀ s record ledger, ∃ performed result s' ledger',
    outcome plain (s, ledger) = (result, s', ledger') ∧
    outcome recording ((s, record), ledger) = (result, (s', record ++ performed), ledger') ∧
    Performs compiler tasks (s, ledger) performed (failure? result) (s', ledger') ∧
    ∀ a, result = .ok a → ∃ texts, performed.map (·.result) = texts.map .ok ∧ fits texts a

namespace Recounts

theorem pure {a : α} {fits : List String → α → Prop} (h : fits [] a)
    : Recounts compiler [] fits (Pure.pure a) (Pure.pure a) := by
  intro s record ledger
  refine ⟨[], .ok a, s, ledger, rfl, by rw [List.append_nil]; rfl, .done _, ?_⟩
  intro b hb
  cases hb
  exact ⟨[], rfl, h⟩

theorem report (text : String)
    : Recounts compiler [.report text] (fun texts _ => texts = [])
        (Compiling.note (.diagnostic text)) (Compiling.note (.diagnostic text)) := by
  intro s record ledger
  refine ⟨[], .ok (), s, ledger.note (.diagnostic text), rfl, by rw [List.append_nil]; rfl,
    .report (.done _), ?_⟩
  intro _ _
  exact ⟨[], rfl, rfl⟩

theorem refuse {e : Failure} {fits : List String → α → Prop}
    : Recounts compiler [.refuse e] fits (throw e) (throw e) := by
  intro s record ledger
  refine ⟨[], .error e, s, ledger, rfl, by rw [List.append_nil]; rfl, .refuse _ _ _, ?_⟩
  intro _ h
  cases h

theorem call (c : Call)
    : Recounts compiler [.call c] (fun texts text => texts = [text]) (c.run compiler)
        (c.run (recorded compiler)) := by
  intro s record ledger
  rcases hcall : outcome (c.run compiler) (s, ledger) with ⟨result, s', ledger'⟩
  refine ⟨_, result, s', ledger', rfl, by rw [outcome_recorded, hcall], ?_, ?_⟩
  . cases result with
    | ok text => exact .call hcall (.done _)
    | error e => exact .fail hcall
  . rintro text rfl
    exact ⟨[text], rfl, rfl⟩

theorem bind {tasks others : List Task} {first : List String → α → Prop}
    {second : List String → β → Prop} {plain : Compiling σ α} {f : α → Compiling σ β}
    {recording : Compiling (σ × List (Performed σ)) α}
    {g : α → Compiling (σ × List (Performed σ)) β}
    (h : Recounts compiler tasks first plain recording)
    (hrest : ∀ front a, first front a →
      Recounts compiler others (fun back b => second (front ++ back) b) (f a) (g a))
    : Recounts compiler (tasks ++ others) second (plain >>= f) (recording >>= g) := by
  intro s record ledger
  obtain ⟨performed, result, mid, ledger', hplain, hrecording, hperforms, htexts⟩ := h s record ledger
  rw [outcome_bind, outcome_bind, hplain, hrecording]
  cases result with
  | error e =>
    refine ⟨performed, .error e, mid, ledger', rfl, rfl, hperforms.append_failed, ?_⟩
    intro _ herror
    cases herror
  | ok a =>
    obtain ⟨front, hfront, hfirst⟩ := htexts a rfl
    obtain ⟨more, result, s', last, hplain', hrecording', hperforms', htexts'⟩ :=
      hrest front a hfirst mid (record ++ performed) ledger'
    refine ⟨performed ++ more, result, s', last, hplain', ?_, hperforms.append hperforms', ?_⟩
    . rw [← List.append_assoc]
      exact hrecording'
    . intro b hb
      obtain ⟨back, hback, hsecond⟩ := htexts' b hb
      exact ⟨front ++ back, by rw [List.map_append, hfront, hback, List.map_append], hsecond⟩

theorem weaken {tasks : List Task} {fits fits' : List String → α → Prop} {plain : Compiling σ α}
    {recording : Compiling (σ × List (Performed σ)) α}
    (h : Recounts compiler tasks fits plain recording) (hfits : ∀ texts a, fits texts a → fits' texts a)
    : Recounts compiler tasks fits' plain recording := by
  intro s record ledger
  obtain ⟨performed, result, s', ledger', hplain, hrecording, hperforms, htexts⟩ := h s record ledger
  refine ⟨performed, result, s', ledger', hplain, hrecording, hperforms, ?_⟩
  intro a ha
  obtain ⟨texts, hresults, hfits'⟩ := htexts a ha
  exact ⟨texts, hresults, hfits texts a hfits'⟩

end Recounts

end PulpGame
