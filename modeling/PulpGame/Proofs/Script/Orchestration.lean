import PulpGame.Proofs.Script.Recording
import PulpGame.Proofs.Variable.Coverage

namespace PulpGame

variable {σ : Type} {doc : Document} {compiler : EventCompiler σ}

namespace Script

def registrationText (name : String) (owner : Owner) (id : Int) : String :=
  let quoted := Lua.quote name
  s!"__pulp:newScript({quoted})\n" ++
    (if Lua.isName name then s!"{name} = __pulp:getScript({quoted})\n" else "") ++
    s!"__pulp:associateScript({quoted}, {Lua.quote owner.word}, {id})\n"

theorem text_registration (name : String) (owner : Owner) (id : Int)
    : Lua.chunkText (registration name owner id) = registrationText name owner id := by
  have hbinding (rest : String)
      : " = " ++ ("__pulp:getScript(" ++ rest) = " = __pulp:getScript(" ++ rest := by
    rw [← String.append_assoc]
    rfl
  unfold registration registrationText
  split
  all_goals
    simp [Lua.chunkText, Lua.Stat.texts, Lua.Stat.text, Lua.Stat.line, Lua.Action.text,
      Program.runtimeCall, Program.runtime, Program.script, Lua.Expr.text, Lua.Expr.texts,
      String.append_assoc, toString, hbinding]

/-- The compiled script has its name, and the lines that register it with the bodies of its events
behind them, as many as there are calls for it. -/
def IsWritten (doc : Document) (script : Script) (bodies : List String) (c : CompiledScript) : Prop :=
  bodies.length = (script.calls doc).length ∧
    ∃ owner, Owner.ofNat? script.kind = some owner ∧ c.name = nameOf doc owner script.id ∧
      c.code = registrationText c.name owner script.id ++ String.join (bodies.map ("\n" ++ ·))

inductive AreWritten (doc : Document) : List Script → List String → List CompiledScript → Prop where
  | nil : AreWritten doc [] [] []
  | cons {script : Script} {scripts : List Script} {bodies others : List String}
      {c : CompiledScript} {cs : List CompiledScript} (this : script.IsWritten doc bodies c)
      (rest : AreWritten doc scripts others cs)
      : AreWritten doc (script :: scripts) (bodies ++ others) (c :: cs)

theorem length_calls (doc : Document) {script : Script} {owner : Owner}
    (h : Owner.ofNat? script.kind = some owner)
    : (script.calls doc).length =
        (events (script.data.getD [])).countP fun e => (Block.ref? e.2).isSome := by
  simp [calls, h, List.length_filterMap_eq_countP]

theorem recounts_event (name : String) (blocks : List Json.Value) (event : String × Json.Value)
    : Recounts compiler [eventTask name blocks event]
        (fun texts text => texts = [text] ∧ (Block.ref? event.2).isSome)
        (compileEvent compiler name blocks event)
        (compileEvent (recorded compiler) name blocks event) := by
  unfold eventTask compileEvent
  cases Block.ref? event.2 with
  | some root => exact (Recounts.call ⟨name, event.1, blocks, root⟩).weaken fun _ _ h => ⟨h, rfl⟩
  | none => exact .refuse

theorem recounts_events (name : String) (blocks : List Json.Value)
    (events : List (String × Json.Value))
    : Recounts compiler (events.map (eventTask name blocks))
        (fun texts bodies => texts = bodies ∧
          bodies.length = events.countP fun e => (Block.ref? e.2).isSome)
        (events.mapM (compileEvent compiler name blocks))
        (events.mapM (compileEvent (recorded compiler) name blocks)) := by
  induction events with
  | nil =>
    rw [List.mapM_nil, List.mapM_nil]
    exact .pure ⟨rfl, rfl⟩
  | cons event events ih =>
    rw [List.mapM_cons, List.mapM_cons, List.map_cons, ← List.singleton_append,
      ← List.append_nil (events.map _)]
    apply (recounts_event name blocks event).bind
    rintro _ text ⟨rfl, hsome⟩
    apply ih.bind
    rintro _ bodies ⟨rfl, hlength⟩
    exact .pure ⟨by simp, by simp [hlength, hsome]⟩

theorem recounts_name (owner : Owner) (id : Int)
    : Recounts compiler (reports doc owner id)
        (fun texts name => texts = [] ∧ name = nameOf doc owner id)
        (Script.name doc owner id) (Script.name doc owner id) := by
  unfold reports nameOf Script.name
  cases ownerName? doc owner id with
  | some name => exact .pure ⟨rfl, rfl⟩
  | none =>
    dsimp only
    rw [← List.append_nil [Task.report _]]
    apply (Recounts.report _).bind
    rintro _ _ rfl
    exact .pure ⟨rfl, rfl⟩

theorem recounts_compile (doc : Document) (compiler : EventCompiler σ) (script : Script)
    : Recounts compiler (script.tasks doc) (fun texts c => script.IsWritten doc texts c.1)
        (script.compile doc compiler) (script.compile doc (recorded compiler)) := by
  unfold tasks compile
  cases howner : Owner.ofNat? script.kind with
  | none => exact .refuse
  | some owner =>
    apply (recounts_name owner script.id).bind
    rintro _ name ⟨rfl, rfl⟩
    rw [← List.append_nil ((events _).map _)]
    apply (recounts_events _ _ _).bind
    rintro texts bodies ⟨rfl, hlength⟩
    apply Recounts.pure
    rw [List.append_nil, List.nil_append]
    refine ⟨by rw [hlength, length_calls doc howner], owner, howner, rfl, ?_⟩
    rw [text_registration]

end Script

namespace Compilation

theorem compileAll_recorded (doc : Document) (compiler : EventCompiler σ) (scripts : List Script)
    (s : σ) (record : List (Performed σ)) (ledger : Ledger)
    : ∃ performed c s' ledger',
        (compileAll doc compiler scripts).run (s, ledger) = (c, s', ledger') ∧
        (compileAll doc (recorded compiler) scripts).run ((s, record), ledger) =
          (c, (s', record ++ performed), ledger') ∧
        Performs compiler (scripts.flatMap (Script.tasks doc)) (s, ledger) performed c.failure
          (s', ledger') ∧
        (c.failure = none → ∃ texts, performed.map (·.result) = texts.map .ok ∧
          Script.AreWritten doc scripts texts (c.done.map (·.1))) := by
  -- Each script starts from the state, the record and the ledger that the one before left.
  induction scripts generalizing s record ledger with
  | nil =>
    refine ⟨[], ⟨[], none⟩, s, ledger, rfl, by rw [List.append_nil]; rfl, .done _, ?_⟩
    intro _
    exact ⟨[], rfl, .nil⟩
  | cons script scripts ih =>
    obtain ⟨performed, result, mid, ledger', hplain, hrecorded, hperforms, htexts⟩ :=
      Script.recounts_compile doc compiler script s record ledger
    rw [run_compileAll_cons, run_compileAll_cons, hplain, hrecorded, List.flatMap_cons]
    cases result with
    | error e =>
      refine ⟨performed, ⟨[], some e⟩, mid, ledger', rfl, rfl, hperforms.append_failed, ?_⟩
      intro hnone
      cases hnone
    | ok c =>
      obtain ⟨bodies, hbodies, hwritten⟩ := htexts c rfl
      obtain ⟨more, rest, s', last, hplain', hrecorded', hperforms', htexts'⟩ :=
        ih mid (record ++ performed) ledger'
      dsimp only
      rw [hplain', hrecorded', List.append_assoc]
      refine ⟨performed ++ more, { rest with done := c :: rest.done }, s', last, rfl, rfl,
        hperforms.append hperforms', ?_⟩
      intro hnone
      obtain ⟨others, hothers, hrest⟩ := htexts' hnone
      exact ⟨bodies ++ others, by rw [List.map_append, hbodies, hothers, List.map_append],
        .cons hwritten hrest⟩

structure Accounts (doc : Document) (compiler : EventCompiler σ) (s : σ) (ledger : Ledger)
    (performed : List (Performed σ)) (c : Compilation) (s' : σ) (ledger' : Ledger) : Prop where
  run_eq : (compileAll doc compiler doc.scripts).run (s, ledger) = (c, s', ledger')
  recorded_eq : (compileAll doc (recorded compiler) doc.scripts).run ((s, []), ledger) =
    (c, (s', performed), ledger')
  performs : Performs compiler doc.tasks (s, ledger) performed c.failure (s', ledger')
  calls_isPrefix : performed.map (·.call) <+: doc.calls
  isOk_iff : c.result.isOk ↔ Task.AllPossible doc.tasks ∧ performed.map (·.call) = doc.calls ∧
    ∀ p ∈ performed, p.result.isOk
  stopsAt : ∀ e, c.result = .error e → StopsAt doc.tasks performed e
  areWritten : ∀ scripts, c.result = .ok scripts → ∃ texts,
    performed.map (·.result) = texts.map .ok ∧ Script.AreWritten doc doc.scripts texts scripts

theorem accounts (doc : Document) (compiler : EventCompiler σ) (s : σ) (ledger : Ledger)
    : ∃ performed c s' ledger', Accounts doc compiler s ledger performed c s' ledger' := by
  obtain ⟨performed, ⟨done, failure⟩, s', ledger', hplain, hrecorded, hperforms, htexts⟩ :=
    compileAll_recorded doc compiler doc.scripts s [] ledger
  have hnone := hperforms.eq_none_iff
  refine ⟨performed, ⟨done, failure⟩, s', ledger', {
    run_eq := hplain
    recorded_eq := hrecorded
    performs := hperforms
    calls_isPrefix := by rw [Document.calls_eq]; exact hperforms.isPrefix
    isOk_iff := ?_
    stopsAt := ?_
    areWritten := ?_ }⟩
  . rw [Document.calls_eq, Document.tasks, ← hnone]
    cases failure <;> simp [result]
  . intro e he
    cases failure with
    | none => cases he
    | some found =>
      cases he
      exact hperforms.stopsAt
  . intro scripts hok
    obtain ⟨rfl, rfl⟩ := result_eq_ok hok
    exact htexts rfl

end Compilation

/-- Whatever an event compiler does, it is called for the events of the scripts of a document in their
order, up to the first failure: that of a script without an owner, of an event that refers to no
block, or of a call. If there is none, each script becomes the lines that register it with the bodies
of its events behind them. A game that is built has the variables that some call left a use of. -/
theorem compiler_calls (doc : Document) (compiler : EventCompiler σ)
    : (∀ s ledger, ∃ performed c s' ledger',
        Compilation.Accounts doc compiler s ledger performed c s' ledger') ∧
      ∀ settings product s s' journal journal',
        Runs (doc.buildWith settings compiler) (s, journal) product (s', journal') →
          ∃ performed c ledger',
            Compilation.Accounts doc compiler s
              { tiles := (doc.tiles.filterMap id).map fun t => (t.name, t.id) } performed c s'
              ledger' ∧
            c.result.isOk ∧ product.storage.all.Nodup ∧
            (∀ v, v ∈ product.storage.all ↔ v ∈ ledger'.uses) ∧
            (∀ v ∈ product.storage.all, ∃ p ∈ performed, p.AddsUse v) ∧
            ((∀ p ∈ performed, p.KeepsUses) →
              ∀ v, (∃ p ∈ performed, p.AddsUse v) → v ∈ product.storage.all) := by
  refine ⟨Compilation.accounts doc compiler, ?_⟩
  intro settings product s s' journal journal' hbuild
  obtain ⟨records, done, ledger, hpasses⟩ := Document.runs_buildWith hbuild
  obtain ⟨performed, c, s'', ledger', haccounts⟩ := Compilation.accounts doc compiler s
    { tiles := (doc.tiles.filterMap id).map fun t => (t.name, t.id) }
  -- the scripts are compiled in one way only: what the build came to is what was recorded
  have hrun := haccounts.run_eq
  rw [hpasses.compileAll_eq] at hrun
  cases hrun
  have hmem (v : String) : v ∈ product.storage.all ↔ v ∈ ledger.uses := by
    rw [Variable.Storage.mem_all_of_allot hpasses.allot_eq, Ledger.usage_names, mem_sortedOnce]
  refine ⟨performed, _, ledger, haccounts, rfl, ?_, hmem, ?_, ?_⟩
  . apply Variable.Storage.nodup_of_allot hpasses.allot_eq
    rw [Ledger.usage_names]
    exact nodup_sortedOnce _
  . intro v hv
    apply haccounts.performs.exists_addsUse
    exact List.count_pos_iff.mpr ((hmem v).mp hv)
  . intro hkeep v hadds
    rw [hmem, ← List.count_pos_iff]
    exact haccounts.performs.count_pos hkeep hadds

theorem compiler_calls_coins
    : ∃ product last, Runs (coinDocument.buildWith {} blockCompiler) ((), []) product last ∧
        ∃ performed c ledger', Compilation.Accounts coinDocument blockCompiler () {} performed c ()
          ledger' ∧ c.result.isOk ∧ performed.map (·.call) = coinDocument.calls ∧
          ∃ p ∈ performed, p.AddsUse "keys.gold" := by
  obtain ⟨product, journal', hbuild, hstorage⟩ := coinDocument_builds
  obtain ⟨u, hrun⟩ := Document.runs_build hbuild
  obtain ⟨performed, c, ledger', haccounts, hok, -, -, huses, -⟩ :=
    (compiler_calls coinDocument blockCompiler).2 _ _ _ _ _ _ hrun
  refine ⟨product, _, hrun, performed, c, ledger', haccounts, hok, ?_, ?_⟩
  . exact (haccounts.isOk_iff.mp hok).2.1
  . exact huses "keys.gold" (by rw [hstorage]; simp [Variable.Storage.all])

def eventsDocument (update : Json.Value) : Document where
  name := "events"
  player := ⟨0, 0, 0, 0⟩
  font := ⟨1, [], []⟩
  frames := []
  tiles := []
  rooms := []
  sounds := []
  scripts := [⟨0, 0, some [("load", Block.blockRef 0), ("update", update)]⟩]

def forgetful : EventCompiler Unit := fun _ event _ _ => do
  if event = "load" then Compiling.note (.use "score") else Compiling.modifyLedger fun _ => {}
  return ""

theorem calls_made_in_vain
    : (∃ performed c s' ledger', (Compilation.compileAll (eventsDocument .null) (recorded forgetful)
          (eventsDocument .null).scripts).run (((), []), {}) = (c, (s', performed), ledger') ∧
        performed.map (·.call) = (eventsDocument .null).calls ∧ ¬c.result.isOk) ∧
      ∃ doc product last, Runs (Document.buildWith doc {} forgetful) ((), []) product last ∧
        ∃ performed c s' ledger', (Compilation.compileAll doc (recorded forgetful) doc.scripts).run
            (((), []), {}) = (c, (s', performed), ledger') ∧
          (∃ p ∈ performed, p.AddsUse "score") ∧ "score" ∉ product.storage.all := by
  refine ⟨⟨_, _, _, _, rfl, rfl, by simp [Compilation.result]⟩, ?_⟩
  have hcompiles : (eventsDocument (Block.blockRef 0)).compilesWith forgetful () [] := by
    decide +kernel
  obtain ⟨product, last, hrun, hstorage⟩ :=
    Document.buildWith_succeeds hcompiles (Variable.Storage.allot_nothing _)
  refine ⟨eventsDocument (Block.blockRef 0), product, last, hrun, _, _, _, _, rfl,
    ⟨_, List.mem_cons_self, ?_⟩, ?_⟩
  . unfold Performed.AddsUse
    decide
  . rw [hstorage]
    simp [Variable.Storage.all]

end PulpGame
