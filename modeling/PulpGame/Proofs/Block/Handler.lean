import PulpGame.Proofs.Block.Body
import PulpGame.Script.Compilation

namespace PulpGame.Block

open Json (Value)

def handlerPlace (script event : String) : Lua.Term :=
  .index (.invoke (.name "__pulp") "getScript" [.string script]) (.string event)

def handlerFunction (body : List Lua.Statement) : Lua.Term :=
  .function ["__self", "event"] false body

theorem runs_handler {site : Site} {blocks : List Value} {root : Nat} {notes notes' : List Note}
    {st : Lua.Stat} (h : Runs (handler site blocks root) notes st notes')
    : ∃ body new, notes' = notes ++ new ∧ st.Fits ∧ st.isLast = false ∧
        st.statements = [.assign [handlerPlace site.script site.event] [handlerFunction body]] ∧
        BlockMeans site blocks root body new := by
  simp only [handler, runs_bind, runs_pure] at h
  obtain ⟨body, mid, hbody, rfl, rfl⟩ := h
  obtain ⟨new, rfl, hfits, hlast, hmeans⟩ := opens site blocks _ _ _ _ _ hbody
  refine ⟨_, new, rfl, ?_, rfl, rfl, hmeans⟩
  have hscript : (Program.script site.script).Fits :=
    .invoke rfl (.name rfl) rfl (by simp [Lua.Expr.Fits.string])
  exact .assignFunction rfl (.field rfl hscript) (by decide) hfits (body_last hlast)

theorem run_blockCompiler (script event : String) (blocks : List Value) (root : Nat)
    (ledger : Ledger)
    : (blockCompiler script event blocks root).run.run ((), ledger) =
        match outcome (handler ⟨script, event, ledger.tileId?⟩ blocks root) [] with
        | (.ok st, notes) =>
          (.ok (Lua.chunkText [st]), (), { ledger with notes := ledger.notes ++ notes })
        | (.error fault, notes) =>
          (.error (.malformedBlock script event fault), (),
            { ledger with notes := ledger.notes ++ notes }) := by
  have hledger : outcome (Compiling.ledger : Compiling Unit Ledger) ((), ledger) =
    (.ok ledger, (), ledger) := rfl
  change outcome (blockCompiler script event blocks root) ((), ledger) = _
  rw [blockCompiler, outcome_bind, hledger]
  dsimp only
  rcases hrun : outcome (handler ⟨script, event, ledger.tileId?⟩ blocks root) [] with
    ⟨fault | st, notes⟩
  all_goals
    unfold outcome at hrun
    rw [hrun]
    rfl

theorem blockCompiler_eq_ok {script event text : String} {blocks : List Value} {root : Nat}
    {ledger ledger' : Ledger}
    (h : (blockCompiler script event blocks root).run.run ((), ledger) = (.ok text, (), ledger'))
    : ∃ st notes, Runs (handler ⟨script, event, ledger.tileId?⟩ blocks root) [] st notes ∧
        text = Lua.chunkText [st] ∧ ledger' = { ledger with notes := ledger.notes ++ notes } := by
  rw [run_blockCompiler] at h
  split at h
  . next st notes hrun =>
    cases h
    exact ⟨st, notes, hrun, rfl, rfl⟩
  . cases h

/-- The text of a handler is parsed as the function that its block stands for, stored under the
event of the script. -/
theorem parse_handler {script event text : String} {blocks : List Value} {root : Nat}
    {ledger ledger' : Ledger}
    (h : (blockCompiler script event blocks root).run.run ((), ledger) = (.ok text, (), ledger'))
    : ∃ body notes, Lua.parse text =
          some [.assign [handlerPlace script event] [handlerFunction body]] ∧
        BlockMeans ⟨script, event, ledger.tileId?⟩ blocks root body notes ∧
        ledger' = { ledger with notes := ledger.notes ++ notes } := by
  obtain ⟨st, notes, hrun, rfl, rfl⟩ := blockCompiler_eq_ok h
  obtain ⟨body, new, rfl, hfits, hlast, hstatements, hmeans⟩ := runs_handler hrun
  refine ⟨body, _, ?_, hmeans, rfl⟩
  rw [Lua.parse_chunk (by simpa using hfits) (by simp)]
  simp [Lua.Stat.statementsAll, hstatements]

theorem parse_gate_handler
    : let blocks : List Value :=
        [.list [.list [.text "if", .list [.text "var", .text "gold"], blockRef 1, blockRef 2]],
          .list [.list [.text "set", .text "end",
            .list [.text "-", .number (.integer (-3)), .number (.integer (-4))]]],
          .list [.list [.text "mimic", .text "wall"]]]
      let text := "__pulp:getScript(\"gate\")[\"on \\\"exit\\\"\"] = function(__self, event)\n" ++
        "  if gold then\n    _G[\"end\"] = (-3 - -4)\n  else\n    -- mimic \"wall\"\n  end\nend\n"
      ∃ ledger' body notes,
        (blockCompiler "gate" "on \"exit\"" blocks 0).run.run ((), {}) = (.ok text, (), ledger') ∧
          Lua.parse text = some [.assign [handlerPlace "gate" "on \"exit\""] [handlerFunction body]] ∧
          BlockMeans ⟨"gate", "on \"exit\"", fun _ => none⟩ blocks 0 body notes := by
  intro blocks text
  have htext : ((blockCompiler "gate" "on \"exit\"" blocks 0).run.run ((), {})).1.toOption =
      some text := by decide +kernel
  rcases hrun : (blockCompiler "gate" "on \"exit\"" blocks 0).run.run ((), {}) with ⟨e | t, u, ledger'⟩
  . rw [hrun] at htext
    cases htext
  . rw [hrun] at htext
    cases htext
    obtain ⟨body, notes, hparse, hmeans, -⟩ := parse_handler hrun
    exact ⟨ledger', body, notes, rfl, hparse, hmeans⟩

end PulpGame.Block
