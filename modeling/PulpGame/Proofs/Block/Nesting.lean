import PulpGame.Proofs.Block.Acceptance
/-!
How deep blocks are written one within another.

A block is open from its first statement to its last one, and no open block is opened again. So no
more blocks are open at a time than there are: a bound on the nesting that is as high is no bound.
-/

namespace PulpGame.Block

open Json (Value)

/-- The block of that number, with those that are open around it on record. It is opened only if
there are levels left; what comes of a block that lies deeper is given. -/
def nested (site : Site) (bodies : List Body) (deeper : Noting (List Lua.Stat)) (levels : Nat)
    (opened : List Nat) (index : Nat) : Noting (List Lua.Stat) :=
  match bodies[index]? with
  | none => throw (.missingBlock index)
  | some none => throw (.notAList index)
  | some (some statements) =>
    if index ∈ opened then throw (.containsItself index)
    else
      match levels with
      | 0 => deeper
      | levels + 1 =>
        statements.mapM
          (Statement.toLua site fun i => nested site bodies deeper levels (index :: opened) i)

def nestedHandler (site : Site) (blocks : List Value) (deeper : Noting (List Lua.Stat))
    (levels : Nat) (root : Nat) : Noting Lua.Stat := do
  let body ← nested site (blocks.map Body.ofValue) deeper levels [] root
  return .assignFunction (.field (Program.script site.script) site.event) ["__self", "event"] body

variable {site : Site} {bodies : List Body} {deeper : Noting (List Lua.Stat)}

theorem nested_eq_toLua {levels : Nat} {opened closed : List Nat} (hnodup : closed.Nodup)
    (hclosed : ∀ i, i ∈ closed ↔ i < bodies.length ∧ i ∉ opened) (hlevels : closed.length ≤ levels)
    (index : Nat)
    : nested site bodies deeper levels opened index = toLua site bodies closed index := by
  rw [nested.eq_def, toLua.eq_def]
  rcases hbody : bodies[index]? with _ | _ | statements
  . rfl
  . rfl
  . dsimp only
    by_cases hopened : index ∈ opened
    . have hnot : index ∉ closed := fun hmem => ((hclosed index).mp hmem).2 hopened
      rw [if_pos hopened, dif_neg hnot]
    . have hmem : index ∈ closed :=
        (hclosed index).mpr ⟨(List.getElem?_eq_some_iff.mp hbody).1, hopened⟩
      have hlength := List.length_erase_of_mem hmem
      have hpos := List.length_pos_of_mem hmem
      rw [if_neg hopened, dif_pos hmem]
      -- The block itself is not closed any more, so one level less is enough for those in it.
      cases levels with
      | zero => omega
      | succ levels =>
        have herase (i : Nat)
            : i ∈ closed.erase index ↔ i < bodies.length ∧ i ∉ index :: opened := by
          rw [hnodup.mem_erase_iff, hclosed, List.mem_cons, not_or]
          tauto
        have hshorter : (closed.erase index).length ≤ levels := by omega
        simp only [nested_eq_toLua (hnodup.erase index) herase hshorter]
termination_by closed.length

theorem nestedHandler_eq_handler (site : Site) (blocks : List Value)
    (deeper : Noting (List Lua.Stat)) (root : Nat)
    : nestedHandler site blocks deeper blocks.length root = handler site blocks root := by
  have hclosed (i : Nat) : i ∈ List.range blocks.length ↔
      i < (blocks.map Body.ofValue).length ∧ i ∉ ([] : List Nat) := by
    simp
  have hlevels : (List.range blocks.length).length ≤ blocks.length := by simp
  rw [nestedHandler, nested_eq_toLua List.nodup_range hclosed hlevels, handler]

theorem blockCompiler_eq_error {script event : String} {blocks : List Value} {root : Nat}
    {ledger ledger' : Ledger} {e : Failure}
    (h : (blockCompiler script event blocks root).run.run ((), ledger) = (.error e, (), ledger'))
    : ∃ fault, e = .malformedBlock script event fault := by
  rw [run_blockCompiler] at h
  split at h
  . cases h
  . next fault notes hrun =>
    cases h
    exact ⟨fault, rfl⟩

/-- An event is compiled exactly if the blocks that can be reached are well-formed and none of them
can reach itself. Until this is decided, never more blocks are nested than there are. Every failure
names the script and the event. -/
theorem event_compiles_iff (script event : String) (blocks : List Value) (root : Nat)
    (ledger : Ledger)
    : let site : Site := ⟨script, event, ledger.tileId?⟩
      let result := ((blockCompiler script event blocks root).run.run ((), ledger)).1
      (∀ deeper, nestedHandler site blocks deeper blocks.length root = handler site blocks root) ∧
        (result.isOk ↔ IsWellFormed blocks root) ∧
        ∀ e, result = .error e → ∃ fault, e = .malformedBlock script event fault := by
  intro site result
  refine ⟨fun deeper => nestedHandler_eq_handler site blocks deeper root,
    isOk_blockCompiler script event blocks root ledger, ?_⟩
  intro e he
  rcases hrun : (blockCompiler script event blocks root).run.run ((), ledger) with ⟨r, u, ledger'⟩
  have hresult : r = .error e := by
    rw [← he]
    exact (congrArg Prod.fst hrun).symm
  rw [hresult] at hrun
  exact blockCompiler_eq_error hrun

example
    : let blocks : List Value := [.list [.list [.text "if", .boolean true, blockRef 1, blockRef 1]],
        .list [.list [.text "done"]]]
      ((blockCompiler "gate" "enter" blocks 0).run.run ((), {})).1.isOk := by
  decide +kernel

end PulpGame.Block
