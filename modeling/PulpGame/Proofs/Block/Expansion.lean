import PulpGame.Proofs.Block.Acceptance
import PulpGame.Proofs.Ledger

namespace PulpGame.Block

open Json (Value)

def statementsOf (blocks : List Value) (i : Nat) : List Value :=
  match blocks[i]? with
  | some (.list items) => items
  | _ => []

/-- The statements of a block, each followed by those of the blocks that it refers to, up to a depth
of blocks within blocks. -/
def expansionTo (blocks : List Value) : Nat → Nat → List Value
  | 0, _ => []
  | levels + 1, i =>
    (statementsOf blocks i).flatMap fun s => s :: (references s).flatMap (expansionTo blocks levels)

/-- The statements of a block in the order in which they are written, those of the blocks that a
statement refers to in the place of the references. Blocks without cycles are not nested deeper than
there are blocks. -/
def expansion (blocks : List Value) (i : Nat) : List Value := expansionTo blocks blocks.length i

variable {site : Site} {blocks : List Value} {i : Nat}

theorem statementsOf_eq {items : List Value} (h : blocks[i]? = some (.list items))
    : statementsOf blocks i = items := by
  rw [statementsOf, h]

namespace IsWellFormed

theorem expansionTo_eq {closed : List Nat} (h : IsWellFormed blocks i)
    (hclosed : ∀ k, Relation.ReflTransGen (Refers blocks) i k → k ∈ closed)
    : ∀ m n, closed.length ≤ m → closed.length ≤ n →
        expansionTo blocks m i = expansionTo blocks n i := by
  refine closed_induction (P := fun closed i => ∀ m n, closed.length ≤ m → closed.length ≤ n →
    expansionTo blocks m i = expansionTo blocks n i) ?_ h hclosed
  intro closed i items hmem hitems _ ih m n hm hn
  -- The block is one of those that are not open, so there is a level for it on both sides.
  have hlength := List.length_erase_of_mem hmem
  have hpos := List.length_pos_of_mem hmem
  obtain ⟨m, rfl⟩ := Nat.exists_eq_add_one.mpr (Nat.lt_of_lt_of_le hpos hm)
  obtain ⟨n, rfl⟩ := Nat.exists_eq_add_one.mpr (Nat.lt_of_lt_of_le hpos hn)
  rw [expansionTo, expansionTo, statementsOf_eq hitems]
  apply List.flatMap_congr
  intro s hs
  congr 1
  apply List.flatMap_congr
  intro j hj
  exact ih s hs j hj m n (by omega) (by omega)

theorem expansion_eq (h : IsWellFormed blocks i)
    : expansion blocks i = (statementsOf blocks i).flatMap fun s =>
        s :: (references s).flatMap (expansion blocks) := by
  have hclosed (k : Nat) (hk : Relation.ReflTransGen (Refers blocks) i k)
      : k ∈ List.range blocks.length := List.mem_range.mpr (h.lt_length hk)
  exact h.expansionTo_eq hclosed blocks.length (blocks.length + 1) (by simp) (by simp)

end IsWellFormed

mutual

def operations : Value → List (String × List Value)
  | .list (.text word :: operands) =>
    (word, operands) :: ((operandOperations operands).take (arity word operands.length)).flatten
  | _ => []

def operandOperations : List Value → List (List (String × List Value))
  | [] => []
  | v :: vs => operations v :: operandOperations vs

end

def operationReport? (site : Site) (operation : String × List Value) : Option String :=
  match operation with
  | ("id", .text name :: _) =>
    if (site.tileId? name).isNone then some s!"unknown tile `{name}`" else none
  | (word, _) => if isExprWord word then none else (site.unsupported "expression" word).text?

def exprReports (site : Site) (v : Value) : List String :=
  (operations v).filterMap (operationReport? site)

def statementReports (site : Site) : Value → List String
  | .list (.text word :: operands) =>
    if word ∈ statementWords then (exprOperands word operands).flatMap (exprReports site)
    else (site.unsupported "statement" word).text?.toList
  | _ => []

def mimicTargets : Value → List String
  | .list (.text "mimic" :: .text target :: _) => [target]
  | _ => []

theorem operandOperations_eq (vs : List Value) : operandOperations vs = vs.map operations := by
  induction vs with
  | nil => rfl
  | cons v vs ih => rw [operandOperations, ih, List.map_cons]

theorem operationReport?_of_ne {word : String} (hword : isExprWord word) (hne : word ≠ "id")
    (operands : List Value) : operationReport? site (word, operands) = none := by
  unfold operationReport?
  split
  . next heq =>
    cases heq
    exact absurd rfl hne
  . next heq =>
    cases heq
    rw [if_pos hword]

theorem ne_id_of_operator {word : String} (h : (Operator.ofWord? word).isSome) : word ≠ "id" := by
  rintro rfl
  cases h

theorem ne_id_of_function {word : String} (h : (Function.ofWord? word).isSome) : word ≠ "id" := by
  rintro rfl
  cases h

theorem operationReport?_unknown {word : String} (hword : isExprWord word = false)
    (operands : List Value)
    : operationReport? site (word, operands) = (site.unsupported "expression" word).text? := by
  unfold operationReport?
  split
  . next heq =>
    cases heq
    cases hword
  . next heq =>
    cases heq
    rw [hword]
    rfl

theorem exprReports_known {word : String} (hword : isExprWord word) (hne : word ≠ "id")
    (operands : List Value)
    : exprReports site (.list (.text word :: operands)) =
        (operands.take (arity word operands.length)).flatMap (exprReports site) := by
  rw [exprReports, operations, List.filterMap_cons, operationReport?_of_ne hword hne,
    operandOperations_eq, ← List.map_take, ← List.flatMap_def, List.filterMap_flatMap]
  rfl

theorem ExprMeans.reports_eq {v : Value} {t : Lua.Term} {notes : List Note}
    (h : ExprMeans site v t notes)
    : notes.filterMap Note.text? = exprReports site v := by
  induction h with
  | number | text | boolean | null => rfl
  | var | event | formatNothing =>
    rw [exprReports_known rfl (by decide)]
    rfl
  | tile h | unknownTile h =>
    simp [exprReports, operations, arity, Operator.ofWord?, Function.ofWord?, operationReport?, h,
      Note.text?]
  | @format parts hne h ih =>
    rw [exprReports_known rfl (by decide), List.filterMap_flatMap, arity, if_pos rfl,
      List.take_length, List.flatMap_map]
    exact List.flatMap_congr ih
  | binary hword hx hy ihx ihy =>
    have hid := ne_id_of_operator hword
    rw [exprReports_known (by simp [isExprWord, hword]) hid, (arity_operator hword _).1]
    simp [ihx, ihy]
  | apply hword hx ih =>
    have hid := ne_id_of_function hword
    rw [exprReports_known (by simp [isExprWord, hword]) hid, (arity_function hword _).1]
    simp [ih]
  | random hx hy ihx ihy =>
    rw [exprReports_known rfl (by decide)]
    simp [arity, ihx, ihy]
  | unsupported hword =>
    rw [exprReports, operations, (arity_unsupported hword _).1, List.take_zero, List.flatten_nil]
    simp only [List.filterMap_cons, operationReport?_unknown hword]
    rfl

theorem StatementMeans.reports_eq {v : Value} {opened : List Opened} {code : List Lua.Statement}
    {notes : List Note} (h : StatementMeans site v opened code notes)
    : notes.filterMap Note.text? =
        statementReports site v ++ opened.flatMap fun b => b.notes.filterMap Note.text? := by
  cases h with
  | set hx =>
    simp [statementReports, statementWords, exprOperands, hx.reports_eq, Note.text?]
  | increment | decrement =>
    simp [statementReports, statementWords, exprOperands, Note.text?]
  | update hword hx =>
    rcases updateOf?_cases hword with rfl | rfl | rfl | rfl <;>
      simp [statementReports, statementWords, exprOperands, hx.reports_eq, Note.text?]
  | branch hx | branchElse hx | loop hx | log hx | say hx | sound hx =>
    simp [statementReports, statementWords, exprOperands, hx.reports_eq]
  | mimic | done | call | emit =>
    simp [statementReports, statementWords, exprOperands, Note.text?]
  | @goto parts rest hleast hmost h =>
    rw [statementReports, if_pos (by decide), exprOperands_goto (by simpa using hmost),
      List.filterMap_flatMap, List.flatMap_map, List.flatMap_nil, List.append_nil]
    exact List.flatMap_congr fun p hp => (h p hp).reports_eq
  | unsupported hword =>
    rw [statementReports, if_neg hword]
    rfl

theorem ExprMeans.requests_eq {v : Value} {t : Lua.Term} {notes : List Note}
    (h : ExprMeans site v t notes) : notes.filterMap Note.request? = [] := by
  induction h with
  | format hne h ih => simpa [List.filterMap_flatMap, List.flatMap_eq_nil_iff] using ih
  | binary hword hx hy ihx ihy | random hx hy ihx ihy =>
    rw [List.filterMap_append, ihx, ihy]
    rfl
  | apply hword hx ih => exact ih
  | _ => rfl

theorem mimicTargets_of_ne {word : String} (h : word ≠ "mimic") (operands : List Value)
    : mimicTargets (.list (.text word :: operands)) = [] := by
  unfold mimicTargets
  split
  . next heq =>
    cases heq
    exact absurd rfl h
  . rfl

theorem StatementMeans.requests_eq {v : Value} {opened : List Opened} {code : List Lua.Statement}
    {notes : List Note} (h : StatementMeans site v opened code notes)
    : notes.filterMap Note.request? =
        (mimicTargets v).map (fun t => ⟨site.script, site.event, t⟩) ++
          opened.flatMap fun b => b.notes.filterMap Note.request? := by
  cases h with
  | mimic => rfl
  | set hx =>
    rw [mimicTargets_of_ne (by decide)]
    simp [hx.requests_eq, Note.request?]
  | increment | decrement | done | call | emit =>
    rw [mimicTargets_of_ne (by decide)]
    rfl
  | update hword hx =>
    rcases updateOf?_cases hword with rfl | rfl | rfl | rfl <;>
      simp [mimicTargets, hx.requests_eq, Note.request?]
  | branch hx | branchElse hx | loop hx | log hx | say hx | sound hx =>
    rw [mimicTargets_of_ne (by decide)]
    simp [hx.requests_eq]
  | @goto parts rest hleast hmost h =>
    rw [mimicTargets_of_ne (by decide), List.filterMap_flatMap]
    simpa [List.flatMap_eq_nil_iff] using fun p hp => (h p hp).requests_eq
  | unsupported hword =>
    rw [mimicTargets_of_ne (by rintro rfl; exact hword (by decide))]
    rfl

theorem BlockMeans.filterMap_eq {α : Type} {view : Note → Option α} {own : Value → List α}
    (hown : ∀ v opened code notes, StatementMeans site v opened code notes →
      notes.filterMap view = own v ++ opened.flatMap fun b => b.notes.filterMap view)
    {body : List Lua.Statement} {notes : List Note} (h : BlockMeans site blocks i body notes)
    : notes.filterMap view = (expansion blocks i).flatMap own := by
  have hformed := h.isWellFormed
  induction h with
  | @intro i parts hblock hparts hopened ih =>
    rw [hformed.expansion_eq, statementsOf_eq hblock, List.filterMap_flatMap, List.flatMap_map,
      List.flatMap_assoc]
    apply List.flatMap_congr
    intro p hp
    -- The blocks that the statement refers to stand in the place of the references.
    rw [hown _ _ _ _ (hparts p hp), List.flatMap_cons, (hparts p hp).references_eq,
      List.flatMap_map, List.flatMap_assoc]
    congr 1
    apply List.flatMap_congr
    intro b hb
    exact ih p hp b hb (hopened p hp b hb).isWellFormed

variable {script event : String} {root : Nat} {ledger ledger' : Ledger}
  {result : Except Failure String}

theorem blockCompiler_adds
    (h : (blockCompiler script event blocks root).run.run ((), ledger) = (result, (), ledger'))
    : ∃ notes, ledger' = { ledger with notes := ledger.notes ++ notes } ∧
        (result.isOk →
          ∃ body, BlockMeans ⟨script, event, ledger.tileId?⟩ blocks root body notes) := by
  cases result with
  | ok text =>
    obtain ⟨st, notes, hrun, -, rfl⟩ := blockCompiler_eq_ok h
    obtain ⟨body, new, rfl, -, -, -, hmeans⟩ := runs_handler hrun
    exact ⟨_, rfl, fun _ => ⟨body, hmeans⟩⟩
  | error e =>
    rw [run_blockCompiler] at h
    split at h <;> cases h
    exact ⟨_, rfl, by simp⟩

/-- Compiling an event notes the variables that the statements in its blocks mention, the requests
of those that mimic and what is not known in them, with each block in all the places where it is
referred to; if it fails, some of this. Nothing else in the ledger changes. -/
theorem ledger_after_event
    (h : (blockCompiler script event blocks root).run.run ((), ledger) = (result, (), ledger'))
    : ledger'.tiles = ledger.tiles ∧
        (∀ v, timesUsed ledger.usage v ≤ timesUsed ledger'.usage v) ∧
        ledger.mimics <+: ledger'.mimics ∧ ledger.reports <+: ledger'.reports ∧
        (result.isOk →
          let statements := expansion blocks root
          (∀ v, timesUsed ledger'.usage v =
            timesUsed ledger.usage v + (statements.flatMap statementVariables).count v) ∧
          ledger'.mimics =
            ledger.mimics ++ (statements.flatMap mimicTargets).map (fun t => ⟨script, event, t⟩) ∧
          ledger'.reports = ledger.reports ++
            statements.flatMap (statementReports ⟨script, event, ledger.tileId?⟩)) := by
  obtain ⟨notes, rfl, hmeans⟩ := blockCompiler_adds h
  refine ⟨rfl, ?_⟩
  simp only [Ledger.timesUsed_append, Ledger.mimics_append, Ledger.reports_append]
  refine ⟨fun v => Nat.le_add_right _ _, List.prefix_append _ _, List.prefix_append _ _, ?_⟩
  intro hok
  obtain ⟨body, hbody⟩ := hmeans hok
  have huses := hbody.filterMap_eq fun _ _ _ _ h => h.uses_eq
  have hrequests := hbody.filterMap_eq fun _ _ _ _ h => h.requests_eq
  have hreports := hbody.filterMap_eq fun _ _ _ _ h => h.reports_eq
  refine ⟨fun v => by rw [huses], ?_, by rw [hreports]⟩
  rw [hrequests, List.map_flatMap]

theorem ledger_after_event_shared
    : let blocks : List Value :=
        [.list [.list [.text "if", .list [.text "var", .text "gold"], blockRef 1, blockRef 1],
            .list [.text "set", .text "gold",
              .list [.text "glow", .list [.text "var", .text "gold"]]]],
          .list [.list [.text "inc", .text "gold"], .list [.text "mimic", .text "wall"],
            .list [.text "log", .list [.text "id", .text "rock"]]]]
      let ledger : Ledger := { notes := [.use "gold"] }
      ∃ text ledger',
        (blockCompiler "gate" "enter" blocks 0).run.run ((), ledger) = (.ok text, (), ledger') ∧
          timesUsed ledger'.usage "gold" = 5 ∧
          ledger'.mimics = [⟨"gate", "enter", "wall"⟩, ⟨"gate", "enter", "wall"⟩] ∧
          ledger'.reports = ["unknown tile `rock`", "unknown tile `rock`",
            "unsupported expression `glow` in gate.enter"] := by
  intro blocks ledger
  have hok : ((blockCompiler "gate" "enter" blocks 0).run.run ((), ledger)).1.isOk := by
    decide +kernel
  rcases hrun : (blockCompiler "gate" "enter" blocks 0).run.run ((), ledger) with
    ⟨e | text, u, ledger'⟩
  . rw [hrun] at hok
    cases hok
  . obtain ⟨-, -, -, -, heffect⟩ := ledger_after_event hrun
    obtain ⟨huses, hmimics, hreports⟩ := heffect rfl
    refine ⟨text, ledger', rfl, ?_, ?_, ?_⟩
    . rw [huses, Ledger.timesUsed_usage]
      decide +kernel
    . rw [hmimics]
      decide +kernel
    . rw [hreports]
      decide +kernel

end PulpGame.Block
