import PulpGame.Proofs.Block.Handler
import PulpGame.Proofs.Block.Mention

namespace PulpGame.Block

open Json (Value)

inductive IsExpr : Value → Prop
  | number {n : Json.Number} : IsExpr (.number n)
  | text {s : String} : IsExpr (.text s)
  | boolean {b : Bool} : IsExpr (.boolean b)
  | null : IsExpr .null
  | named {word s : String} {rest : List Value} (hword : word ∈ ["var", "id", "event"])
    : IsExpr (.list (.text word :: .text s :: rest))
  | format {parts : List Value} (h : ∀ p ∈ parts, IsExpr p) : IsExpr (.list (.text "fmt" :: parts))
  | binary {word : String} {x y : Value} {rest : List Value}
      (hword : word = "random" ∨ (Operator.ofWord? word).isSome) (hx : IsExpr x) (hy : IsExpr y)
    : IsExpr (.list (.text word :: x :: y :: rest))
  | apply {word : String} {x : Value} {rest : List Value} (hword : (Function.ofWord? word).isSome)
      (hx : IsExpr x)
    : IsExpr (.list (.text word :: x :: rest))
  | unsupported {word : String} {rest : List Value} (hword : isExprWord word = false)
    : IsExpr (.list (.text word :: rest))

inductive IsStatement : Value → Prop
  | update {word v : String} {x : Value} {rest : List Value}
      (hword : word = "set" ∨ (updateOf? word).isSome) (hx : IsExpr x)
    : IsStatement (.list (.text word :: .text v :: x :: rest))
  | named {word s : String} {rest : List Value}
      (hword : word ∈ ["inc", "dec", "mimic", "call", "emit"])
    : IsStatement (.list (.text word :: .text s :: rest))
  | branch {x : Value} {n : Nat} (hx : IsExpr x) : IsStatement (.list [.text "if", x, blockRef n])
  | branchElse {x : Value} {n m : Nat} {rest : List Value} (hx : IsExpr x)
    : IsStatement (.list (.text "if" :: x :: blockRef n :: blockRef m :: rest))
  | loop {x : Value} {n : Nat} {rest : List Value} (hx : IsExpr x)
    : IsStatement (.list (.text "while" :: x :: blockRef n :: rest))
  | done {rest : List Value} : IsStatement (.list (.text "done" :: rest))
  | tell {word : String} {x : Value} {rest : List Value} (hword : word ∈ ["log", "say", "sound"])
      (hx : IsExpr x)
    : IsStatement (.list (.text word :: x :: rest))
  | goto {parts rest : List Value} (hleast : 2 ≤ parts.length)
      (hmost : parts.length = 3 ∨ parts.length < 3 ∧ rest = []) (h : ∀ p ∈ parts, IsExpr p)
    : IsStatement (.list (.text "goto" :: (parts ++ rest)))
  | unsupported {word : String} {rest : List Value} (hword : word ∉ statementWords)
    : IsStatement (.list (.text word :: rest))

/-- Every block that can be reached is a list of statements and cannot reach itself. It may be
referred to any number of times. -/
structure IsWellFormed (blocks : List Value) (root : Nat) : Prop where
  lists : ∀ i, Relation.ReflTransGen (Refers blocks) root i →
    ∃ items, blocks[i]? = some (.list items) ∧ ∀ s ∈ items, IsStatement s
  acyclic : ∀ i, Relation.ReflTransGen (Refers blocks) root i →
    ¬Relation.TransGen (Refers blocks) i i

variable {site : Site} {blocks : List Value}

theorem ExprMeans.isExpr {v : Value} {t : Lua.Term} {notes : List Note}
    (h : ExprMeans site v t notes) : IsExpr v := by
  induction h with
  | number => exact .number
  | text => exact .text
  | boolean => exact .boolean
  | null => exact .null
  | var | tile | unknownTile | event => exact .named (by simp)
  | formatNothing => exact .format (by simp)
  | format hne h ih =>
    apply IsExpr.format
    intro v hv
    obtain ⟨p, hp, rfl⟩ := List.mem_map.mp hv
    exact ih p hp
  | binary hword hx hy ihx ihy => exact .binary (.inr hword) ihx ihy
  | apply hword hx ih => exact .apply hword ih
  | random hx hy ihx ihy => exact .binary (.inl rfl) ihx ihy
  | unsupported hword => exact .unsupported hword

theorem StatementMeans.isStatement {v : Value} {opened : List Opened} {code : List Lua.Statement}
    {notes : List Note} (h : StatementMeans site v opened code notes) : IsStatement v := by
  cases h with
  | set hx => exact .update (.inl rfl) hx.isExpr
  | update hword hx => exact .update (.inr (by simp [hword])) hx.isExpr
  | increment | decrement | mimic | call | emit => exact .named (by simp)
  | branch hx => exact .branch hx.isExpr
  | branchElse hx => exact .branchElse hx.isExpr
  | loop hx => exact .loop hx.isExpr
  | done => exact .done
  | log hx | say hx | sound hx => exact .tell (by simp) hx.isExpr
  | goto hleast hmost h =>
    apply IsStatement.goto
    . simpa using hleast
    . simpa using hmost
    . intro v hv
      obtain ⟨p, hp, rfl⟩ := List.mem_map.mp hv
      exact (h p hp).isExpr
  | unsupported hword => exact .unsupported hword

theorem BlockMeans.acc {i : Nat} {body : List Lua.Statement} {notes : List Note}
    (h : BlockMeans site blocks i body notes) : Acc (fun j i => Refers blocks i j) i := by
  induction h with
  | @intro i parts hblock hparts hopened ih =>
    apply Acc.intro
    rintro j ⟨items, s, hitems, hs, hj⟩
    rw [hblock] at hitems
    cases hitems
    obtain ⟨p, hp, rfl⟩ := List.mem_map.mp hs
    rw [(hparts p hp).references_eq] at hj
    obtain ⟨b, hb, rfl⟩ := List.mem_map.mp hj
    exact ih p hp b hb

theorem BlockMeans.lists {i j : Nat} {body : List Lua.Statement} {notes : List Note}
    (h : BlockMeans site blocks i body notes) (hj : Relation.ReflTransGen (Refers blocks) i j)
    : ∃ items, blocks[j]? = some (.list items) ∧ ∀ s ∈ items, IsStatement s := by
  induction h with
  | @intro i parts hblock hparts hopened ih =>
    rcases Relation.ReflTransGen.cases_head hj with rfl | ⟨k, ⟨items, s, hitems, hs, hk⟩, hrest⟩
    . refine ⟨_, hblock, ?_⟩
      intro s hs
      obtain ⟨p, hp, rfl⟩ := List.mem_map.mp hs
      exact (hparts p hp).isStatement
    . rw [hblock] at hitems
      cases hitems
      obtain ⟨p, hp, rfl⟩ := List.mem_map.mp hs
      rw [(hparts p hp).references_eq] at hk
      obtain ⟨b, hb, rfl⟩ := List.mem_map.mp hk
      exact ih p hp b hb hrest

theorem not_transGen_of_acc {r : Nat → Nat → Prop} {i : Nat} (h : Acc (fun j i => r i j) i)
    : ¬Relation.TransGen r i i := by
  induction h with
  | intro i _ ih =>
    intro hcycle
    -- The next one on the cycle is on a cycle, too.
    rcases Relation.TransGen.head'_iff.mp hcycle with ⟨j, hij, hji⟩
    apply ih j hij
    exact Relation.TransGen.tail' hji hij

theorem BlockMeans.isWellFormed {root : Nat} {body : List Lua.Statement} {notes : List Note}
    (h : BlockMeans site blocks root body notes) : IsWellFormed blocks root where
  lists _ hi := h.lists hi
  acyclic i hi := by
    apply not_transGen_of_acc
    have hroot := h.acc
    induction hi with
    | refl => exact hroot
    | tail _ hstep ih => exact ih.inv hstep

theorem operation_operator {word : String} {op : Operator} (h : Operator.ofWord? word = some op)
    (vs : List Value) (xs : List Expr)
    : Expr.operation word vs xs = .binary op (Expr.operand xs 0) (Expr.operand xs 1) := by
  unfold Operator.ofWord? at h
  split at h <;> cases h <;> rfl

theorem operation_function {word : String} {f : Function} (h : Function.ofWord? word = some f)
    (vs : List Value) (xs : List Expr)
    : Expr.operation word vs xs = .apply f (Expr.operand xs 0) := by
  unfold Function.ofWord? at h
  split at h <;> cases h <;> rfl

theorem operation_unsupported {word : String} (h : isExprWord word = false) (vs : List Value)
    (xs : List Expr) : Expr.operation word vs xs = .unsupported word := by
  unfold Expr.operation
  split
  . cases h
  . cases h
  . cases h
  . cases h
  . cases h
  . simp only [isExprWord, Bool.or_eq_false_iff, Option.isSome_eq_false_iff,
      Option.isNone_iff_eq_none] at h
    rw [h.1.2, h.2]

theorem statement_unsupported {word : String} (h : word ∉ statementWords) (vs : List Value)
    : Statement.operation word vs = .unsupported word := by
  unfold Statement.operation
  split <;> first | rfl | exact absurd (by decide) h

theorem total_note (n : Note) : Total (note n) := Total.modify

theorem total_all {vs : List Value} (h : ∀ v ∈ vs, Total ((Expr.ofValue v).toLua site))
    : Total (Expr.allToLua site (Expr.ofValues vs)) := by
  induction vs with
  | nil =>
    rw [Expr.ofValues, Expr.allToLua]
    exact .pure
  | cons v vs ih =>
    rw [Expr.ofValues, Expr.allToLua]
    apply Total.bind (h v (by simp))
    intro _ _ _ _
    apply Total.bind (ih fun w hw => h w (by simp [hw]))
    intro _ _ _ _
    exact .pure

theorem IsExpr.total {v : Value} (h : IsExpr v) (site : Site)
    : Total ((Expr.ofValue v).toLua site) := by
  induction h with
  | number | text | boolean | null =>
    rw [Expr.ofValue, Expr.toLua]
    exact .pure
  | @named word s rest hword =>
    simp only [List.mem_cons, List.not_mem_nil, or_false] at hword
    -- With the word it is known which case of `Expr.operation` is taken.
    rcases hword with rfl | rfl | rfl
    . change Total ((Expr.var s).toLua site)
      rw [Expr.toLua]
      exact .bind (total_note _) fun _ _ _ _ => .pure
    . change Total ((Expr.tile s).toLua site)
      rw [Expr.toLua]
      split
      . exact .pure
      . exact .bind (total_note _) fun _ _ _ _ => .pure
    . change Total ((Expr.event s).toLua site)
      rw [Expr.toLua]
      exact .pure
  | @format parts h ih =>
    change Total ((Expr.format (Expr.ofValues parts)).toLua site)
    rw [Expr.toLua]
    exact .bind (total_all ih) fun _ _ _ _ => .pure
  | @binary word x y rest hword hx hy ihx ihy =>
    rw [Expr.ofValue]
    rcases hword with rfl | hword
    . change Total ((Expr.random (Expr.ofValue x) (Expr.ofValue y)).toLua site)
      rw [Expr.toLua]
      exact .bind ihx fun _ _ _ _ => .bind ihy fun _ _ _ _ => .pure
    . obtain ⟨op, hop⟩ := Option.isSome_iff_exists.mp hword
      rw [operation_operator hop, Expr.toLua]
      exact .bind ihx fun _ _ _ _ => .bind ihy fun _ _ _ _ => .pure
  | @apply word x rest hword hx ih =>
    obtain ⟨f, hf⟩ := Option.isSome_iff_exists.mp hword
    rw [Expr.ofValue, operation_function hf, Expr.toLua]
    exact .bind ih fun _ _ _ _ => .pure
  | unsupported hword =>
    rw [Expr.ofValue, operation_unsupported hword, Expr.toLua]
    exact .bind (total_note _) fun _ _ _ _ => .pure

theorem total_goto {parts rest : List Value} {block : Nat → Noting (List Lua.Stat)}
    (hleast : 2 ≤ parts.length) (hmost : parts.length = 3 ∨ parts.length < 3 ∧ rest = [])
    (h : ∀ p ∈ parts, IsExpr p)
    : Total ((Statement.goto (Expr.ofValues ((parts ++ rest).take 3))).toLua site block) := by
  have htake : (parts ++ rest).take 3 = parts := exprOperands_goto hmost
  rw [htake, Statement.toLua]
  apply Total.bind (total_all fun p hp => (h p hp).total site)
  intro notes xs notes' hxs
  obtain ⟨written, rfl, hterms, -⟩ := means_all (fun v _ => sound site v) hxs
  have hlength : ¬xs.length < 2 := by
    have := congrArg List.length hterms
    simp only [List.length_map] at this hleast
    omega
  rw [if_neg hlength]
  exact .pure

variable {block : Nat → Noting (List Lua.Stat)}

theorem IsStatement.total {v : Value} (h : IsStatement v) (site : Site)
    (hblock : ∀ i ∈ references v, Total (block i))
    : Total ((Statement.ofValue v).toLua site block) := by
  cases h with
  | @update word v x rest hword hx =>
    rcases hword with rfl | hword
    . change Total ((Statement.set v (Expr.ofValue x)).toLua site block)
      rw [Statement.toLua]
      exact .bind (hx.total site) fun _ _ _ _ => .bind (total_note _) fun _ _ _ _ => .pure
    . have hupdate (how : Update)
          : Total ((Statement.update v how (Expr.ofValue x)).toLua site block) := by
        rw [Statement.toLua]
        exact .bind (hx.total site) fun _ _ _ _ => .bind (total_note _) fun _ _ _ _ => .pure
      obtain ⟨op, hop⟩ := Option.isSome_iff_exists.mp hword
      rcases updateOf?_cases hop with rfl | rfl | rfl | rfl
      . exact hupdate .add
      . exact hupdate .sub
      . exact hupdate .mul
      . exact hupdate .div
  | @named word s rest hword =>
    simp only [List.mem_cons, List.not_mem_nil, or_false] at hword
    rcases hword with rfl | rfl | rfl | rfl | rfl
    . change Total ((Statement.increment s).toLua site block)
      rw [Statement.toLua]
      exact .bind (total_note _) fun _ _ _ _ => .pure
    . change Total ((Statement.decrement s).toLua site block)
      rw [Statement.toLua]
      exact .bind (total_note _) fun _ _ _ _ => .pure
    . change Total ((Statement.mimic s).toLua site block)
      rw [Statement.toLua]
      exact .bind (total_note _) fun _ _ _ _ => .pure
    . change Total ((Statement.call s).toLua site block)
      rw [Statement.toLua]
      exact .pure
    . change Total ((Statement.emit s).toLua site block)
      rw [Statement.toLua]
      exact .pure
  | @branch x n hx =>
    change Total ((Statement.branch (Expr.ofValue x) (.ok n) none).toLua site block)
    simp only [Statement.toLua, Statement.toLua.liftExcept, pure_bind]
    apply Total.bind (hx.total site)
    intro _ _ _ _
    exact .bind (hblock n (by simp [references, ref?_blockRef])) fun _ _ _ _ => .pure
  | @branchElse x n m rest hx =>
    change Total ((Statement.branch (Expr.ofValue x) (.ok n) (some (.ok m))).toLua site block)
    simp only [Statement.toLua, Statement.toLua.liftExcept, pure_bind]
    apply Total.bind (hx.total site)
    intro _ _ _ _
    apply Total.bind (hblock n (by simp [references, ref?_blockRef]))
    intro _ _ _ _
    exact .bind (hblock m (by simp [references, ref?_blockRef])) fun _ _ _ _ => .pure
  | @loop x n rest hx =>
    change Total ((Statement.loop (Expr.ofValue x) (.ok n)).toLua site block)
    simp only [Statement.toLua, Statement.toLua.liftExcept, pure_bind]
    apply Total.bind (hx.total site)
    intro _ _ _ _
    exact .bind (hblock n (by simp [references, ref?_blockRef])) fun _ _ _ _ => .pure
  | done =>
    change Total (Statement.done.toLua site block)
    rw [Statement.toLua]
    exact .pure
  | @tell word x rest hword hx =>
    simp only [List.mem_cons, List.not_mem_nil, or_false] at hword
    rcases hword with rfl | rfl | rfl
    . change Total ((Statement.log (Expr.ofValue x)).toLua site block)
      rw [Statement.toLua]
      exact .bind (hx.total site) fun _ _ _ _ => .pure
    . change Total ((Statement.say (Expr.ofValue x)).toLua site block)
      rw [Statement.toLua]
      exact .bind (hx.total site) fun _ _ _ _ => .pure
    . change Total ((Statement.sound (Expr.ofValue x)).toLua site block)
      rw [Statement.toLua]
      exact .bind (hx.total site) fun _ _ _ _ => .pure
  | goto hleast hmost hparts => exact total_goto hleast hmost hparts
  | unsupported hword =>
    rw [Statement.ofValue, statement_unsupported hword, Statement.toLua]
    exact .bind (total_note _) fun _ _ _ _ => .pure

namespace IsWellFormed

variable {i j : Nat}

theorem refers (h : IsWellFormed blocks i) (hij : Refers blocks i j) : IsWellFormed blocks j where
  lists k hk := h.lists k (.head hij hk)
  acyclic k hk := h.acyclic k (.head hij hk)

/-- Induction over what is reached: a block that is opened is not reached from what it refers to, so
it need not stay closed. -/
theorem closed_induction {P : List Nat → Nat → Prop}
    (step : ∀ closed i items, i ∈ closed → blocks[i]? = some (.list items) →
      (∀ s ∈ items, IsStatement s) → (∀ s ∈ items, ∀ j ∈ references s, P (closed.erase i) j) →
        P closed i)
    {closed : List Nat} (h : IsWellFormed blocks i)
    (hclosed : ∀ k, Relation.ReflTransGen (Refers blocks) i k → k ∈ closed) : P closed i := by
  induction hlength : closed.length using Nat.strongRecOn generalizing closed i with
  | ind n ih =>
    have hmem : i ∈ closed := hclosed i .refl
    obtain ⟨items, hitems, hstatements⟩ := h.lists i .refl
    apply step closed i items hmem hitems hstatements
    intro s hs j hj
    have hij : Refers blocks i j := ⟨items, s, hitems, hs, hj⟩
    have hshorter : (closed.erase i).length < n :=
      hlength ▸ (List.length_erase_add_one hmem).le
    apply ih _ hshorter (h.refers hij) _ rfl
    -- What is reached from `j` does not lead back to `i`, so it is there without `i`, too.
    intro k hk
    have hne : k ≠ i := by
      rintro rfl
      exact h.acyclic k .refl (.head' hij hk)
    rw [List.mem_erase_of_ne hne]
    exact hclosed k (.head hij hk)

theorem total (h : IsWellFormed blocks i) (site : Site) {closed : List Nat}
    (hclosed : ∀ k, Relation.ReflTransGen (Refers blocks) i k → k ∈ closed)
    : Total (toLua site (blocks.map Body.ofValue) closed i) := by
  refine closed_induction
    (P := fun closed i => Total (toLua site (blocks.map Body.ofValue) closed i))
    ?_ h hclosed
  intro closed i items hmem hitems hstatements hreferences
  have hbody : (blocks.map Body.ofValue)[i]? = some (some (items.map Statement.ofValue)) := by
    rw [List.getElem?_map, hitems]
    rfl
  rw [toLua, hbody]
  simp only [hmem, ↓reduceDIte]
  apply Total.mapM
  intro statement hstatement
  obtain ⟨s, hs, rfl⟩ := List.mem_map.mp hstatement
  exact (hstatements s hs).total site (hreferences s hs)

theorem lt_length (h : IsWellFormed blocks i) (hj : Relation.ReflTransGen (Refers blocks) i j)
    : j < blocks.length := by
  obtain ⟨items, hitems, -⟩ := h.lists j hj
  exact (List.getElem?_eq_some_iff.mp hitems).1

end IsWellFormed

theorem runs_handler_iff {root : Nat} {notes : List Note}
    : (∃ st notes', Runs (handler site blocks root) notes st notes') ↔ IsWellFormed blocks root := by
  constructor
  . rintro ⟨st, notes', h⟩
    obtain ⟨body, new, -, -, -, -, hmeans⟩ := runs_handler h
    exact hmeans.isWellFormed
  . intro h
    have hclosed (k : Nat) (hk : Relation.ReflTransGen (Refers blocks) root k)
        : k ∈ List.range blocks.length := List.mem_range.mpr (h.lt_length hk)
    have htotal : Total (handler site blocks root) :=
      .bind (h.total site hclosed) fun _ _ _ _ => .pure
    exact htotal notes

theorem isOk_blockCompiler (script event : String) (blocks : List Value) (root : Nat)
    (ledger : Ledger)
    : ((blockCompiler script event blocks root).run.run ((), ledger)).1.isOk ↔
        IsWellFormed blocks root := by
  have hhandler : (∃ st notes', Runs (handler ⟨script, event, ledger.tileId?⟩ blocks root) [] st
      notes') ↔ IsWellFormed blocks root :=
    runs_handler_iff
  rw [← hhandler, run_blockCompiler]
  unfold Runs
  rcases outcome (handler ⟨script, event, ledger.tileId?⟩ blocks root) [] with ⟨fault | st, notes⟩
  . simp
  . simp

end PulpGame.Block
