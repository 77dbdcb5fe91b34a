import PulpGame.Proofs.Block.Handler
import PulpGame.Proofs.Block.Mention
import PulpGame.Proofs.Program.Vocabulary

namespace PulpGame.Block

open Json (Value)
open Lua (Stat)
open Program (Plain allowed_of_isFixed plain_of_all plain_cons)
open Variable (isBare)

variable {site : Site} {taken : String → Prop} {notes notes' : List Note}

/-- Of all that is mentioned, names may be taken as they are written: the variables that can be bare
names, and the fields of the event that can be names. -/
structure Grants (taken vars fields : String → Prop) : Prop where
  variable_taken : ∀ v, vars v → isBare v → taken v
  field_taken : ∀ n, fields n → Lua.isName n → taken n

theorem Grants.mono {vars fields vars' fields' : String → Prop}
    (h : Grants taken vars fields) (hvars : ∀ v, vars' v → vars v)
    (hfields : ∀ n, fields' n → fields n) : Grants taken vars' fields' where
  variable_taken v hv := h.variable_taken v (hvars v hv)
  field_taken n hn := h.field_taken n (hfields n hn)

abbrev ExprGrants (taken : String → Prop) (v : Value) : Prop :=
  Grants taken (· ∈ exprNames "var" v) (· ∈ exprNames "event" v)

def Worded (site : Site) (taken : String → Prop) (v : Value) : Prop :=
  ExprGrants taken v → ∀ notes x notes', Runs ((Expr.ofValue v).toLua site) notes x notes' →
    Plain taken x.tokens

theorem mem_exprNames_own (kind s : String) (rest : List Value)
    : s ∈ exprNames kind (.list (.text kind :: .text s :: rest)) := by
  simp [exprNames, ownNames]

theorem mem_exprNames_operand {kind word n : String} {operands : List Value} {w : Value} {i : Nat}
    (hi : i < arity word operands.length) (hw : operands[i]? = some w) (hn : n ∈ exprNames kind w)
    : n ∈ exprNames kind (.list (.text word :: operands)) := by
  rw [exprNames, List.mem_append, operandNames_eq, List.mem_flatten]
  refine .inr ⟨exprNames kind w, ?_, hn⟩
  rw [List.mem_iff_getElem?]
  exact ⟨i, by rw [List.getElem?_take_of_lt hi, List.getElem?_map, hw, Option.map_some]⟩

theorem Grants.operand {word : String} {operands : List Value} {w : Value} {i : Nat}
    (h : ExprGrants taken (.list (.text word :: operands))) (hi : i < arity word operands.length)
    (hw : operands[i]? = some w) : ExprGrants taken w :=
  h.mono (fun _ => mem_exprNames_operand hi hw) fun _ => mem_exprNames_operand hi hw

theorem plain_operand {word : String} {operands : List Value} {i : Nat} {x : Lua.Expr}
    (hs : ∀ v ∈ operands, Worded site taken v)
    (hgrants : ExprGrants taken (.list (.text word :: operands)))
    (hi : i < arity word operands.length)
    (h : Runs ((Expr.operand (Expr.ofValues operands) i).toLua site) notes x notes')
    : Plain taken x.tokens := by
  obtain ⟨v, hv, hx⟩ := runs_operand h
  exact hs v (List.mem_of_getElem? hv) (hgrants.operand hi hv) _ _ _ hx

theorem plain_all {vs : List Value} (hs : ∀ v ∈ vs, Worded site taken v)
    (hgrants : ∀ v ∈ vs, ExprGrants taken v) {xs : List Lua.Expr}
    (h : Runs (Expr.allToLua site (Expr.ofValues vs)) notes xs notes')
    : ∀ x ∈ xs, Plain taken x.tokens := by
  induction vs generalizing notes xs with
  | nil =>
    rw [Expr.ofValues, Expr.allToLua, runs_pure] at h
    simp [← h.1]
  | cons v vs ih =>
    simp only [Expr.ofValues, Expr.allToLua, runs_bind, runs_pure] at h
    obtain ⟨x, mid, hx, ys, mid', hxs, rfl, rfl⟩ := h
    rw [List.forall_mem_cons] at hs hgrants ⊢
    exact ⟨hs.1 hgrants.1 _ _ _ hx, ih hs.2 hgrants.2 hxs⟩

theorem plain_formatted {xs : List Lua.Expr} (h : ∀ x ∈ xs, Plain taken x.tokens)
    : Plain taken (formatted xs).tokens := by
  have hfixed : Plain taken [.symbol "(", .symbol ")"] := plain_of_all (by decide)
  simp only [plain_cons] at hfixed
  unfold formatted
  split
  . simp [Lua.Expr.tokens]
  . have hparts : Plain taken ([.symbol ".."].intercalate
        (Lua.Expr.tokenLists (xs.map fun x => .call (.name "__tostring") [x]))) := by
      apply Program.plain_intercalate (allowed_of_isFixed rfl)
      rw [Lua.Expr.tokenLists_eq, List.map_map, List.forall_mem_map]
      intro x hx
      exact Program.plain_call (by decide) (by simpa using h x hx)
    simpa [Lua.Expr.tokens, hfixed] using hparts

theorem plain_group_binary (op : Operator) {l r : Lua.Expr} (hl : Plain taken l.tokens)
    (hr : Plain taken r.tokens) : Plain taken (Lua.Expr.group (.binary op.symbol l r)).tokens := by
  have hfixed : Plain taken [Lua.operatorToken op.symbol, .symbol "(", .symbol ")"] := by
    apply plain_of_all
    cases op <;> decide
  simp only [plain_cons] at hfixed
  simp [Lua.Expr.tokens, hfixed, hl, hr]

theorem plain_operation (word : String) {operands : List Value}
    (hs : ∀ v ∈ operands, Worded site taken v)
    (hgrants : ExprGrants taken (.list (.text word :: operands))) {x : Lua.Expr}
    (h : Runs ((Expr.operation word operands (Expr.ofValues operands)).toLua site) notes x notes')
    : Plain taken x.tokens := by
  have hnil : Plain taken Lua.Expr.nil.tokens := plain_of_all (by decide)
  unfold Expr.operation at h
  -- the words in the order of `Expr.operation`: those that take a name come first
  split at h
  . obtain ⟨s, rest, rfl, hmake⟩ := runs_named h
    clear h
    simp only [Expr.toLua, runs_bind, runs_pure] at hmake
    obtain ⟨-, mid, -, rfl, -⟩ := hmake
    exact Program.plain_place (hgrants.variable_taken s (mem_exprNames_own _ s rest))
  . obtain ⟨s, rest, rfl, hmake⟩ := runs_named h
    clear h
    rw [Expr.toLua] at hmake
    split at hmake
    . rw [runs_pure] at hmake
      exact hmake.1 ▸ Program.plain_signed _
    . simp only [runs_bind, runs_pure] at hmake
      obtain ⟨-, mid, -, rfl, -⟩ := hmake
      exact hnil
  . obtain ⟨s, rest, rfl, hmake⟩ := runs_named h
    clear h
    rw [Expr.toLua, runs_pure] at hmake
    obtain ⟨rfl, -⟩ := hmake
    have hevent : Program.Allowed taken (.name "event") := allowed_of_isFixed rfl
    have hkey : Plain taken (Lua.Expr.keyTokens s) := Program.plain_key fun hname =>
      .inr (hgrants.field_taken s (mem_exprNames_own _ s rest) hname)
    simp [Lua.Expr.tokens, hevent, hkey]
  . simp only [Expr.toLua, runs_bind, runs_pure] at h
    obtain ⟨xs, mid, hxs, rfl, -⟩ := h
    apply plain_formatted
    refine plain_all hs ?_ hxs
    intro v hv
    obtain ⟨i, hi, rfl⟩ := List.mem_iff_getElem.mp hv
    exact hgrants.operand (by simpa [arity] using hi) (List.getElem?_eq_getElem hi)
  . simp only [Expr.toLua, runs_bind, runs_pure] at h
    obtain ⟨l, mid, hl, r, mid', hr, rfl, -⟩ := h
    have hl := plain_operand hs hgrants (by simp [arity]) hl
    have hr := plain_operand hs hgrants (by simp [arity]) hr
    exact Program.plain_call (by decide) (by simp [hl, hr])
  -- a word without a case of its own: an operator, a function, or none that is known
  . split at h
    . next op hop =>
      have hword : (Operator.ofWord? word).isSome := by simp [hop]
      obtain ⟨harity, -⟩ := arity_operator hword operands.length
      simp only [Expr.toLua, runs_bind, runs_pure] at h
      obtain ⟨l, mid, hl, r, mid', hr, rfl, -⟩ := h
      exact plain_group_binary op (plain_operand hs hgrants (by simp [harity]) hl)
        (plain_operand hs hgrants (by simp [harity]) hr)
    . next f hop hf =>
      have hword : (Function.ofWord? word).isSome := by simp [hf]
      obtain ⟨harity, -⟩ := arity_function hword operands.length
      simp only [Expr.toLua, runs_bind, runs_pure] at h
      obtain ⟨y, mid, hy, rfl, -⟩ := h
      have hy := plain_operand hs hgrants (by simp [harity]) hy
      exact Program.plain_call (by cases f <;> decide) (by simpa using hy)
    . simp only [Expr.toLua, runs_bind, runs_pure] at h
      obtain ⟨-, mid, -, rfl, -⟩ := h
      exact hnil

mutual

theorem worded (site : Site) (taken : String → Prop) : (v : Value) → Worded site taken v
  | .null => by
    intro _ notes x notes' h
    rw [Expr.ofValue, Expr.toLua, runs_pure] at h
    exact h.1 ▸ plain_of_all (by decide)
  | .boolean b => by
    intro _ notes x notes' h
    rw [Expr.ofValue, Expr.toLua, runs_pure] at h
    obtain ⟨rfl, -⟩ := h
    cases b <;> exact plain_of_all (by decide)
  | .number n => by
    intro _ notes x notes' h
    rw [Expr.ofValue, Expr.toLua, runs_pure] at h
    exact h.1 ▸ Program.plain_signed _
  | .text s => by
    intro _ notes x notes' h
    rw [Expr.ofValue, Expr.toLua, runs_pure] at h
    simp [← h.1, Lua.Expr.tokens]
  | .object members => by
    intro _ notes x notes' h
    rw [Expr.ofValue] at h
    exact absurd h runs_malformed
  | .list (.text word :: operands) => by
    intro hgrants notes x notes' h
    rw [Expr.ofValue] at h
    exact plain_operation word (worded_all site taken operands) hgrants h
  | .list [] => by
    intro _ notes x notes' h
    rw [Expr.ofValue] at h
    . exact absurd h runs_malformed
    . simp
  | .list (.null :: _) | .list (.boolean _ :: _) | .list (.number _ :: _) | .list (.list _ :: _)
  | .list (.object _ :: _) => by
    intro _ notes x notes' h
    rw [Expr.ofValue] at h
    . exact absurd h runs_malformed
    . simp

theorem worded_all (site : Site) (taken : String → Prop)
    : (vs : List Value) → ∀ v ∈ vs, Worded site taken v
  | [] => by simp
  | v :: vs => by
    intro w hw
    rcases List.mem_cons.mp hw with heq | hw
    . rw [heq]
      exact worded site taken v
    . exact worded_all site taken vs w hw

end

abbrev StatementGrants (taken : String → Prop) (v : Value) : Prop :=
  Grants taken (· ∈ statementVariables v) (· ∈ statementFields v)

abbrev BlockGrants (taken : String → Prop) (blocks : List Value) (i : Nat) : Prop :=
  Grants taken (Mentions statementVariables blocks i) (Mentions statementFields blocks i)

def BlocksWorded (taken : String → Prop) (blocks : List Value)
    (block : Nat → Noting (List Stat)) : Prop :=
  ∀ i, BlockGrants taken blocks i → ∀ notes body notes', Runs (block i) notes body notes' →
    Plain taken (Stat.tokensAll body)

variable {blocks : List Value} {block : Nat → Noting (List Stat)} {st : Stat} {word : String}
  {operands : List Value}

theorem Grants.statementOperand {w : Value}
    (h : StatementGrants taken (.list (.text word :: operands)))
    (hw : w ∈ exprOperands word operands) : ExprGrants taken w := by
  apply h.mono
  . intro v hv
    exact List.mem_append_left _ (List.mem_flatMap.mpr ⟨w, hw, hv⟩)
  . intro n hn
    exact List.mem_flatMap.mpr ⟨w, hw, hn⟩

theorem plain_statementOperand {i : Nat} {x : Lua.Expr}
    (hgrants : StatementGrants taken (.list (.text word :: operands)))
    (hoperand : ∀ w, operands[i]? = some w → w ∈ exprOperands word operands)
    (h : Runs ((Statement.operand operands i).toLua site) notes x notes')
    : Plain taken x.tokens := by
  obtain ⟨v, hv, hx⟩ := runs_operand h
  exact worded site taken v (hgrants.statementOperand (hoperand v hv)) _ _ _ hx

theorem mem_exprOperands_first (hword : ["if", "while", "log", "say", "sound"].contains word)
    {w : Value} (h : operands[0]? = some w) : w ∈ exprOperands word operands := by
  obtain ⟨rest, rfl⟩ := eq_cons_of_getElem? h
  rw [exprOperands, if_pos hword]
  simp

theorem mem_exprOperands_second (hword : ["set", "add", "sub", "mul", "div"].contains word)
    {w : Value} (h : operands[1]? = some w) : w ∈ exprOperands word operands := by
  have hfirst : ["if", "while", "log", "say", "sound"].contains word = false := by
    simp only [List.contains_eq_mem, decide_eq_true_eq, List.mem_cons, List.not_mem_nil,
      or_false] at hword
    rcases hword with rfl | rfl | rfl | rfl | rfl <;> rfl
  rw [exprOperands, hfirst, if_neg (by simp), if_pos hword, List.mem_iff_getElem?]
  exact ⟨0, by simpa using h⟩

theorem plain_target {s : String} {rest : List Value}
    (hword : ["set", "inc", "dec", "add", "sub", "mul", "div"].contains word)
    (h : StatementGrants taken (.list (.text word :: .text s :: rest)))
    : Plain taken (Variable.place s).tokens := by
  apply Program.plain_place
  apply h.variable_taken s
  rw [statementVariables, targetVariables, if_pos hword]
  simp

theorem plain_operate {op : String} {target value : Lua.Expr}
    (hop : Program.isFixed (Lua.operatorToken op)) (htarget : Plain taken target.tokens)
    (hvalue : Plain taken value.tokens)
    : Plain taken (Stat.action (.assign target (.binary op target value))).tokens := by
  apply Program.plain_assign htarget
  simp [Lua.Expr.tokens, htarget, hvalue, allowed_of_isFixed hop]

theorem plain_updating {how : Update} (hword : ["add", "sub", "mul", "div"].contains word)
    (hgrants : StatementGrants taken (.list (.text word :: operands)))
    (h : Runs ((Statement.updating operands how).toLua site block) notes st notes')
    : Plain taken st.tokens := by
  obtain ⟨s, rest, rfl, hmake⟩ := runs_statementNamed h
  simp only [Statement.toLua, runs_bind, runs_pure] at hmake
  obtain ⟨x, mid, hx, -, mid', -, rfl, -⟩ := hmake
  have hx := plain_statementOperand hgrants
    (fun w => mem_exprOperands_second (by simp_all)) hx
  have hfixed : Plain taken [.symbol "(", .symbol ")"] := plain_of_all (by decide)
  simp only [plain_cons] at hfixed
  apply plain_operate (by cases how <;> decide) (plain_target (by simp_all) hgrants)
  simp [Lua.Expr.tokens, hfixed, hx]

theorem mem_references_if {n i : Nat} (hi : i = 1 ∨ i = 2) (h : operands[i]? = some (blockRef n))
    : n ∈ references (.list (.text "if" :: operands)) := by
  rw [references, if_pos rfl, List.mem_filterMap]
  refine ⟨blockRef n, ?_, rfl⟩
  rw [List.mem_iff_getElem?]
  exact ⟨i - 1, by rcases hi with rfl | rfl <;> simpa using h⟩

theorem mem_references_while {n : Nat} (h : operands[1]? = some (blockRef n))
    : n ∈ references (.list (.text "while" :: operands)) := by
  rw [references, if_neg (by decide), if_pos rfl, List.mem_filterMap]
  refine ⟨blockRef n, ?_, rfl⟩
  rw [List.mem_iff_getElem?]
  exact ⟨0, by simpa using h⟩

theorem plain_branch (hblock : BlocksWorded taken blocks block)
    (hgrants : StatementGrants taken (.list (.text "if" :: operands)))
    (hrefs : ∀ j ∈ references (.list (.text "if" :: operands)), BlockGrants taken blocks j)
    (h : Runs ((Statement.branch (Statement.operand operands 0) (refOperand operands 1)
      ((operands[2]?).map Ref.ofValue)).toLua site block) notes st notes')
    : Plain taken st.tokens := by
  simp only [Statement.toLua, runs_bind, runs_liftExcept] at h
  obtain ⟨c, mid, hc, n, _, ⟨hn, rfl⟩, b, mid', hb, hother⟩ := h
  have hc := plain_statementOperand hgrants (fun w => mem_exprOperands_first (by decide)) hc
  have hb := hblock n (hrefs n (mem_references_if (.inl rfl) (refOperand_eq_ok hn))) _ _ _ hb
  have hfixed : Plain taken [.keyword "if", .keyword "then", .keyword "else", .keyword "end"] :=
    plain_of_all (by decide)
  simp only [plain_cons] at hfixed
  cases hw : operands[2]? with
  | none =>
    simp only [hw, Option.map_none, runs_pure] at hother
    obtain ⟨rfl, -⟩ := hother
    simp [Stat.tokens, hfixed, hc, hb]
  | some w =>
    simp only [hw, Option.map_some, runs_bind, runs_liftExcept, runs_pure] at hother
    obtain ⟨k, _, ⟨hk, rfl⟩, o, mid'', ho, rfl, -⟩ := hother
    obtain rfl := refOfValue_eq_ok hk
    have ho := hblock k (hrefs k (mem_references_if (.inr rfl) hw)) _ _ _ ho
    simp [Stat.tokens, hfixed, hc, hb, ho]

theorem plain_loop (hblock : BlocksWorded taken blocks block)
    (hgrants : StatementGrants taken (.list (.text "while" :: operands)))
    (hrefs : ∀ j ∈ references (.list (.text "while" :: operands)), BlockGrants taken blocks j)
    (h : Runs ((Statement.loop (Statement.operand operands 0) (refOperand operands 1)).toLua site
      block) notes st notes')
    : Plain taken st.tokens := by
  simp only [Statement.toLua, runs_bind, runs_liftExcept, runs_pure] at h
  obtain ⟨c, mid, hc, n, _, ⟨hn, rfl⟩, b, mid', hb, rfl, -⟩ := h
  have hc := plain_statementOperand hgrants (fun w => mem_exprOperands_first (by decide)) hc
  have hb := hblock n (hrefs n (mem_references_while (refOperand_eq_ok hn))) _ _ _ hb
  have hfixed : Plain taken [.keyword "while", .keyword "do", .keyword "end"] :=
    plain_of_all (by decide)
  simp only [plain_cons] at hfixed
  simp [Stat.tokens, hfixed, hc, hb]

theorem plain_goto (hgrants : StatementGrants taken (.list (.text "goto" :: operands)))
    (h : Runs ((Statement.goto (Expr.ofValues (operands.take 3))).toLua site block) notes st notes')
    : Plain taken st.tokens := by
  simp only [Statement.toLua, runs_bind] at h
  obtain ⟨xs, mid, hxs, h⟩ := h
  have hxs := plain_all (fun v _ => worded site taken v)
    (fun v hv => hgrants.statementOperand hv) hxs
  split at h
  . simp [runs_throw] at h
  . rw [runs_pure] at h
    obtain ⟨rfl, -⟩ := h
    exact Program.plain_runtimeCall (by decide) hxs

theorem plain_calling {make : Lua.Expr → Stat}
    (hword : ["if", "while", "log", "say", "sound"].contains word)
    (hgrants : StatementGrants taken (.list (.text word :: operands)))
    (h : Runs (do
      let v ← (Statement.operand operands 0).toLua site
      return make v) notes st notes')
    (hmake : ∀ x, Plain taken x.tokens → Plain taken (make x).tokens) : Plain taken st.tokens := by
  simp only [runs_bind, runs_pure] at h
  obtain ⟨x, mid, hx, rfl, -⟩ := h
  exact hmake x (plain_statementOperand hgrants (fun w => mem_exprOperands_first hword) hx)

theorem plain_statementOperation (hblock : BlocksWorded taken blocks block)
    (hgrants : StatementGrants taken (.list (.text word :: operands)))
    (hrefs : ∀ j ∈ references (.list (.text word :: operands)), BlockGrants taken blocks j)
    (h : Runs ((Statement.operation word operands).toLua site block) notes st notes')
    : Plain taken st.tokens := by
  have hself : Plain taken (Lua.Expr.name "__self").tokens := plain_of_all (by decide)
  have hevent : Plain taken (Lua.Expr.name "event").tokens := plain_of_all (by decide)
  have hstring (s : String) : Plain taken (Lua.Expr.string s).tokens := by simp [Lua.Expr.tokens]
  have hone : Plain taken (Lua.Expr.numeral "1").tokens := Program.plain_signed "1"
  unfold Statement.operation at h
  -- the words in the order of `Statement.operation`: what is done to a variable comes first
  split at h
  . obtain ⟨s, rest, rfl, hmake⟩ := runs_statementNamed h
    simp only [Statement.toLua, runs_bind, runs_pure] at hmake
    obtain ⟨x, mid, hx, -, mid', -, rfl, -⟩ := hmake
    have hx := plain_statementOperand hgrants (fun w => mem_exprOperands_second (by decide)) hx
    exact Program.plain_assign (plain_target (by decide) hgrants) hx
  . obtain ⟨s, rest, rfl, hmake⟩ := runs_statementNamed h
    simp only [Statement.toLua, runs_bind, runs_pure] at hmake
    obtain ⟨-, mid, -, rfl, -⟩ := hmake
    exact plain_operate (by decide) (plain_target (by decide) hgrants) hone
  . obtain ⟨s, rest, rfl, hmake⟩ := runs_statementNamed h
    simp only [Statement.toLua, runs_bind, runs_pure] at hmake
    obtain ⟨-, mid, -, rfl, -⟩ := hmake
    exact plain_operate (by decide) (plain_target (by decide) hgrants) hone
  . exact plain_updating (by decide) hgrants h
  . exact plain_updating (by decide) hgrants h
  . exact plain_updating (by decide) hgrants h
  . exact plain_updating (by decide) hgrants h
  . exact plain_branch hblock hgrants hrefs h
  . exact plain_loop hblock hgrants hrefs h
  . obtain ⟨s, rest, rfl, hmake⟩ := runs_statementNamed h
    simp only [Statement.toLua, runs_bind, runs_pure] at hmake
    obtain ⟨-, mid, -, rfl, -⟩ := hmake
    exact Program.plain_nil
  . simp only [Statement.toLua, runs_pure] at h
    exact h.1 ▸ plain_of_all (by decide)
  . rw [Statement.toLua] at h
    exact plain_calling (by decide) hgrants h fun x hx =>
      Program.plain_call (by decide) (by simpa using hx)
  . rw [Statement.toLua] at h
    exact plain_calling (by decide) hgrants h fun x hx =>
      Program.plain_runtimeCall (by decide) (by simp [hself, hevent, hx])
  . obtain ⟨s, rest, rfl, hmake⟩ := runs_statementNamed h
    simp only [Statement.toLua, runs_pure] at hmake
    exact hmake.1 ▸ Program.plain_runtimeCall (by decide) (by simp [hself, hevent, hstring])
  . obtain ⟨s, rest, rfl, hmake⟩ := runs_statementNamed h
    simp only [Statement.toLua, runs_pure] at hmake
    exact hmake.1 ▸ Program.plain_runtimeCall (by decide) (by simp [hevent, hstring])
  . rw [Statement.toLua] at h
    exact plain_calling (by decide) hgrants h fun x hx =>
      Program.plain_runtimeCall (by decide) (by simpa using hx)
  . exact plain_goto hgrants h
  . simp only [Statement.toLua, runs_bind, runs_pure] at h
    obtain ⟨-, mid, -, rfl, -⟩ := h
    exact Program.plain_nil

theorem plain_statement (hblock : BlocksWorded taken blocks block) {v : Value}
    (hgrants : StatementGrants taken v) (hrefs : ∀ j ∈ references v, BlockGrants taken blocks j)
    (h : Runs ((Statement.ofValue v).toLua site block) notes st notes')
    : Plain taken st.tokens := by
  unfold Statement.ofValue at h
  split at h
  . exact plain_statementOperation hblock hgrants hrefs h
  . rw [Statement.toLua] at h
    exact absurd h runs_throw

theorem Grants.statement {i : Nat} {items : List Value} {v : Value}
    (h : BlockGrants taken blocks i) (hitems : blocks[i]? = some (.list items)) (hv : v ∈ items)
    : StatementGrants taken v ∧ ∀ j ∈ references v, BlockGrants taken blocks j := by
  constructor
  . apply h.mono
    . exact fun n hn => (mentions_iff hitems).mpr (.inl ⟨v, hv, hn⟩)
    . exact fun n hn => (mentions_iff hitems).mpr (.inl ⟨v, hv, hn⟩)
  . intro j hj
    apply h.mono
    . exact fun n hn => (mentions_iff hitems).mpr (.inr ⟨v, hv, j, hj, hn⟩)
    . exact fun n hn => (mentions_iff hitems).mpr (.inr ⟨v, hv, j, hj, hn⟩)

theorem plain_statements (hblock : BlocksWorded taken blocks block) {items : List Value}
    (hitems : ∀ v ∈ items, StatementGrants taken v ∧ ∀ j ∈ references v, BlockGrants taken blocks j)
    {body : List Stat}
    (h : Runs ((items.map Statement.ofValue).mapM (Statement.toLua site block)) notes body notes')
    : Plain taken (Stat.tokensAll body) := by
  induction items generalizing notes notes' body with
  | nil =>
    rw [List.map_nil, List.mapM_nil, runs_pure] at h
    simp [← h.1, Stat.tokensAll]
  | cons v items ih =>
    rw [List.map_cons, List.mapM_cons] at h
    simp only [runs_bind, runs_pure] at h
    obtain ⟨st, mid, hst, body, mid', hbody, rfl, -⟩ := h
    rw [List.forall_mem_cons] at hitems
    rw [Stat.tokensAll, Program.plain_append]
    exact ⟨plain_statement hblock hitems.1.1 hitems.1.2 hst, ih hitems.2 hbody⟩

theorem blocksWorded (site : Site) (taken : String → Prop) (blocks : List Value) (closed : List Nat)
    : BlocksWorded taken blocks (toLua site (blocks.map Body.ofValue) closed) := by
  induction hlength : closed.length using Nat.strongRecOn generalizing closed with
  | ind n ih =>
    intro i hgrants notes body notes' h
    obtain ⟨items, hmem, hitems, hbody⟩ := runs_toLua h
    have hshorter : (closed.erase i).length < n :=
      hlength ▸ (List.length_erase_add_one hmem).le
    exact plain_statements (ih _ hshorter (closed.erase i) rfl)
      (fun v hv => hgrants.statement hitems hv) hbody

theorem plain_handler {root : Nat} (hgrants : BlockGrants taken blocks root)
    (hevent : Lua.isName site.event → taken site.event)
    (h : Runs (handler site blocks root) notes st notes') : Plain taken st.tokens := by
  simp only [handler, runs_bind, runs_pure] at h
  obtain ⟨body, mid, hbody, rfl, -⟩ := h
  have hbody := blocksWorded site taken blocks _ root hgrants _ _ _ hbody
  have hkey : Plain taken (Lua.Expr.keyTokens site.event) :=
    Program.plain_key fun hname => .inr (hevent hname)
  have hfixed : Plain taken (.symbol "=" :: .keyword "function" :: .keyword "end" ::
      Lua.Expr.parameterTokens ["__self", "event"]) :=
    plain_of_all (by decide)
  simp only [plain_cons] at hfixed
  simp [Stat.tokens, Lua.Expr.tokens, Program.plain_script, hkey, hfixed, hbody]

theorem ExprMeans.not_mem_mimic {v : Value} {t : Lua.Term} (h : ExprMeans site v t notes)
    (r : Mimic.Request) : Note.mimic r ∉ notes := by
  induction h with
  | number | text | boolean | null | var | tile | unknownTile | event | formatNothing => simp
  | format hne h ih => simpa using ih
  | binary hword hx hy ihx ihy | random hx hy ihx ihy => simp [ihx, ihy]
  | apply hword hx ih => exact ih
  | unsupported hword => simp [Site.unsupported]

theorem StatementMeans.event_eq {v : Value} {opened : List Opened} {code : List Lua.Statement}
    {r : Mimic.Request} (h : StatementMeans site v opened code notes) (hr : Note.mimic r ∈ notes)
    : r.event = site.event ∨ ∃ b ∈ opened, Note.mimic r ∈ b.notes := by
  cases h with
  | set hx | update hword hx | log hx | say hx | sound hx => simp [hx.not_mem_mimic] at hr
  | branch hx | branchElse hx | loop hx => exact .inr (by simpa [hx.not_mem_mimic] using hr)
  | mimic =>
    simp only [List.mem_singleton, Note.mimic.injEq] at hr
    exact .inl (hr ▸ rfl)
  | increment | decrement | done | call | emit => simp at hr
  | goto hleast hmost h =>
    simp only [List.mem_flatMap] at hr
    obtain ⟨p, hp, hr⟩ := hr
    exact absurd hr ((h p hp).not_mem_mimic r)
  | unsupported hword => simp [Site.unsupported] at hr

theorem BlockMeans.event_eq {i : Nat} {body : List Lua.Statement} {r : Mimic.Request}
    (h : BlockMeans site blocks i body notes) (hr : Note.mimic r ∈ notes)
    : r.event = site.event := by
  induction h with
  | intro hblock hparts hopened ih =>
    obtain ⟨p, hp, hr⟩ := List.mem_flatMap.mp hr
    rcases (hparts p hp).event_eq hr with h | ⟨b, hb, hr⟩
    . exact h
    . exact ih p hp b hb hr

end PulpGame.Block
