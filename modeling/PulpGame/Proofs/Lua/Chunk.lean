import PulpGame.Proofs.Lua.Parsing

namespace PulpGame.Lua

def Action.statement : Action → Statement
  | .assign target value => .assign [target.term] [value.term]
  | .call e => .call e.term
  | .declare n value => .declare [(n, none)] [value.term]
  | .declareConst n value => .declare [(n, some "const")] [value.term]
  | .leave => .block [.giveBack []]
  | .giveBack value => .giveBack [value.term]

namespace Stat

def choiceOf (first : Expr × Action) : List (Expr × Action) → Action → Statement
  | [], other => .choose first.1.term [first.2.statement] [other.statement]
  | a :: others, other => .choose first.1.term [first.2.statement] [choiceOf a others other]

mutual

def statements : Stat → List Statement
  | .action a => [a.statement]
  | .branch condition body => [.choose condition.term (statementsAll body) []]
  | .branchElse condition body other =>
    [.choose condition.term (statementsAll body) (statementsAll other)]
  | .branchAction condition a _ => [.choose condition.term [a.statement] []]
  | .choose first others other => [choiceOf first others other]
  | .loop condition body => [.loop condition.term (statementsAll body)]
  | .forPairs key value table body =>
    [.forEach [key, value] [.call (.name "pairs") [table.term]] (statementsAll body)]
  | .forCount counter last body =>
    [.forRange counter (.numeral "1") last.term none (statementsAll body)]
  | .assignFunction target parameters body =>
    [.assign [target.term] [.function parameters false (statementsAll body)]]
  | .define target parameters body =>
    [.assign [target.term] [.function parameters false (statementsAll body)]]
  | .comment _ => []

def statementsAll : List Stat → List Statement
  | [] => []
  | s :: ss => s.statements ++ statementsAll ss

end

theorem statementsAll_eq (ss : List Stat) : statementsAll ss = ss.flatMap statements := by
  induction ss with
  | nil => rfl
  | cons s ss ih => rw [statementsAll, ih, List.flatMap_cons]

end Stat

def EndsStatement (ts : List Token) : Prop :=
  ∀ t ∈ ts.head?, isSuffix t = false ∧ priority? t = none ∧ t ≠ .symbol "," ∧ t ≠ .symbol "="

theorem EndsStatement.closes {ts : List Token} (h : EndsStatement ts) (limit : Nat)
    : Closes limit ts := by
  intro t ht
  obtain ⟨hsuffix, hpriority, _⟩ := h t ht
  simp [hsuffix, hpriority]

theorem EndsStatement.ne_comma {ts : List Token} (h : EndsStatement ts) (us : List Token)
    : ts ≠ .symbol "," :: us := by
  rintro rfl
  exact (h _ rfl).2.2.1 rfl

theorem EndsStatement.ne_equals {ts : List Token} (h : EndsStatement ts) (us : List Token)
    : ts ≠ .symbol "=" :: us := by
  rintro rfl
  exact (h _ rfl).2.2.2 rfl

theorem EndsBlock.endsStatement {ts : List Token} (h : EndsBlock ts) : EndsStatement ts := by
  intro t ht
  rcases endsBlock_cases (h t ht) with rfl | rfl | rfl | rfl <;> simp [isSuffix, priority?]

theorem block_of_endsBlock {ts : List Token} (h : EndsBlock ts) : block ts = some ([], ts) := by
  cases ts with
  | nil => rw [block]
  | cons t ts => rw [block, if_pos (h t rfl)]

theorem expressions_one {e : Expr} (h : e.Fits) {rest : List Token} (hrest : EndsStatement rest)
    : expressions (e.tokens ++ rest) = some ([e.term], rest) := by
  have := @expressions_tokens [e] (by simp) (by simpa using h) (by simpa using h.reads) rest
    (hrest.closes 0) hrest.ne_comma
  simpa [Expr.tokenLists, Expr.terms] using this

theorem suffixed_tokens {e : Expr} (h : e.Fits) (happlied : e.isPrefix) {rest : List Token}
    (hrest : ∀ t ∈ rest.head?, isSuffix t = false)
    : suffixed (e.tokens ++ rest) = some (e.term, rest) := by
  rw [h.reads.suffixed happlied]
  exact suffixes_end hrest _

theorem isPlace_term {e : Expr} (h : e.isPlace) : e.isPrefix ∧ e.term.isPlace := by
  cases e <;> simp_all [Expr.isPlace, Expr.isPrefix, Expr.term, Term.isPlace]

theorem isCall_term {e : Expr} (h : e.isCall) : e.isPrefix ∧ e.term.isCall := by
  cases e <;> simp_all [Expr.isCall, Expr.isPrefix, Expr.term, Term.isCall]

theorem statement_assign {target : Expr} {ts rest : List Token} {values : List Term}
    (hplace : target.isPlace) (h : target.Fits) (hvalues : expressions ts = some (values, rest))
    : statement (target.tokens ++ .symbol "=" :: ts) = some (.assign [target.term] values, rest) := by
  obtain ⟨happlied, hterm⟩ := isPlace_term hplace
  have hsuffixed := @suffixed_tokens _ h happlied (.symbol "=" :: ts) (by simp [isSuffix])
  obtain ⟨n, us, htokens⟩ := h.tokens_name happlied
  rw [htokens, List.cons_append] at hsuffixed ⊢
  rw [statement]
  . simp [hsuffixed, hvalues, hterm]
  all_goals simp

theorem statement_call {e : Expr} {rest : List Token} (hcall : e.isCall) (h : e.Fits)
    (hrest : EndsStatement rest) : statement (e.tokens ++ rest) = some (.call e.term, rest) := by
  obtain ⟨happlied, hterm⟩ := isCall_term hcall
  have hsuffixed := @suffixed_tokens _ h happlied rest fun t ht => (hrest t ht).1
  obtain ⟨n, us, htokens⟩ := h.tokens_name happlied
  rw [htokens, List.cons_append] at hsuffixed ⊢
  rw [statement]
  . rw [hsuffixed]
    simp only [Option.bind_eq_bind, Option.bind_some]
    split
    . next ts => exact absurd rfl (hrest.ne_equals ts)
    . next ts => exact absurd rfl (hrest.ne_comma ts)
    . simp [hterm]
  all_goals simp

theorem statement_action {a : Action} (h : a.Fits) (hlast : (Stat.action a).isLast = false)
    {rest : List Token} (hrest : EndsStatement rest)
    : statement (a.tokens ++ rest) = some (a.statement, rest) := by
  cases h with
  | assign hplace ht hv =>
    rw [Action.tokens, List.append_assoc]
    exact statement_assign hplace ht (expressions_one hv hrest)
  | call hcall h => exact statement_call hcall h hrest
  | declare _ hv =>
    have := expressions_one hv hrest
    simp [Action.tokens, statement, declared, attributeOf, this, Action.statement]
  | declareConst _ hv =>
    have := expressions_one hv hrest
    simp [Action.tokens, statement, declared, attributeOf, this, Action.statement]
  | leave =>
    simp only [Action.tokens, List.cons_append, List.nil_append, Action.statement]
    rw [statement, block, values]
    . simp [endsBlock]
    . simp
  | giveBack => simp [Stat.isLast] at hlast

theorem block_statement {t : Token} {ts rest : List Token} {s : Statement}
    (h : statement (t :: ts) = some (s, rest)) (hends : endsBlock t = false)
    (hother : t ≠ .symbol ";" ∧ t ≠ .keyword "return")
    : block (t :: ts) = (block rest).map fun (ss, ts) => (s :: ss, ts) := by
  rw [block, if_neg (by simp [hends]), if_neg hother.1, if_neg hother.2, h]
  cases hrest : block rest <;> simp [hrest]

namespace Stat

structure Reads (s : Stat) : Prop where
  front : s.isLast = false → ∀ rest, EndsStatement rest →
    block (s.tokens ++ rest) = (block rest).map fun (ss, ts) => (s.statements ++ ss, ts)
  back : ∀ rest, EndsBlock rest → block (s.tokens ++ rest) = some (s.statements, rest)

theorem Reads.ofFront {s : Stat}
    (h : ∀ rest, EndsStatement rest →
      block (s.tokens ++ rest) = (block rest).map fun (ss, ts) => (s.statements ++ ss, ts))
    : Reads s where
  front := fun _ => h
  back := by
    intro rest hrest
    rw [h rest hrest.endsStatement, block_of_endsBlock hrest]
    simp

theorem Reads.ofStatement {s : Stat} {st : Statement} {t : Token} {ts : List Token}
    (hstatements : s.statements = [st]) (htokens : s.tokens = t :: ts)
    (hends : endsBlock t = false) (hother : t ≠ .symbol ";" ∧ t ≠ .keyword "return")
    (h : ∀ rest, EndsStatement rest → statement (s.tokens ++ rest) = some (st, rest))
    : Reads s := by
  apply Reads.ofFront
  intro rest hrest
  have := h rest hrest
  rw [htokens, List.cons_append] at this ⊢
  rw [block_statement this hends hother, hstatements]
  rfl

def startsStatement : Token → Bool
  | .keyword w => ["if", "while", "for", "function", "local", "do", "return"].contains w
  | .name _ => true
  | _ => false

theorem Fits.tokens_start {s : Stat} (h : s.Fits) : ∀ t ∈ s.tokens.head?, startsStatement t := by
  have hexpr {e : Expr} {t : Token} {ts : List Token} (h : e.Fits) (happlied : e.isPrefix)
      (ht : t ∈ (e.tokens ++ ts).head?) : startsStatement t := by
    obtain ⟨n, us, htokens⟩ := h.tokens_name happlied
    rw [htokens, List.cons_append, List.head?_cons, Option.mem_def, Option.some.injEq] at ht
    exact ht ▸ rfl
  intro t ht
  cases h with
  | action h =>
    cases h with
    | assign hplace h _ => exact hexpr h (isPlace_term hplace).1 ht
    | call hcall h =>
      rw [tokens, Action.tokens, ← List.append_nil (Expr.tokens _)] at ht
      exact hexpr h (isCall_term hcall).1 ht
    | _ =>
      simp only [tokens, Action.tokens, List.head?_cons, Option.mem_def, Option.some.injEq] at ht
      exact ht ▸ rfl
  | assignFunction hplace h _ _ _ =>
    simp only [tokens, List.append_assoc] at ht
    exact hexpr h (isPlace_term hplace).1 ht
  | comment => simp [tokens] at ht
  | _ =>
    simp only [tokens, armTokens, List.cons_append, List.head?_cons, Option.mem_def,
      Option.some.injEq] at ht
    exact ht ▸ rfl

theorem endsStatement_of_starts {t : Token} (h : startsStatement t) (ts : List Token)
    : EndsStatement (t :: ts) := by
  intro u hu
  simp only [List.head?_cons, Option.mem_def, Option.some.injEq] at hu
  subst hu
  cases t with
  | keyword w =>
    simp only [startsStatement, List.contains_eq_mem, List.mem_cons, List.not_mem_nil, or_false,
      decide_eq_true_eq] at h
    rcases h with rfl | rfl | rfl | rfl | rfl | rfl | rfl <;> simp [isSuffix, priority?]
  | name n => simp [isSuffix, priority?]
  | _ => simp [startsStatement] at h

theorem endsStatement_body {body : List Stat} (h : ∀ s ∈ body, s.Fits) {rest : List Token}
    (hrest : EndsStatement rest) : EndsStatement (tokensAll body ++ rest) := by
  induction body with
  | nil => exact hrest
  | cons s ss ih =>
    have hs := (h s (by simp)).tokens_start
    have hss := ih fun s hs => h s (by simp [hs])
    rw [tokensAll, List.append_assoc]
    cases htokens : s.tokens with
    | nil => exact hss
    | cons t ts => exact endsStatement_of_starts (hs t (by simp [htokens])) _

theorem block_body {body : List Stat} (hfits : ∀ s ∈ body, s.Fits) (h : ∀ s ∈ body, Reads s)
    (hlast : ∀ s ∈ body.dropLast, !s.isLast) {rest : List Token} (hrest : EndsBlock rest)
    : block (tokensAll body ++ rest) = some (statementsAll body, rest) := by
  induction body with
  | nil => exact block_of_endsBlock hrest
  | cons s ss ih =>
    have hs := h s (by simp)
    cases ss with
    | nil => simpa [tokensAll, statementsAll] using hs.back rest hrest
    | cons r rs =>
      have hfront := hs.front (by simpa using hlast s (by simp)) (tokensAll (r :: rs) ++ rest)
        (endsStatement_body (fun s hs => hfits s (by simp [hs])) hrest.endsStatement)
      have hss := ih (fun s hs => hfits s (by simp [hs])) (fun s hs => h s (by simp [hs]))
        fun s hs => hlast s (by simp [hs])
      rw [tokensAll, List.append_assoc, hfront, hss]
      rfl

theorem block_giveBack {value : Expr} (h : value.Fits) {rest : List Token} (hrest : EndsBlock rest)
    : block ((Action.giveBack value).tokens ++ rest) = some ([.giveBack [value.term]], rest) := by
  rw [Action.tokens, List.cons_append, block, values_tokens h h.reads hrest]
  simp [endsBlock]

theorem reads_action {a : Action} (h : a.Fits) : Reads (.action a) := by
  cases h with
  | assign hplace ht hv =>
    obtain ⟨n, ts, htokens⟩ := ht.tokens_name (isPlace_term hplace).1
    apply Reads.ofStatement rfl (by rw [tokens, Action.tokens, htokens]; rfl) rfl (by simp)
    intro rest hrest
    exact statement_action (.assign hplace ht hv) rfl hrest
  | call hcall h =>
    obtain ⟨n, ts, htokens⟩ := h.tokens_name (isCall_term hcall).1
    apply Reads.ofStatement rfl (by rw [tokens, Action.tokens, htokens]) rfl (by simp)
    intro rest hrest
    exact statement_action (.call hcall h) rfl hrest
  | declare hn hv =>
    apply Reads.ofStatement rfl rfl rfl (by simp)
    intro rest hrest
    exact statement_action (.declare hn hv) rfl hrest
  | declareConst hn hv =>
    apply Reads.ofStatement rfl rfl rfl (by simp)
    intro rest hrest
    exact statement_action (.declareConst hn hv) rfl hrest
  | leave =>
    apply Reads.ofStatement rfl rfl rfl (by simp)
    intro rest hrest
    exact statement_action .leave rfl hrest
  | giveBack hv =>
    refine ⟨by simp [isLast], ?_⟩
    intro rest hrest
    exact block_giveBack hv hrest

abbrev BodyReads (body : List Stat) : Prop :=
  ∀ rest, EndsBlock rest → block (tokensAll body ++ rest) = some (statementsAll body, rest)

theorem closes_keyword {w : String} (h : w ≠ "or" ∧ w ≠ "and") (limit : Nat) (ts : List Token)
    : Closes limit (.keyword w :: ts) := by
  apply closes_cons rfl
  unfold priority?
  split <;> simp_all

theorem choice_branch {condition : Expr} (hcondition : condition.Fits) {body : List Token}
    {ss : List Statement} {rest : List Token}
    (hbody : ∀ ts, EndsBlock ts → block (body ++ ts) = some (ss, ts))
    : choice (condition.tokens ++ .keyword "then" :: (body ++ .keyword "end" :: rest)) =
      some (.choose condition.term ss [], rest) := by
  have hexpression := hcondition.reads.whole hcondition
    (closes_keyword (w := "then") (by decide) 0 (body ++ .keyword "end" :: rest))
  rw [choice, hexpression]
  simp [hbody _ (endsBlock_end rest)]

theorem reads_branch {condition : Expr} {body : List Stat} (hcondition : condition.Fits)
    (hbody : BodyReads body) : Reads (.branch condition body) := by
  apply Reads.ofStatement rfl rfl rfl (by simp)
  intro rest _
  simp only [tokens, List.cons_append, List.append_assoc, List.nil_append]
  rw [statement, choice_branch hcondition hbody]

theorem reads_branchElse {condition : Expr} {body other : List Stat} (hcondition : condition.Fits)
    (hbody : BodyReads body) (hother : BodyReads other)
    : Reads (.branchElse condition body other) := by
  have helse : ∀ ts, EndsBlock (.keyword "else" :: ts) := by simp [EndsBlock, endsBlock]
  apply Reads.ofStatement rfl rfl rfl (by simp)
  intro rest _
  simp only [tokens, List.cons_append, List.append_assoc, List.nil_append]
  rw [statement, choice, hcondition.reads.whole hcondition (closes_keyword (by decide) 0 _)]
  simp [hbody _ (helse _), hother _ (endsBlock_end rest)]

theorem reads_branchAction {condition : Expr} {a : Action} {words : String}
    (hcondition : condition.Fits) (h : a.Fits) : Reads (.branchAction condition a words) := by
  apply Reads.ofStatement rfl rfl rfl (by simp)
  intro rest _
  have hbody : ∀ ts, EndsBlock ts → block (a.tokens ++ ts) = some ([a.statement], ts) :=
    (reads_action h).back
  simp only [tokens, armTokens, List.cons_append, List.append_assoc, List.nil_append]
  rw [statement, choice_branch hcondition hbody]

theorem choice_choose {first : Expr × Action} {others : List (Expr × Action)} {other : Action}
    (hfirst : first.1.Fits ∧ first.2.Fits) (hothers : ∀ a ∈ others, a.1.Fits ∧ a.2.Fits)
    (hother : other.Fits) (rest : List Token)
    : choice (first.1.tokens ++ .keyword "then" :: (first.2.tokens ++
        (others.flatMap (armTokens "elseif") ++
          .keyword "else" :: (other.tokens ++ .keyword "end" :: rest)))) =
      some (choiceOf first others other, rest) := by
  have helse : ∀ ts, EndsBlock (.keyword "else" :: ts) := by simp [EndsBlock, endsBlock]
  have helseif : ∀ ts, EndsBlock (.keyword "elseif" :: ts) := by simp [EndsBlock, endsBlock]
  induction others generalizing first with
  | nil =>
    have hbody := (reads_action hfirst.2).back _
      (helse (other.tokens ++ .keyword "end" :: rest))
    have hlast := (reads_action hother).back _ (endsBlock_end rest)
    rw [tokens] at hbody hlast
    rw [choice, hfirst.1.reads.whole hfirst.1 (closes_keyword (by decide) 0 _)]
    simp [hbody, hlast, choiceOf, statements]
  | cons a others ih =>
    have hrest := ih (hothers a (by simp)) fun b hb => hothers b (by simp [hb])
    have hbody := (reads_action hfirst.2).back _ (helseif (a.1.tokens ++
      .keyword "then" :: (a.2.tokens ++ (others.flatMap (armTokens "elseif") ++
        .keyword "else" :: (other.tokens ++ .keyword "end" :: rest)))))
    rw [tokens] at hbody
    rw [choice, hfirst.1.reads.whole hfirst.1 (closes_keyword (by decide) 0 _)]
    simp [armTokens, hbody, hrest, choiceOf, statements]

theorem reads_choose {first : Expr × Action} {others : List (Expr × Action)} {other : Action}
    (hfirst : first.1.Fits ∧ first.2.Fits) (hothers : ∀ a ∈ others, a.1.Fits ∧ a.2.Fits)
    (hother : other.Fits) : Reads (.choose first others other) := by
  apply Reads.ofStatement rfl rfl rfl (by simp)
  intro rest _
  simp only [tokens, armTokens, List.cons_append, List.append_assoc, List.nil_append]
  rw [statement, choice_choose hfirst hothers hother]

theorem reads_loop {condition : Expr} {body : List Stat} (hcondition : condition.Fits)
    (hbody : BodyReads body) : Reads (.loop condition body) := by
  apply Reads.ofStatement rfl rfl rfl (by simp)
  intro rest _
  simp only [tokens, List.cons_append, List.append_assoc, List.nil_append]
  rw [statement, hcondition.reads.whole hcondition (closes_keyword (by decide) 0 _)]
  simp [hbody _ (endsBlock_end rest)]

theorem reads_forPairs {key value : String} {table : Expr} {body : List Stat} (htable : table.Fits)
    (hbody : BodyReads body) : Reads (.forPairs key value table body) := by
  apply Reads.ofStatement rfl rfl rfl (by simp)
  intro rest _
  have hpairs : (Expr.call (.name "pairs") [table]).Fits :=
    .call rfl (.name rfl) (by simpa using htable)
  have hvalues := @expressions_one _ hpairs
    (.keyword "do" :: (tokensAll body ++ .keyword "end" :: rest))
    (endsStatement_of_starts rfl _)
  simp only [Expr.tokens, Expr.tokenLists, List.intercalate_singleton, List.cons_append,
    List.append_assoc, List.nil_append] at hvalues
  simp only [tokens, List.cons_append, List.append_assoc, List.nil_append]
  rw [statement]
  . simp [names, hvalues, hbody _ (endsBlock_end rest), Expr.term, Expr.terms]
  . simp

theorem reads_forCount {counter : String} {last : Expr} {body : List Stat} (hlast : last.Fits)
    (hbody : BodyReads body) : Reads (.forCount counter last body) := by
  apply Reads.ofStatement rfl rfl rfl (by simp)
  intro rest _
  have hone : (Expr.numeral "1").Fits := .numeral (.plain (isDecimal_nat 1))
  have hvalues := @expressions_tokens [.numeral "1", last] (by simp) (by simp [hone, hlast])
    (by simp [hone.reads, hlast.reads])
    (.keyword "do" :: (tokensAll body ++ .keyword "end" :: rest))
    (closes_keyword (by decide) 0 _) (by simp)
  simp only [Expr.tokens, Expr.tokenLists, List.intercalate_cons_cons,
    List.intercalate_singleton, List.cons_append, List.append_assoc, List.nil_append] at hvalues
  have hnumeral : signedTokens "1" = [.numeral "1"] := rfl
  rw [hnumeral, List.singleton_append] at hvalues
  simp only [tokens, List.cons_append, List.append_assoc, List.nil_append]
  rw [statement, hvalues]
  simp [hbody _ (endsBlock_end rest), Expr.terms, Expr.term, numeralTerm]

theorem operand_function {parameters : List String} {body : List Stat} (hbody : BodyReads body)
    (rest : List Token)
    : _functionBody (Expr.parameterTokens parameters ++ (tokensAll body ++ .keyword "end" :: rest)) =
      some (.function parameters false (statementsAll body), rest) := by
  have hparameters := @parameters_tokens parameters (tokensAll body ++ .keyword "end" :: rest)
  simp only [Expr.parameterTokens, List.cons_append, List.append_assoc, List.nil_append]
  rw [_functionBody]
  simp [hparameters, hbody _ (endsBlock_end rest)]

theorem reads_assignFunction {target : Expr} {parameters : List String} {body : List Stat}
    (hplace : target.isPlace) (htarget : target.Fits) (hbody : BodyReads body)
    : Reads (.assignFunction target parameters body) := by
  obtain ⟨n, us, htokens⟩ := htarget.tokens_name (isPlace_term hplace).1
  apply Reads.ofStatement rfl (by rw [tokens, htokens]; rfl) rfl (by simp)
  intro rest hrest
  have hfunction := @operand_function parameters _ hbody rest
  have hvalues : expressions (.keyword "function" :: (Expr.parameterTokens parameters ++
      (tokensAll body ++ .keyword "end" :: rest))) =
      some ([.function parameters false (statementsAll body)], rest) := by
    have hoperand : operand (.keyword "function" :: (Expr.parameterTokens parameters ++
        (tokensAll body ++ .keyword "end" :: rest))) =
        some (.function parameters false (statementsAll body), rest) := by
      simp [operand, unary?, hfunction]
    have hoperators := (hrest.closes 0).operators (.function parameters false (statementsAll body))
    rw [expressions, expression, hoperand]
    simp only [Option.bind_eq_bind, Option.bind_some, hoperators]
    split
    . next ts => exact absurd rfl (hrest.ne_comma ts)
    . rfl
  simp only [tokens, List.cons_append, List.append_assoc, List.nil_append]
  exact statement_assign hplace htarget hvalues

theorem functionName_tokens {target : Expr} (hpath : isPath target) : ∃ n us,
    target.tokens = .name n :: us ∧
      ∀ ts, functionName (.name n) (us ++ ts) = functionName target.term ts := by
  fun_induction isPath target with
  | case1 n => exact ⟨n, [], rfl, fun _ => rfl⟩
  | case2 table key ih =>
    simp only [Bool.and_eq_true] at hpath
    obtain ⟨n, us, htokens, hname⟩ := ih hpath.1
    refine ⟨n, us ++ Expr.keyTokens key, by simp [Expr.tokens, htokens], ?_⟩
    intro ts
    rw [List.append_assoc, hname, Expr.keyTokens, if_pos hpath.2]
    rfl
  | case3 => simp at hpath

theorem reads_define {target : Expr} {parameters : List String} {body : List Stat}
    (hpath : isPath target) (hbody : BodyReads body) : Reads (.define target parameters body) := by
  apply Reads.ofStatement rfl rfl rfl (by simp)
  intro rest _
  obtain ⟨n, us, htokens, hname⟩ := functionName_tokens hpath
  have hplace : functionName target.term (Expr.parameterTokens parameters ++
      (tokensAll body ++ .keyword "end" :: rest)) = some (target.term, none,
        Expr.parameterTokens parameters ++ (tokensAll body ++ .keyword "end" :: rest)) := by
    rw [Expr.parameterTokens, List.cons_append, functionName]
    . simp
    . simp
  simp only [tokens, htokens, List.cons_append, List.append_assoc, List.nil_append]
  rw [statement, hname, hplace]
  simp [operand_function hbody rest, Statement.define]

theorem Fits.reads {s : Stat} (h : s.Fits) : Reads s := by
  induction h with
  | action h => exact reads_action h
  | branch hcondition hbody hlast ih =>
    exact reads_branch hcondition fun _ => block_body hbody ih hlast
  | branchElse hcondition hbody hlast hother hlast' ih ih' =>
    exact reads_branchElse hcondition (fun _ => block_body hbody ih hlast)
      fun _ => block_body hother ih' hlast'
  | branchAction hcondition ha => exact reads_branchAction hcondition ha
  | choose hfirst hothers hother => exact reads_choose hfirst hothers hother
  | loop hcondition hbody hlast ih =>
    exact reads_loop hcondition fun _ => block_body hbody ih hlast
  | forPairs _ _ htable hbody hlast ih =>
    exact reads_forPairs htable fun _ => block_body hbody ih hlast
  | forCount _ hend hbody hlast ih =>
    exact reads_forCount hend fun _ => block_body hbody ih hlast
  | assignFunction hplace htarget _ hbody hlast ih =>
    exact reads_assignFunction hplace htarget fun _ => block_body hbody ih hlast
  | define hpath _ _ hbody hlast ih =>
    exact reads_define hpath fun _ => block_body hbody ih hlast
  | comment =>
    apply Reads.ofFront
    intro rest _
    cases hrest : block rest <;> simp [tokens, statements, hrest]

end Stat

theorem parse_spelled {ok : Char → Bool} {text : String} {body : List Stat}
    (hspells : Spells ok text (Stat.tokensAll body)) (h : ∀ s ∈ body, s.Fits)
    (hlast : ∀ s ∈ body.dropLast, !s.isLast)
    : parse text = some (Stat.statementsAll body) := by
  have hblock := Stat.block_body h (fun s hs => (h s hs).reads) hlast
    (by simp [EndsBlock] : EndsBlock [])
  rw [List.append_nil] at hblock
  simp [parse, hspells.tokens?_eq, hblock]

/-- Generated code is parsed as what it stands for. -/
theorem parse_chunk {body : List Stat} (h : ∀ s ∈ body, s.Fits)
    (hlast : ∀ s ∈ body.dropLast, !s.isLast)
    : parse (chunkText body) = some (Stat.statementsAll body) :=
  parse_spelled (spells_chunk h) h hlast

end PulpGame.Lua
