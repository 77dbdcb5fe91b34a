import PulpGame.Proofs.Lua.Text

namespace PulpGame.Lua

def numeralTerm (digits : String) : Term :=
  match digits.toList with
  | '-' :: cs => .unary "-" (.numeral (String.ofList cs))
  | _ => .numeral digits

theorem numeralTerm_of_isDecimal {digits : String} (h : IsDecimal digits.toList)
    : numeralTerm digits = .numeral digits := by
  obtain ⟨c, cs, hchars, hc⟩ := h.head
  unfold numeralTerm
  split
  . next hminus =>
    rw [hminus] at hchars
    cases hchars
    cases hc
  . rfl

def concatTerm : List Term → Term
  | [] => .string ""
  | [t] => t
  | t :: ts => .binary ".." t (concatTerm ts)

namespace Expr

mutual

def term : Expr → Term
  | .nil => .nil
  | .boolean value => .boolean value
  | .numeral digits => numeralTerm digits
  | .string value => .string value
  | .name n => .name n
  | .field table key => .index table.term (.string key)
  | .index table key => .index table.term key.term
  | .call f xs => .call f.term (terms xs)
  | .callString f value => .call f.term [.string value]
  | .invoke object method xs => .invoke object.term method (terms xs)
  | .binary op left right => .binary op left.term right.term
  | .negation operand => .unary "not" operand.term
  | .concat parts => concatTerm (terms parts)
  | .group inner => .group inner.term
  | .tableOf _ fields => .table (fieldTerms fields)
  | .lambda parameters result => .function parameters false [.giveBack [result.term]]

def terms : List Expr → List Term
  | [] => []
  | e :: es => e.term :: terms es

def fieldTerms : List (String × Expr) → List (Option Term × Term)
  | [] => []
  | (key, e) :: fs => (some (.string key), e.term) :: fieldTerms fs

end

theorem terms_eq (es : List Expr) : terms es = es.map term := by
  induction es with
  | nil => rfl
  | cons e es ih => rw [terms, ih, List.map_cons]

end Expr

def isSuffix : Token → Bool
  | .symbol s => [".", "[", ":", "(", "\x7b"].contains s
  | .string _ => true
  | _ => false

/-- Tokens that go on with nothing that binds more than `limit`. -/
def Closes (limit : Nat) (ts : List Token) : Prop :=
  ∀ t ∈ ts.head?, isSuffix t = false ∧ ∀ p ∈ priority? t, p.2.1 ≤ limit

theorem Closes.mono {limit limit' : Nat} {ts : List Token} (h : Closes limit ts)
    (hle : limit ≤ limit') : Closes limit' ts := by
  intro t ht
  obtain ⟨hsuffix, hpriority⟩ := h t ht
  refine ⟨hsuffix, ?_⟩
  intro p hp
  have := hpriority p hp
  omega

theorem suffixes_end {ts : List Token} (h : ∀ t ∈ ts.head?, isSuffix t = false) (x : Term)
    : suffixes x ts = some (x, ts) := by
  rw [suffixes]
  all_goals
    intros
    subst ts
    have := h _ rfl
    simp [isSuffix] at this

theorem Closes.suffixes {limit : Nat} {ts : List Token} (h : Closes limit ts) (x : Term)
    : suffixes x ts = some (x, ts) :=
  suffixes_end (fun t ht => (h t ht).1) x

theorem Closes.operators {limit : Nat} {ts : List Token} (h : Closes limit ts) (x : Term)
    : operators limit x ts = some (x, ts) := by
  cases ts with
  | nil => rw [Lua.operators]
  | cons t ts =>
    rw [Lua.operators]
    cases hp : priority? t with
    | none => rfl
    | some p =>
      obtain ⟨op, before, behind⟩ := p
      have := (h t (by simp)).2 _ hp
      dsimp only at this ⊢
      rw [if_neg (by omega)]

theorem closes_cons {t : Token} (hsuffix : isSuffix t = false) (hpriority : priority? t = none)
    (limit : Nat) (ts : List Token) : Closes limit (t :: ts) := by
  intro u hu
  simp only [List.head?_cons, Option.mem_def, Option.some.injEq] at hu
  subst hu
  simp [hsuffix, hpriority]

@[simp]
theorem closes_closing (limit : Nat) (ts : List Token) : Closes limit (.symbol ")" :: ts) :=
  closes_cons rfl rfl limit ts

@[simp]
theorem closes_bracket (limit : Nat) (ts : List Token) : Closes limit (.symbol "]" :: ts) :=
  closes_cons rfl rfl limit ts

@[simp]
theorem closes_brace (limit : Nat) (ts : List Token) : Closes limit (.symbol "\x7d" :: ts) :=
  closes_cons rfl rfl limit ts

@[simp]
theorem closes_comma (limit : Nat) (ts : List Token) : Closes limit (.symbol "," :: ts) :=
  closes_cons rfl rfl limit ts

@[simp]
theorem take_cons (t : Token) (ts : List Token) : take t (t :: ts) = some ts := by
  simp [take]

/-- How a tree is read out of its tokens: by itself, behind an operator, and with what is applied
to it. -/
structure Reads (e : Expr) : Prop where
  expression : ∀ limit < e.rank, limit ≤ unaryPriority → ∀ rest, Closes limit rest →
    expression limit (e.tokens ++ rest) = some (e.term, rest)
  operand : unaryPriority < e.rank → ∀ rest, Closes unaryPriority rest →
    operand (e.tokens ++ rest) = some (e.term, rest)
  suffixed : e.isPrefix → ∀ rest, suffixed (e.tokens ++ rest) = suffixes e.term rest

theorem Reads.ofOperand {e : Expr} (happlied : e.isPrefix = false)
    (h : ∀ rest, Closes unaryPriority rest → Lua.operand (e.tokens ++ rest) = some (e.term, rest))
    : Reads e where
  expression := by
    intro limit _ hlimit rest hrest
    rw [Lua.expression, h rest (hrest.mono hlimit)]
    exact hrest.operators e.term
  operand := by
    intro _
    exact h
  suffixed := by simp [happlied]

theorem Reads.ofSuffixed {e : Expr} {n : String} {ts : List Token}
    (htokens : e.tokens = .name n :: ts)
    (h : ∀ rest, Lua.suffixed (e.tokens ++ rest) = suffixes e.term rest) : Reads e := by
  have hoperand : ∀ rest, Closes unaryPriority rest →
      Lua.operand (e.tokens ++ rest) = some (e.term, rest) := by
    intro rest hrest
    have := h rest
    rw [htokens, List.cons_append] at this ⊢
    rw [Lua.operand]
    . simp only [unary?]
      rw [this]
      exact hrest.suffixes e.term
    all_goals simp
  refine ⟨?_, fun _ => hoperand, fun _ => h⟩
  intro limit _ hlimit rest hrest
  rw [Lua.expression, hoperand rest (hrest.mono hlimit)]
  exact hrest.operators e.term

theorem priority?_operator {op : String} (h : isOperator op)
    : ∃ before behind, priority? (operatorToken op) = some (op, before, behind) ∧ 0 < before ∧
      before < unaryPriority ∧ behind ≤ unaryPriority ∧ before ≤ behind + 1 := by
  rcases isOperator_cases h with rfl | rfl | ⟨_, htoken⟩
  . exact ⟨1, 1, by decide⟩
  . exact ⟨2, 2, by decide⟩
  . unfold isOperator at h
    rw [htoken] at h ⊢
    unfold priority? unaryPriority at *
    dsimp only at h ⊢
    split_ifs at h ⊢
    all_goals first
      | exact ⟨_, _, rfl, by decide⟩
      | simp at h

theorem isSuffix_operator {op : String} (h : isOperator op)
    : isSuffix (operatorToken op) = false := by
  rcases isOperator_cases h with rfl | rfl | ⟨_, htoken⟩
  . rfl
  . rfl
  . by_contra hsuffix
    unfold isOperator at h
    rw [htoken] at h hsuffix
    simp only [isSuffix, Bool.not_eq_false, List.contains_eq_mem, List.mem_cons,
      List.not_mem_nil, or_false, decide_eq_true_eq] at hsuffix
    rcases hsuffix with rfl | rfl | rfl | rfl | rfl <;> simp [priority?] at h

theorem expression_operator {limit before behind : Nat} {e : Expr} {op : String} {t : Token}
    {right : Term} {ts rest : List Token} (he : Reads e) (hrank : unaryPriority < e.rank)
    (hsuffix : isSuffix t = false) (hpriority : priority? t = some (op, before, behind))
    (hlimit : limit < before) (hbefore : before ≤ unaryPriority)
    (hright : expression behind ts = some (right, rest)) (hrest : Closes limit rest)
    : expression limit (e.tokens ++ t :: ts) = some (.binary op e.term right, rest) := by
  have hcloses : Closes unaryPriority (t :: ts) := by
    intro u hu
    simp only [List.head?_cons, Option.mem_def, Option.some.injEq] at hu
    subst hu
    refine ⟨hsuffix, ?_⟩
    simpa [hpriority] using hbefore
  rw [expression, he.operand hrank _ hcloses]
  dsimp only [Option.bind_eq_bind, Option.bind_some]
  rw [operators, hpriority]
  dsimp only
  rw [if_pos hlimit, hright]
  exact hrest.operators _

theorem reads_binary {op : String} {left right : Expr} (hop : isOperator op)
    (hleft : unaryPriority < left.rank) (hright : Expr.reach op < right.rank) (hl : Reads left)
    (hr : Reads right) : Reads (.binary op left right) := by
  obtain ⟨before, behind, hpriority, _, hbefore, hbehind, hnext⟩ := priority?_operator hop
  have hrank : (Expr.binary op left right).rank = before := by simp [Expr.rank, hpriority]
  have hreach : Expr.reach op = behind := by simp [Expr.reach, hpriority]
  refine ⟨?_, by omega, by simp [Expr.isPrefix]⟩
  intro limit hlimit _ rest hrest
  have hexpression := hr.expression behind (by omega) hbehind rest (hrest.mono (by omega))
  rw [Expr.tokens, List.append_assoc, List.cons_append]
  exact expression_operator hl hleft (isSuffix_operator hop) hpriority (by omega) (by omega)
    hexpression hrest

theorem reads_concat {parts : List Expr} (hne : parts ≠ [])
    (hrank : ∀ p ∈ parts, unaryPriority < p.rank) (h : ∀ p ∈ parts, Reads p)
    : Reads (.concat parts) := by
  refine ⟨?_, by simp [Expr.rank, unaryPriority], by simp [Expr.isPrefix]⟩
  intro limit hlimit _ rest hrest
  have hlimit : limit < 9 := hlimit
  rw [Expr.tokens, Expr.term]
  clear * - hne hrank h hlimit hrest
  induction parts generalizing limit with
  | nil => exact absurd rfl hne
  | cons p ps ih =>
    have hp := h p (by simp)
    have hprank := hrank p (by simp)
    cases ps with
    | nil =>
      simp only [Expr.tokenLists, List.intercalate_singleton, Expr.terms, concatTerm]
      have hle : limit ≤ unaryPriority := by
        unfold unaryPriority
        omega
      exact hp.expression limit (by omega) hle rest hrest
    | cons q qs =>
      have hbehind := ih (by simp) (fun p hp => hrank p (by simp [hp]))
        (fun p hp => h p (by simp [hp])) 8 (hrest.mono (by omega)) (by decide)
      rw [Expr.tokenLists, Expr.tokenLists, List.intercalate_cons_cons, List.append_assoc,
        List.append_assoc, List.singleton_append]
      exact expression_operator hp hprank rfl (by simp [priority?]) hlimit (by decide) hbehind hrest

def startsTerm : Token → Bool
  | .keyword w => ["nil", "true", "false", "not", "function"].contains w
  | .symbol s => ["-", "(", "\x7b"].contains s
  | _ => true

theorem Expr.Fits.tokens_name {e : Expr} (h : e.Fits) (happlied : e.isPrefix)
    : ∃ n ts, e.tokens = .name n :: ts := by
  induction h with
  | name _ => exact ⟨_, _, rfl⟩
  | field ht _ ih | index ht _ _ ih | call ht _ _ ih | callString ht _ ih
    | invoke ht _ _ _ ih =>
    obtain ⟨n, ts, htokens⟩ := ih ht
    refine ⟨n, ?_⟩
    simp [tokens, htokens]
  | _ => simp [isPrefix] at happlied

theorem list_start {sep : Token} {xs : List Expr} (hne : xs ≠ [])
    (h : ∀ x ∈ xs, ∃ t ts, x.tokens = t :: ts ∧ startsTerm t)
    : ∃ t ts, [sep].intercalate (Expr.tokenLists xs) = t :: ts ∧ startsTerm t := by
  obtain ⟨x, xs, rfl⟩ := List.exists_cons_of_ne_nil hne
  obtain ⟨t, ts, htokens, ht⟩ := h x (by simp)
  refine ⟨t, ?_⟩
  cases xs with
  | nil => simp [Expr.tokenLists, htokens, ht]
  | cons y ys => simp [Expr.tokenLists, htokens, ht]

theorem Expr.Fits.tokens_start {e : Expr} (h : e.Fits)
    : ∃ t ts, e.tokens = t :: ts ∧ startsTerm t := by
  induction h with
  | nil => exact ⟨_, _, rfl, rfl⟩
  | @boolean value => cases value <;> exact ⟨_, _, rfl, rfl⟩
  | numeral h =>
    unfold tokens signedTokens
    split
    . exact ⟨_, _, rfl, rfl⟩
    . exact ⟨_, _, rfl, rfl⟩
  | string | name => exact ⟨_, _, rfl, rfl⟩
  | field _ _ ih | index _ _ _ ih | call _ _ _ ih | callString _ _ ih | invoke _ _ _ _ ih
    | binary _ _ _ _ _ ih =>
    obtain ⟨t, ts, htokens, ht⟩ := ih
    refine ⟨t, ?_⟩
    simp [tokens, htokens, ht]
  | negation => exact ⟨_, _, rfl, rfl⟩
  | concat hne _ _ ih => exact list_start hne ih
  | group => exact ⟨_, _, rfl, rfl⟩
  | @tableOf layout _ _ => cases layout <;> exact ⟨_, _, rfl, rfl⟩
  | lambda => exact ⟨_, _, rfl, rfl⟩

theorem Expr.Fits.rank_pos {e : Expr} (h : e.Fits) : 0 < e.rank := by
  cases h with
  | binary hop =>
    obtain ⟨before, behind, hpriority, hpos, _⟩ := priority?_operator hop
    simpa [rank, hpriority] using hpos
  | _ => simp [rank, unaryPriority]

theorem Reads.whole {e : Expr} (h : Reads e) (hfits : e.Fits) {rest : List Token}
    (hrest : Closes 0 rest) : Lua.expression 0 (e.tokens ++ rest) = some (e.term, rest) :=
  h.expression 0 hfits.rank_pos (by decide) rest hrest

theorem expressions_tokens {xs : List Expr} (hne : xs ≠ []) (hfits : ∀ x ∈ xs, x.Fits)
    (h : ∀ x ∈ xs, Reads x) {rest : List Token} (hrest : Closes 0 rest)
    (hcomma : ∀ ts, rest ≠ .symbol "," :: ts)
    : expressions ([.symbol ","].intercalate (Expr.tokenLists xs) ++ rest) =
      some (Expr.terms xs, rest) := by
  induction xs with
  | nil => exact absurd rfl hne
  | cons x xs ih =>
    have hx := h x (by simp)
    have hxfits := hfits x (by simp)
    cases xs with
    | nil =>
      rw [Expr.tokenLists, Expr.tokenLists, List.intercalate_singleton, expressions,
        hx.whole hxfits hrest]
      dsimp only [Option.bind_eq_bind, Option.bind_some]
      split
      . next ts => exact absurd rfl (hcomma ts)
      . rfl
    | cons y ys =>
      have hxs := ih (by simp) (fun x hx => hfits x (by simp [hx])) (fun x hx => h x (by simp [hx]))
      rw [Expr.tokenLists, Expr.tokenLists, List.intercalate_cons_cons, List.append_assoc,
        List.append_assoc, List.singleton_append, expressions, hx.whole hxfits (by simp)]
      rw [Expr.tokenLists] at hxs
      simp only [Option.bind_eq_bind, Option.bind_some, hxs]
      rfl

theorem arguments_tokens {xs : List Expr} (hfits : ∀ x ∈ xs, x.Fits) (h : ∀ x ∈ xs, Reads x)
    (rest : List Token)
    : arguments (.symbol "(" :: [.symbol ","].intercalate (Expr.tokenLists xs) ++
        .symbol ")" :: rest) = some (Expr.terms xs, rest) := by
  cases xs with
  | nil =>
    simp only [Expr.tokenLists, List.intercalate_nil, List.cons_append, List.nil_append, arguments]
    rfl
  | cons x xs =>
    have hlist := expressions_tokens (List.cons_ne_nil x xs) hfits h
      (closes_closing 0 rest) (by simp)
    obtain ⟨t, ts, htokens, ht⟩ := @list_start (.symbol ",") _ (List.cons_ne_nil x xs)
      fun x hx => (hfits x hx).tokens_start
    rw [List.cons_append, arguments, hlist]
    . simp
    . intro us hus
      rw [htokens, List.cons_append, List.cons.injEq] at hus
      rw [hus.1] at ht
      simp [startsTerm] at ht

theorem parameters_tokens {ns : List String} (rest : List Token)
    : parameters ([.symbol ","].intercalate (ns.map fun n => [.name n]) ++ .symbol ")" :: rest) =
      some (ns, false, rest) := by
  induction ns with
  | nil => rfl
  | cons n ns ih =>
    cases ns with
    | nil => rfl
    | cons m ms =>
      simp only [List.map_cons] at ih ⊢
      obtain ⟨ts, hts⟩ : ∃ ts, [Token.symbol ","].intercalate ([.name m] :: ms.map fun n => [.name n])
          ++ .symbol ")" :: rest = .name m :: ts := by
        cases ms with
        | nil => exact ⟨_, rfl⟩
        | cons k ks => exact ⟨_, rfl⟩
      rw [List.intercalate_cons_cons, List.append_assoc, List.append_assoc, List.singleton_append,
        List.singleton_append]
      rw [hts] at ih ⊢
      rw [parameters, ih]
      rfl

theorem fields_inline {fs : List (String × Expr)} (hfits : ∀ f ∈ fs, f.2.Fits)
    (h : ∀ f ∈ fs, Reads f.2) (rest : List Token)
    : fields (((Expr.fieldTokens fs).map (· ++ [.symbol ","])).flatten ++
        .symbol "\x7d" :: rest) = some (Expr.fieldTerms fs, rest) := by
  induction fs with
  | nil => simp [Expr.fieldTokens, Expr.fieldTerms, fields]
  | cons f fs ih =>
    obtain ⟨key, e⟩ := f
    have he := (h (key, e) (by simp)).whole (hfits (key, e) (by simp))
      (closes_comma 0 (((Expr.fieldTokens fs).map (· ++ [.symbol ","])).flatten ++
        .symbol "\x7d" :: rest))
    have hfs := ih (fun f hf => hfits f (by simp [hf])) (fun f hf => h f (by simp [hf]))
    simp only [Expr.fieldTokens, List.map_cons, List.flatten_cons, List.cons_append,
      List.append_assoc, List.nil_append]
    rw [fields, field, he]
    . simp only [Option.bind_eq_bind, Option.bind_some, Option.pure_def, hfs, Expr.fieldTerms]
    . simp

theorem fields_lines {fs : List (String × Expr)} (hfits : ∀ f ∈ fs, f.2.Fits)
    (h : ∀ f ∈ fs, Reads f.2) (rest : List Token)
    : fields ([.symbol ","].intercalate (Expr.fieldTokens fs) ++ .symbol "\x7d" :: rest) =
      some (Expr.fieldTerms fs, rest) := by
  induction fs with
  | nil => simp [Expr.fieldTokens, Expr.fieldTerms, fields]
  | cons f fs ih =>
    obtain ⟨key, e⟩ := f
    have he {ts : List Token} (hts : Closes 0 ts) :=
      (h (key, e) (by simp)).whole (hfits (key, e) (by simp)) hts
    have hfs := ih (fun f hf => hfits f (by simp [hf])) (fun f hf => h f (by simp [hf]))
    cases fs with
    | nil =>
      simp only [Expr.fieldTokens, List.intercalate_singleton, List.cons_append]
      rw [fields, field, he (by simp)]
      . simp [Expr.fieldTerms]
      . simp
    | cons g gs =>
      rw [Expr.fieldTokens] at hfs
      simp only [Expr.fieldTokens, List.intercalate_cons_cons, List.cons_append,
        List.append_assoc, List.nil_append] at hfs ⊢
      rw [fields, field, he (by simp)]
      . simp only [Option.bind_eq_bind, Option.bind_some, Option.pure_def, hfs, Expr.fieldTerms]
      . simp

theorem operand_numeral (digits : String) (rest : List Token)
    : operand (.numeral digits :: rest) = some (.numeral digits, rest) := by
  simp [operand, unary?]

theorem operand_string (value : String) (rest : List Token)
    : operand (.string value :: rest) = some (.string value, rest) := by
  simp [operand, unary?]

theorem signed_cases (digits : String)
    : (∃ cs, signedTokens digits = [.symbol "-", .numeral (String.ofList cs)] ∧
        numeralTerm digits = .unary "-" (.numeral (String.ofList cs))) ∨
      signedTokens digits = [.numeral digits] ∧ numeralTerm digits = .numeral digits := by
  by_cases hsign : ∃ cs, digits.toList = '-' :: cs
  . obtain ⟨cs, hchars⟩ := hsign
    exact .inl ⟨cs, by simp [signedTokens, hchars], by simp [numeralTerm, hchars]⟩
  . right
    constructor
    . unfold signedTokens
      split
      . next cs hchars => exact absurd ⟨cs, hchars⟩ hsign
      . rfl
    . unfold numeralTerm
      split
      . next cs hchars => exact absurd ⟨cs, hchars⟩ hsign
      . rfl

theorem reads_numeral {digits : String} : Reads (.numeral digits) := by
  apply Reads.ofOperand rfl
  intro rest hrest
  unfold Expr.tokens Expr.term
  rcases signed_cases digits with ⟨cs, htokens, hterm⟩ | ⟨htokens, hterm⟩
  . have hnumeral : expression unaryPriority (.numeral (String.ofList cs) :: rest) =
        some (.numeral (String.ofList cs), rest) := by
      rw [expression, operand_numeral]
      exact hrest.operators _
    rw [htokens, hterm]
    simp [operand, unary?, hnumeral]
  . rw [htokens, hterm]
    exact operand_numeral digits rest

theorem reads_string {value : String} : Reads (.string value) := by
  apply Reads.ofOperand rfl
  intro rest _
  exact operand_string value rest

theorem suffixes_key (x : Term) (key : String) (rest : List Token)
    : suffixes x (Expr.keyTokens key ++ rest) = suffixes (.index x (.string key)) rest := by
  unfold Expr.keyTokens
  split
  . rw [List.cons_append, List.singleton_append, suffixes]
  . have hkey := (@reads_string key).expression 0 (Nat.zero_lt_succ _) (by decide) _ (closes_bracket 0 rest)
    rw [Expr.tokens, List.singleton_append] at hkey
    simp only [List.cons_append, List.nil_append]
    rw [suffixes, hkey]
    simp [Expr.term]

def EndsBlock (ts : List Token) : Prop := ∀ t ∈ ts.head?, endsBlock t

theorem endsBlock_cases {t : Token} (h : endsBlock t)
    : t = .keyword "end" ∨ t = .keyword "else" ∨ t = .keyword "elseif" ∨ t = .keyword "until" := by
  simpa [endsBlock] using h

theorem EndsBlock.closes {ts : List Token} (h : EndsBlock ts) (limit : Nat) : Closes limit ts := by
  intro t ht
  rcases endsBlock_cases (h t ht) with rfl | rfl | rfl | rfl <;> simp [isSuffix, priority?]

theorem EndsBlock.ne_symbol {ts : List Token} (h : EndsBlock ts) (s : String) (us : List Token)
    : ts ≠ .symbol s :: us := by
  rintro rfl
  have := h _ rfl
  simp [endsBlock] at this

theorem not_endsBlock_of_startsTerm {t : Token} (h : startsTerm t) : endsBlock t = false := by
  by_contra hends
  rw [Bool.not_eq_false] at hends
  rcases endsBlock_cases hends with rfl | rfl | rfl | rfl <;> simp [startsTerm] at h

theorem values_tokens {e : Expr} (h : e.Fits) (hreads : Reads e) {rest : List Token}
    (hends : EndsBlock rest) : values (e.tokens ++ rest) = some ([e.term], rest) := by
  obtain ⟨t, ts, htokens, ht⟩ := h.tokens_start
  have hexpressions := @expressions_tokens [e] (by simp) (by simpa using h) (by simpa using hreads)
    rest (hends.closes 0) (hends.ne_symbol ",")
  simp only [Expr.tokenLists, List.intercalate_singleton] at hexpressions
  rw [htokens, List.cons_append] at hexpressions ⊢
  rw [values, if_neg (by simp [not_endsBlock_of_startsTerm ht]), hexpressions]
  . simp only [Option.bind_eq_bind, Option.bind_some]
    split
    . next us => exact absurd rfl (hends.ne_symbol ";" us)
    . rfl
  . rintro rfl
    simp [startsTerm] at ht

theorem endsBlock_end (rest : List Token) : EndsBlock (.keyword "end" :: rest) := by
  intro t ht
  simp only [List.head?_cons, Option.mem_def, Option.some.injEq] at ht
  subst ht
  rfl

theorem Expr.Fits.reads {e : Expr} (h : e.Fits) : Reads e := by
  -- A tree that begins with a name is read as this name and what is applied to it, one after
  -- another. The others, apart from operators, are read as operands.
  induction h with
  | nil =>
    apply Reads.ofOperand rfl
    intro rest _
    simp [tokens, operand, unary?, term]
  | @boolean value =>
    apply Reads.ofOperand rfl
    intro rest _
    cases value <;> simp [tokens, operand, unary?, term]
  | numeral => exact reads_numeral
  | string => exact reads_string
  | @name n h =>
    apply Reads.ofSuffixed rfl
    intro rest
    rw [tokens, List.singleton_append, suffixed, term]
  | @field table key happlied h ih =>
    obtain ⟨n, ts, htokens⟩ := (field happlied h : Fits (.field table key)).tokens_name rfl
    apply Reads.ofSuffixed htokens
    intro rest
    rw [tokens, List.append_assoc, ih.suffixed happlied, suffixes_key, term]
  | @index table key happlied h hkey ih ihkey =>
    obtain ⟨n, ts, htokens⟩ := (index happlied h hkey : Fits (.index table key)).tokens_name rfl
    apply Reads.ofSuffixed htokens
    intro rest
    have hexpression := ihkey.whole hkey (closes_bracket 0 rest)
    simp only [tokens, List.append_assoc, List.cons_append, List.nil_append]
    rw [ih.suffixed happlied, suffixes, hexpression]
    simp [term]
  | @call f xs happlied h hxs ih ihs =>
    obtain ⟨n, ts, htokens⟩ := (call happlied h hxs : Fits (.call f xs)).tokens_name rfl
    apply Reads.ofSuffixed htokens
    intro rest
    have harguments := arguments_tokens hxs ihs rest
    simp only [tokens, List.append_assoc, List.cons_append, List.nil_append] at harguments ⊢
    rw [ih.suffixed happlied, suffixes, harguments]
    simp [term]
  | @callString f value happlied h ih =>
    obtain ⟨n, ts, htokens⟩ := (callString happlied h : Fits (.callString f value)).tokens_name rfl
    apply Reads.ofSuffixed htokens
    intro rest
    simp only [tokens, List.append_assoc, List.cons_append, List.nil_append]
    rw [ih.suffixed happlied, suffixes, arguments]
    simp [term]
  | @invoke object method xs happlied h hmethod hxs ih ihs =>
    obtain ⟨n, ts, htokens⟩ :=
      (invoke happlied h hmethod hxs : Fits (.invoke object method xs)).tokens_name rfl
    apply Reads.ofSuffixed htokens
    intro rest
    have harguments := arguments_tokens hxs ihs rest
    simp only [tokens, List.append_assoc, List.cons_append, List.nil_append] at harguments ⊢
    rw [ih.suffixed happlied, suffixes, harguments]
    simp [term]
  | binary hop hleft hright _ _ ihl ihr => exact reads_binary hop hleft hright ihl ihr
  | @negation operand hrank h ih =>
    apply Reads.ofOperand rfl
    intro rest hrest
    have hexpression := ih.expression unaryPriority hrank (Nat.le_refl _) rest hrest
    simp [tokens, Lua.operand, unary?, hexpression, term]
  | concat hne hrank _ ih => exact reads_concat hne hrank ih
  | @group inner h ih =>
    apply Reads.ofOperand rfl
    intro rest hrest
    have hexpression := ih.whole h (closes_closing 0 rest)
    simp only [tokens, List.append_assoc, List.cons_append, List.nil_append]
    simp [Lua.operand, unary?, suffixed, hexpression, hrest.suffixes, term]
  | @tableOf layout fs _ hfits ih =>
    apply Reads.ofOperand rfl
    intro rest _
    cases layout with
    | inline =>
      have hfields := fields_inline hfits ih rest
      simp [tokens, tableTokens, Lua.operand, unary?, hfields, term]
    | lines indent =>
      have hfields := fields_lines hfits ih rest
      simp [tokens, tableTokens, Lua.operand, unary?, hfields, term]
  | @lambda ns result hnames h ih =>
    apply Reads.ofOperand rfl
    intro rest _
    have hparameters := @parameters_tokens ns
      (.keyword "return" :: (result.tokens ++ .keyword "end" :: rest))
    have hvalues := values_tokens h ih (endsBlock_end rest)
    have hreturn : block (.keyword "return" :: (result.tokens ++ .keyword "end" :: rest)) =
        some ([.giveBack [result.term]], .keyword "end" :: rest) := by
      rw [block, hvalues]
      simp [endsBlock]
    simp only [tokens, parameterTokens, List.append_assoc, List.cons_append, List.nil_append]
    simp [Lua.operand, unary?, _functionBody, hparameters, hreturn, term]

end PulpGame.Lua
