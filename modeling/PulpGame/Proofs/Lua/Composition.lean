import PulpGame.Proofs.Lua.Chunk

namespace PulpGame.Lua

/-- What is read off the tokens as a whole, and as a field of a table that has no key. -/
structure Denotes (ts : List Token) (t : Term) : Prop where
  whole : ∀ rest, Closes 0 rest → expression 0 (ts ++ rest) = some (t, rest)
  item : ∀ rest, fields (ts ++ .symbol "," :: rest) =
    (fields rest).map fun (fs, rest) => ((none, t) :: fs, rest)

/-- The text stands for a term, in front of a character that cannot go on with a numeral. -/
def Expresses (text : String) (t : Term) : Prop :=
  ∃ ts, Spells outsideNumeral text ts ∧ Denotes ts t

theorem fields_item {ts : List Token} {t : Term}
    (hwhole : ∀ rest, Closes 0 rest → expression 0 (ts ++ rest) = some (t, rest))
    (hend : ∀ us vs, ts ++ us ≠ .symbol "\x7d" :: vs)
    (hkey : ∀ us vs, ts ++ us ≠ .symbol "[" :: vs)
    (hname : ∀ n us vs, ts ++ .symbol "," :: us ≠ .name n :: .symbol "=" :: vs) (rest : List Token)
    : fields (ts ++ .symbol "," :: rest) =
        (fields rest).map fun (fs, rest) => ((none, t) :: fs, rest) := by
  have hfield : field (ts ++ .symbol "," :: rest) = some ((none, t), .symbol "," :: rest) := by
    rw [field]
    . rw [hwhole _ (closes_comma 0 rest)]
      rfl
    . intro n vs
      exact hname n rest vs
    . intro vs
      exact hkey _ vs
  rw [fields]
  . rw [hfield]
    cases hrest : fields rest <;> simp [hrest]
  . intro vs
    exact hend _ vs

theorem denotes_of_operand {t : Token} {ts : List Token} {x : Term}
    (hoperand : ∀ rest, Closes 0 rest → operand (t :: ts ++ rest) = some (x, rest))
    (hstart : ∃ s, t = .numeral s ∨ t = .string s ∨ t = .keyword s ∨ t = .symbol "-" ∨
      t = .symbol "\x7b") : Denotes (t :: ts) x := by
  have hwhole : ∀ rest, Closes 0 rest → expression 0 (t :: ts ++ rest) = some (x, rest) := by
    intro rest hrest
    rw [expression, hoperand rest hrest]
    exact hrest.operators x
  refine ⟨hwhole, fields_item hwhole ?_ ?_ ?_⟩
  all_goals
    obtain ⟨s, rfl | rfl | rfl | rfl | rfl⟩ := hstart <;> simp

theorem denotes_signed (digits : String) : Denotes (signedTokens digits) (numeralTerm digits) := by
  have hfits (rest : List Token) (hrest : Closes 0 rest)
      : operand (signedTokens digits ++ rest) = some (numeralTerm digits, rest) :=
    reads_numeral.operand (Nat.lt_succ_self _) rest (hrest.mono (Nat.zero_le _))
  rcases signed_cases digits with ⟨cs, htokens, -⟩ | ⟨htokens, -⟩
  . rw [htokens] at hfits ⊢
    exact denotes_of_operand hfits ⟨"", by simp⟩
  . rw [htokens] at hfits ⊢
    exact denotes_of_operand hfits ⟨digits, by simp⟩

theorem denotes_string (value : String) : Denotes [.string value] (.string value) :=
  denotes_of_operand (fun rest _ => operand_string value rest) ⟨value, by simp⟩

theorem denotes_boolean (value : Bool)
    : Denotes [.keyword (if value then "true" else "false")] (.boolean value) := by
  apply denotes_of_operand
  . intro rest _
    cases value <;> simp [operand, unary?]
  . exact ⟨_, .inr (.inr (.inl rfl))⟩

theorem denotes_name (n : String) : Denotes [.name n] (.name n) := by
  have hwhole : ∀ rest, Closes 0 rest → expression 0 ([.name n] ++ rest) = some (.name n, rest) := by
    intro rest hrest
    have hoperand : operand (.name n :: rest) = some (.name n, rest) := by
      simp [operand, unary?, suffixed, hrest.suffixes]
    rw [List.singleton_append, expression, hoperand]
    exact hrest.operators _
  exact ⟨hwhole, fields_item hwhole (by simp) (by simp) (by simp)⟩

theorem denotes_minus {n : String} : Denotes [.symbol "-", .name n] (.unary "-" (.name n)) := by
  apply denotes_of_operand
  . intro rest hrest
    have hname : expression unaryPriority (.name n :: rest) = some (.name n, rest) := by
      have hoperand : operand (.name n :: rest) = some (.name n, rest) := by
        simp [operand, unary?, suffixed, hrest.suffixes]
      rw [expression, hoperand]
      exact (hrest.mono (Nat.zero_le _)).operators _
    simp [operand, unary?, hname]
  . exact ⟨"", by simp⟩

def Lists (text : String) (fs : List (Option Term × Term)) : Prop :=
  ∃ ts, Spells anyChar text ts ∧ ∀ rest, fields (ts ++ rest) =
    (fields rest).map fun (gs, rest) => (fs ++ gs, rest)

namespace Lists

theorem ofNothing {text : String} (h : Spells anyChar text []) : Lists text [] := by
  refine ⟨[], h, ?_⟩
  intro rest
  cases hrest : fields rest <;> simp [hrest]

theorem append {a b : String} {fs gs : List (Option Term × Term)} (ha : Lists a fs)
    (hb : Lists b gs) : Lists (a ++ b) (fs ++ gs) := by
  obtain ⟨ts, hts, hfs⟩ := ha
  obtain ⟨us, hus, hgs⟩ := hb
  refine ⟨ts ++ us, hts.append_anyChar hus, ?_⟩
  intro rest
  rw [List.append_assoc, hfs, hgs]
  cases fields rest <;> simp

theorem join_map {α : Type} {text : α → String} {f : α → Option Term × Term} {as : List α}
    (h : ∀ a ∈ as, Lists (text a) [f a]) : Lists (String.join (as.map text)) (as.map f) := by
  induction as with
  | nil => exact ofNothing Spells.empty
  | cons a as ih =>
    rw [List.map_cons, String.join_cons]
    exact (h a (by simp)).append (ih fun b hb => h b (by simp [hb]))

theorem item {text closing : String} {t : Term} (h : Expresses text t)
    (hclosing : Spells anyChar closing [.symbol ","])
    (hstart : closing.toList.head?.any outsideNumeral) : Lists (text ++ closing) [(none, t)] := by
  obtain ⟨ts, hts, hdenotes⟩ := h
  refine ⟨ts ++ [.symbol ","], hts.append hclosing hstart, ?_⟩
  intro rest
  rw [List.append_assoc]
  exact hdenotes.item rest

theorem keyed {key text : String} {t : Term} (indent : Nat) (hkey : isName key)
    (h : Expresses text t)
    : Lists (String.ofList (List.replicate indent ' ') ++ key ++ " = " ++ text ++ ",\n")
        [(some (.string key), t)] := by
  obtain ⟨ts, hts, hdenotes⟩ := h
  have hfront := (spells_blanks indent).append_anyChar (spells_name hkey)
  have hspells := ((hfront.append spells_equals rfl).append_anyChar hts).append spells_commaBreak rfl
  refine ⟨_, hspells, ?_⟩
  intro rest
  simp only [List.nil_append, List.cons_append, List.append_assoc]
  have hfield : field (.name key :: .symbol "=" :: (ts ++ .symbol "," :: rest)) =
      some ((some (.string key), t), .symbol "," :: rest) := by
    rw [field, hdenotes.whole _ (closes_comma 0 rest)]
    rfl
  rw [fields, hfield]
  . cases hrest : fields rest <;> simp [hrest]
  . simp

theorem table {opening text closing : String} {fs : List (Option Term × Term)} (h : Lists text fs)
    (hopening : Spells anyChar opening [.symbol "\x7b"])
    (hclosing : Spells anyChar closing [.symbol "\x7d"])
    : Expresses (opening ++ text ++ closing) (.table fs) := by
  obtain ⟨ts, hts, hfs⟩ := h
  refine ⟨.symbol "\x7b" :: (ts ++ [.symbol "\x7d"]), ?_, ?_⟩
  . have := (hopening.append_anyChar hts).append_anyChar hclosing
    exact this.weaken
  . apply denotes_of_operand
    . intro rest _
      have hfields : fields (ts ++ .symbol "\x7d" :: rest) = some (fs, rest) := by
        rw [hfs, fields]
        simp
      simp [operand, unary?, hfields]
    . exact ⟨"", by simp⟩

end Lists

def States (text : String) (ss : List Statement) : Prop :=
  ∃ ts, Spells anyChar text ts ∧ ∀ rest, EndsStatement rest → EndsStatement (ts ++ rest) ∧
    block (ts ++ rest) = (block rest).map fun (more, rest) => (ss ++ more, rest)

namespace States

theorem ofNothing {text : String} (h : Spells anyChar text []) : States text [] := by
  refine ⟨[], h, ?_⟩
  intro rest hrest
  refine ⟨hrest, ?_⟩
  cases hblock : block rest <;> simp [hblock]

theorem append {a b : String} {ss rs : List Statement} (ha : States a ss) (hb : States b rs)
    : States (a ++ b) (ss ++ rs) := by
  obtain ⟨ts, hts, hss⟩ := ha
  obtain ⟨us, hus, hrs⟩ := hb
  refine ⟨ts ++ us, hts.append_anyChar hus, ?_⟩
  intro rest hrest
  obtain ⟨hends, hblock⟩ := hrs rest hrest
  obtain ⟨hends', hblock'⟩ := hss _ hends
  rw [List.append_assoc]
  refine ⟨hends', ?_⟩
  rw [hblock', hblock]
  cases block rest <;> simp

theorem join_map {α : Type} {text : α → String} {f : α → List Statement} {as : List α}
    (h : ∀ a ∈ as, States (text a) (f a)) : States (String.join (as.map text)) (as.flatMap f) := by
  induction as with
  | nil => exact ofNothing Spells.empty
  | cons a as ih =>
    rw [List.map_cons, String.join_cons, List.flatMap_cons]
    exact (h a (by simp)).append (ih fun b hb => h b (by simp [hb]))

theorem chunk {body : List Stat} (h : ∀ s ∈ body, s.Fits) (hlast : ∀ s ∈ body, s.isLast = false)
    : States (chunkText body) (Stat.statementsAll body) := by
  refine ⟨Stat.tokensAll body, spells_chunk h, ?_⟩
  intro rest hrest
  refine ⟨Stat.endsStatement_body h hrest, ?_⟩
  induction body with
  | nil => cases hblock : block rest <;> simp [Stat.tokensAll, Stat.statementsAll, hblock]
  | cons s body ih =>
    have hbody := ih (fun r hr => h r (by simp [hr])) fun r hr => hlast r (by simp [hr])
    have hends : EndsStatement (Stat.tokensAll body ++ rest) :=
      Stat.endsStatement_body (fun r hr => h r (by simp [hr])) hrest
    rw [Stat.tokensAll, List.append_assoc,
      (h s (by simp)).reads.front (hlast s (by simp)) _ hends, hbody, Stat.statementsAll]
    cases block rest <;> simp

theorem assign {place : Expr} {equals text ending : String} {t : Term} (hplace : place.isPlace)
    (hfits : place.Fits) (hequals : Spells anyChar equals [.symbol "="])
    (hstart : equals.toList.head?.any outsideNumeral) (h : Expresses text t)
    (hending : Spells anyChar ending []) (hend : ending.toList.head?.any outsideNumeral)
    : States (place.text ++ equals ++ text ++ ending) [.assign [place.term] [t]] := by
  obtain ⟨ts, hts, hdenotes⟩ := h
  have hspells := ((hfits.spells.ofNext.append hequals hstart).append_anyChar hts).append_nothing
    hending hend
  refine ⟨_, hspells, ?_⟩
  intro rest hrest
  obtain ⟨n, us, htokens⟩ := hfits.tokens_name (isPlace_term hplace).1
  have hvalues : expressions (ts ++ rest) = some ([t], rest) := by
    rw [expressions, hdenotes.whole rest (hrest.closes 0)]
    simp only [Option.bind_eq_bind, Option.bind_some]
    split
    . next more => exact absurd rfl (hrest.ne_comma more)
    . rfl
  have hstatement := statement_assign hplace hfits hvalues
  simp only [List.append_assoc, List.cons_append, List.nil_append]
  rw [htokens, List.cons_append] at hstatement ⊢
  refine ⟨Stat.endsStatement_of_starts rfl _, ?_⟩
  rw [block_statement hstatement rfl (by simp)]

theorem parse_eq {text : String} {ss : List Statement} (h : States text ss)
    : parse text = some ss := by
  obtain ⟨ts, hts, hblock⟩ := h
  have hall := (hblock [] (by simp [EndsStatement])).2
  rw [List.append_nil] at hall
  simp [parse, hts.tokens?_eq, hall, block]

end States

end PulpGame.Lua
