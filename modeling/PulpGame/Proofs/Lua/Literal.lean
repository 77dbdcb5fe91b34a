import PulpGame.Proofs.Lua.Search
import PulpGame.Proofs.Lua.Spelling

namespace PulpGame.Lua

theorem isDigit_digitChar {d : Nat} (h : d < 10)
    : (digitChar d).isDigit ∧ (digitChar d).toNat = 48 + d := by
  have hall : ∀ d < 10, (digitChar d).isDigit ∧ (digitChar d).toNat = 48 + d := by decide
  exact hall d h

theorem lookup_letters_of_isDigit {c : Char} (h : c.isDigit) : Short.letters.lookup c = none := by
  rw [Short.letters, List.lookup_eq_none_iff]
  intro p hp
  simp only [List.mem_cons, List.not_mem_nil, or_false] at hp
  rcases hp with rfl | rfl | rfl | rfl | rfl | rfl | rfl | rfl | rfl | rfl
  all_goals
    rw [bne_iff_ne]
    rintro rfl
    revert h
    decide

theorem isLineEnd_eq_false {c : Char} (h : isControl c = false) : isLineEnd c = false := by
  by_contra hline
  simp only [isLineEnd, Bool.not_eq_false, Bool.or_eq_true, beq_iff_eq] at hline
  rcases hline with rfl | rfl <;> cases h

theorem escapeChar_cases (c : Char)
    : (∃ l, Short.letters.lookup l = some c ∧ isControl l = false ∧ escapeChar c = ['\\', l]) ∨
      (c.toNat < 128 ∧ escapeChar c = ['\\', digitChar (c.toNat / 100),
        digitChar (c.toNat / 10 % 10), digitChar (c.toNat % 10)]) ∨
      (c ≠ '\\' ∧ c ≠ '"' ∧ isControl c = false ∧ escapeChar c = [c]) := by
  unfold escapeChar
  split_ifs with hbackslash hquote hfeed hreturn htab hcontrol
  . exact .inl ⟨'\\', by rw [hbackslash]; rfl, rfl, rfl⟩
  . exact .inl ⟨'"', by rw [hquote]; rfl, rfl, rfl⟩
  . exact .inl ⟨'n', by rw [hfeed]; rfl, rfl, rfl⟩
  . exact .inl ⟨'r', by rw [hreturn]; rfl, rfl, rfl⟩
  . exact .inl ⟨'t', by rw [htab]; rfl, rfl, rfl⟩
  . refine .inr (.inl ⟨?_, rfl⟩)
    simp only [isControl, Bool.or_eq_true, decide_eq_true_eq, beq_iff_eq] at hcontrol
    omega
  . exact .inr (.inr ⟨hbackslash, hquote, by simpa using hcontrol, rfl⟩)

theorem escape?_letter {c value : Char} (h : Short.letters.lookup c = some value)
    (rest : List Char) : Short.escape? (c :: rest) = some ([value], rest) := by
  simp only [Short.escape?, h]

theorem escape?_digits {n : Nat} (h : n < 128) (rest : List Char)
    : Short.escape? (digitChar (n / 100) :: digitChar (n / 10 % 10) :: digitChar (n % 10) :: rest) =
      some ([Char.ofNat n], rest) := by
  have ha := isDigit_digitChar (d := n / 100) (by omega)
  have hb := isDigit_digitChar (d := n / 10 % 10) (by omega)
  have hc := isDigit_digitChar (d := n % 10) (by omega)
  have hvalue : (n / 100 * 10 + n / 10 % 10) * 10 + n % 10 = n := by omega
  simp [Short.escape?, lookup_letters_of_isDigit ha.1, ha, hb, hc, hvalue, h, Short.ofDigits,
    Short.ofByte]

theorem body?_escape {quote : Char} {cs value rest : List Char}
    (h : Short.escape? cs = some (value, rest))
    : Short.body? quote ('\\' :: cs) = (Short.body? quote rest).map fun (body, rest) =>
      (value ++ body, rest) := by
  rw [Short.body?]
  split <;> simp_all

theorem body?_escapeChar (c : Char) (cs : List Char)
    : Short.body? '"' (escapeChar c ++ cs) = (Short.body? '"' cs).map fun (body, rest) =>
      (c :: body, rest) := by
  rcases escapeChar_cases c with ⟨l, hletter, _, hc⟩ | ⟨hlt, hc⟩ |
    ⟨hbackslash, hquote, hcontrol, hc⟩
  . rw [hc]
    exact body?_escape (escape?_letter hletter cs)
  . have := @body?_escape '"' _ _ _ (escape?_digits hlt cs)
    rw [hc]
    simpa using this
  . rw [hc, List.singleton_append, Short.body?]
    . simp [hquote, isLineEnd_eq_false hcontrol]
    . exact hbackslash

theorem body?_escape_chars (cs rest : List Char)
    : Short.body? '"' (cs.flatMap escapeChar ++ '"' :: rest) = some (cs, rest) := by
  induction cs with
  | nil => simp [Short.body?]
  | cons c cs ih => simp [body?_escapeChar, ih]

theorem toList_escape (s : String) : (escape s).toList = s.toList.flatMap escapeChar := by
  simp [escape]

theorem lexeme?_quote (s : String) (rest : List Char)
    : lexeme? ((quote s).toList ++ rest) = some (some (.string s), rest) := by
  have hbody := body?_escape_chars s.toList rest
  have hkind (next : Option Char) : LexemeKind.of '"' next = .quoted := rfl
  have hchars : (quote s).toList ++ rest =
      '"' :: (s.toList.flatMap escapeChar ++ '"' :: rest) := by
    simp [quote, toList_escape]
  rw [hchars]
  simp only [lexeme?, hkind, hbody]
  simp

theorem spells_quote (s : String) : Spells anyChar (quote s) [.string s] :=
  Spells.ofLexeme? (t := some (.string s)) fun rest _ => lexeme?_quote s rest

theorem isControl_escapeChar {c d : Char} (h : d ∈ escapeChar c) : isControl d = false := by
  have hdigit : ∀ n < 10, isControl (digitChar n) = false := by decide
  rcases escapeChar_cases c with ⟨l, _, hl, hc⟩ | ⟨hlt, hc⟩ | ⟨_, _, hcontrol, hc⟩
  all_goals
    rw [hc] at h
    simp only [List.mem_cons, List.not_mem_nil, or_false] at h
  . rcases h with rfl | rfl
    . rfl
    . exact hl
  . rcases h with rfl | rfl | rfl | rfl
    . rfl
    . exact hdigit _ (by omega)
    . exact hdigit _ (by omega)
    . exact hdigit _ (by omega)
  . exact h ▸ hcontrol

theorem isControl_of_mem_escape {s : String} {d : Char} (h : d ∈ (escape s).toList)
    : isControl d = false := by
  rw [toList_escape] at h
  obtain ⟨c, _, hc⟩ := List.mem_flatMap.mp h
  exact isControl_escapeChar hc

theorem all_escape_not_isLineEnd (s : String) : (escape s).toList.all (!isLineEnd ·) := by
  rw [List.all_eq_true]
  intro d hd
  rw [isLineEnd_eq_false (isControl_of_mem_escape hd)]
  rfl

theorem lexeme?_comment {words : String} (hline : words.toList.all (!isLineEnd ·))
    (hstart : words.toList.head?.all (· != '[')) {rest : List Char} (hrest : Starts isLineEnd rest)
    : lexeme? (("--" ++ words).toList ++ rest) = some (none, rest) := by
  have hchars : ("--" ++ words).toList ++ rest = '-' :: '-' :: (words.toList ++ rest) := by simp
  have hkind : LexemeKind.of '-' ('-' :: (words.toList ++ rest)).head? = .comment := rfl
  have hline := (takeWhile_append_of_starts hline (by simp) hrest).2
  have hcomment : afterComment? (words.toList ++ rest) = some rest := by
    unfold afterComment?
    rw [hline]
    split
    . next inner hopened =>
      exfalso
      cases hwords : words.toList with
      | nil =>
        rw [hwords] at hopened
        have := hrest '[' (by simp_all)
        simp [isLineEnd] at this
      | cons c cs => simp_all
    . rfl
  rw [hchars]
  simp only [lexeme?, hkind, List.drop_succ_cons, List.drop_zero, hcomment]
  rfl

theorem spells_comment {words : String} (hline : words.toList.all (!isLineEnd ·))
    (hstart : words.toList.head?.all (· != '[')) : Spells isLineEnd ("--" ++ words) [] :=
  Spells.ofLexeme? (t := none) fun _ => lexeme?_comment hline hstart

/-- A closing bracket that begins in a text, and is not the one behind it, ends in the text or with
the first character behind it: what comes next is no bracket. -/
theorem prefix_of_prefix_append {level : Nat} {text rest : List Char} (hne : text ≠ [])
    (h : closingBracket level <+: text ++ closingBracket level ++ rest)
    : closingBracket level <+: text ++ [']'] := by
  by_cases hlength : (closingBracket level).length ≤ (text ++ [']']).length
  . apply List.prefix_of_prefix_length_le h _ hlength
    simp [closingBracket]
  . exfalso
    have hpos := List.length_pos_iff.mpr hne
    simp only [length_closingBracket, List.length_append, List.length_singleton] at hlength
    obtain ⟨tail, htail⟩ := h
    have hinside : (closingBracket level)[text.length]? = some '=' := by
      obtain ⟨k, hk⟩ : ∃ k, text.length = k + 1 := ⟨text.length - 1, by omega⟩
      rw [hk, closingBracket, List.getElem?_cons_succ, List.getElem?_append_left (by simp; omega),
        List.getElem?_replicate, if_pos (by omega)]
    have hbehind : (text ++ closingBracket level ++ rest)[text.length]? = some ']' := by
      simp [closingBracket]
    rw [← htail, List.getElem?_append_left (by simp [length_closingBracket]; omega), hinside]
      at hbehind
    simp at hbehind

theorem content?_of_prefix {level : Nat} {cs : List Char} (h : closingBracket level <+: cs)
    : Bracket.content? level cs = some ([], cs.drop (level + 2)) := by
  cases cs with
  | nil => simp [closingBracket] at h
  | cons c cs =>
    rw [Bracket.content?, if_pos]
    rwa [List.isPrefixOf_iff_prefix]

theorem content?_append {level : Nat} {text : List Char}
    (h : occurs (closingBracket level) (text ++ [']']) = false) (rest : List Char)
    : Bracket.content? level (text ++ closingBracket level ++ rest) = some (text, rest) := by
  induction text with
  | nil =>
    rw [List.nil_append, content?_of_prefix (List.prefix_append _ _), ← length_closingBracket,
      List.drop_left]
  | cons c cs ih =>
    simp only [List.cons_append, occurs, Bool.or_eq_false_iff] at h
    rw [List.cons_append, List.cons_append, Bracket.content?, if_neg, ih h.2]
    . rfl
    . intro happlied
      rw [List.isPrefixOf_iff_prefix] at happlied
      have := prefix_of_prefix_append (List.cons_ne_nil c cs) happlied
      rw [← List.isPrefixOf_iff_prefix, List.cons_append, h.1] at this
      simp at this

def bracketContent (text : List Char) : List Char :=
  (if startsLine text then ['\n'] else []) ++ text

theorem infix_bracketContent {level : Nat} {text : List Char}
    : closingBracket level <:+: bracketContent text ++ [']'] ↔
        closingBracket level <:+: text ++ [']'] := by
  unfold bracketContent
  split
  . rw [List.singleton_append, List.cons_append, List.infix_cons_iff]
    simp [closingBracket]
  . rw [List.nil_append]

theorem occurs_bracketContent (text : List Char)
    : occurs (closingBracket (bracketLevel text)) (bracketContent text ++ [']']) = false := by
  rw [← Bool.not_eq_true, occurs_iff, infix_bracketContent]
  exact (searches_bracketLevel text).free

theorem opened?_append (level : Nat) (cs : List Char)
    : Bracket.opened? (List.replicate level '=' ++ '[' :: cs) = some (level, cs) := by
  have hreplicate : (List.replicate level '=').all (· == '=') := by simp
  have hopening : Starts (· == '[') ('[' :: cs) := by simp [Starts]
  have := (takeWhile_append_of_starts hreplicate (by simp) hopening).1
  simp only [Bracket.opened?, this, List.length_replicate]
  rw [List.drop_left' (by simp)]
  rfl

theorem lexeme?_longBracket (s : String) (rest : List Char)
    : lexeme? ((longBracket s).toList ++ rest) =
        some (some (.string (String.ofList (Bracket.value (bracketContent s.toList)))), rest) := by
  have hcontent := content?_append (occurs_bracketContent s.toList) rest
  have hchars : (longBracket s).toList ++ rest =
      '[' :: (List.replicate (bracketLevel s.toList) '=' ++ '[' ::
        (bracketContent s.toList ++ closingBracket (bracketLevel s.toList) ++ rest)) := by
    simp [longBracket, longBracketChars, openingBracket, bracketContent]
  have hkind : LexemeKind.of '[' (List.replicate (bracketLevel s.toList) '=' ++ '[' ::
      (bracketContent s.toList ++ closingBracket (bracketLevel s.toList) ++ rest)).head? =
      .bracket := by
    cases bracketLevel s.toList <;> rfl
  rw [hchars]
  simp only [lexeme?, hkind, opened?_append, Option.bind_eq_bind, Option.bind_some, hcontent]
  rfl

theorem spells_longBracket (s : String)
    : Spells anyChar (longBracket s)
      [.string (String.ofList (Bracket.value (bracketContent s.toList)))] :=
  Spells.ofLexeme? (t := some (.string _)) fun rest _ => lexeme?_longBracket s rest

end PulpGame.Lua
