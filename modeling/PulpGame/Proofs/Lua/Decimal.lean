import PulpGame.Lua.Token
import PulpGame.Json.Value
import PulpGame.Proofs.Lua.Spelling

namespace PulpGame.Lua

inductive IsMantissa : List Char → Prop where
  | whole {ds : List Char} (hne : ds ≠ []) (hds : ds.all Char.isDigit) : IsMantissa ds
  | point {ds fs : List Char} (hne : ds ≠ []) (hds : ds.all Char.isDigit)
      (hfs : fs.all Char.isDigit) : IsMantissa (ds ++ '.' :: fs)

inductive IsDecimal : List Char → Prop where
  | positional {m : List Char} (hm : IsMantissa m) : IsDecimal m
  | scientific {m es : List Char} {sign : Char} (hm : IsMantissa m) (hsign : sign = '+' ∨ sign = '-')
      (hne : es ≠ []) (hes : es.all Char.isDigit) : IsDecimal (m ++ 'e' :: sign :: es)

theorem isDecimalMark_eq_false {c : Char} (h : c.isDigit || c == '.' || !c.isAlphanum)
    : Numeral.isDecimalMark c = false := by
  by_contra hmark
  simp only [Numeral.isDecimalMark, Bool.not_eq_false, Bool.or_eq_true, beq_iff_eq] at hmark
  rcases hmark with rfl | rfl <;> simp at h

theorem isHex_eq_false {c : Char} (h : !c.isAlphanum) : Numeral.isHex c = false := by
  have hlower (h : 'a' ≤ c ∧ c ≤ 'f') : c.isLower := by
    simp only [Char.isLower, Char.le_def, UInt32.le_iff_toNat_le] at h ⊢
    simp at h ⊢
    omega
  have hupper (h : 'A' ≤ c ∧ c ≤ 'F') : c.isUpper := by
    simp only [Char.isUpper, Char.le_def, UInt32.le_iff_toNat_le] at h ⊢
    simp at h ⊢
    omega
  simp only [Char.isAlphanum, Char.isAlpha, Bool.not_eq_true', Bool.or_eq_false_iff] at h
  simp only [Numeral.isHex, hexDigit?, h.2]
  split_ifs <;> simp_all

theorem run_cons_digit {c : Char} (h : c.isDigit || c == '.') (cs : List Char)
    : Numeral.run Numeral.isDecimalMark (c :: cs) =
      (Numeral.run Numeral.isDecimalMark cs).map (c :: ·) id := by
  have hmark := isDecimalMark_eq_false (c := c) (by simp [h])
  have htaken : Numeral.isHex c || c == '.' := by
    cases hdigit : c.isDigit with
    | true => simp [Numeral.isHex, hexDigit?, hdigit]
    | false => simp_all
  cases cs with
  | nil => simp_all [Numeral.run]
  | cons s cs => simp_all [Numeral.run]

theorem run_append_digits {ds : List Char} (h : ds.all fun c => c.isDigit || c == '.')
    (cs : List Char) : Numeral.run Numeral.isDecimalMark (ds ++ cs) =
      (Numeral.run Numeral.isDecimalMark cs).map (ds ++ ·) id := by
  induction ds with
  | nil => rfl
  | cons d ds ih =>
    simp only [List.all_cons, Bool.and_eq_true] at h
    rw [List.cons_append, run_cons_digit h.1, ih h.2]
    rfl

theorem run_of_starts {rest : List Char} (h : Starts outsideNumeral rest)
    : Numeral.run Numeral.isDecimalMark rest = ([], rest) := by
  cases rest with
  | nil => rfl
  | cons c cs =>
    have hc := h c (by simp)
    simp only [outsideNumeral, isNamePart, Bool.and_eq_true, Bool.not_eq_true',
      Bool.or_eq_false_iff, bne_iff_ne] at hc
    have hmark := isDecimalMark_eq_false (c := c) (by simp [hc])
    have hhex := isHex_eq_false (c := c) (by simp [hc])
    cases cs with
    | nil => simp [Numeral.run, hmark, hhex, hc]
    | cons s cs => simp [Numeral.run, hmark, hhex, hc]

theorem IsMantissa.all {m : List Char} (h : IsMantissa m)
    : m.all fun c => c.isDigit || c == '.' := by
  cases h with
  | whole _ hds => simp_all
  | point _ hds hfs => simp_all

theorem run_decimal {cs rest : List Char} (h : IsDecimal cs) (hrest : Starts outsideNumeral rest)
    : Numeral.run Numeral.isDecimalMark (cs ++ rest) = (cs, rest) := by
  cases h with
  | positional hm => simp [run_append_digits hm.all, run_of_starts hrest]
  | @scientific m es sign hm hsign hne hes =>
    have hdigits : es.all fun c => c.isDigit || c == '.' := by simp_all
    have hsigned : Numeral.run Numeral.isDecimalMark ('e' :: sign :: (es ++ rest)) =
        ('e' :: sign :: es, rest) := by
      rcases hsign with rfl | rfl
      all_goals simp [Numeral.run, Numeral.isDecimalMark, run_append_digits hdigits,
        run_of_starts hrest]
    simp [run_append_digits hm.all, hsigned]

theorem mantissa?_append {m rest : List Char} (hm : IsMantissa m)
    (hrest : rest = [] ∨ ∃ cs, rest = 'e' :: cs)
    : Numeral.mantissa? Char.isDigit (m ++ rest) = some rest := by
  have hstarts : Starts (fun c => !c.isDigit) rest := by
    rcases hrest with rfl | ⟨cs, rfl⟩ <;> simp [Starts]
  cases hm with
  | whole hne hds =>
    obtain ⟨htake, hdrop⟩ := takeWhile_append_of_starts hds (by simp) hstarts
    unfold Numeral.mantissa?
    rw [htake, hdrop]
    rcases hrest with rfl | ⟨cs, rfl⟩
    . simp [hne]
    . simp [hne]
  | @point ds fs hne hds hfs =>
    have hpoint : Starts (· == '.') ('.' :: (fs ++ rest)) := by simp [Starts]
    obtain ⟨htake, hdrop⟩ := takeWhile_append_of_starts hds (by simp) hpoint
    have := (takeWhile_append_of_starts hfs (by simp) hstarts).2
    simp [Numeral.mantissa?, htake, hdrop, this, hne]

theorem isNumber_decimal {cs : List Char} (h : IsDecimal cs)
    : Numeral.isNumber Numeral.isDecimalMark Char.isDigit cs := by
  cases h with
  | positional hm =>
    have := mantissa?_append hm (.inl rfl)
    rw [List.append_nil] at this
    simp [Numeral.isNumber, this, Numeral.isExponent]
  | @scientific m es sign hm hsign hne hes =>
    have := mantissa?_append hm (.inr ⟨sign :: es, rfl⟩)
    rw [Numeral.isNumber, this]
    rcases hsign with rfl | rfl
    all_goals simp_all [Numeral.isExponent, Numeral.isDecimalMark]

theorem IsMantissa.head {m : List Char} (h : IsMantissa m)
    : ∃ c cs, m = c :: cs ∧ c.isDigit := by
  cases h with
  | whole hne hds =>
    obtain ⟨c, cs, rfl⟩ := List.exists_cons_of_ne_nil hne
    exact ⟨c, cs, rfl, by simp_all⟩
  | point hne hds _ =>
    obtain ⟨c, cs, rfl⟩ := List.exists_cons_of_ne_nil hne
    exact ⟨c, _, rfl, by simp_all⟩

theorem IsDecimal.head {cs : List Char} (h : IsDecimal cs)
    : ∃ c tail, cs = c :: tail ∧ c.isDigit := by
  cases h with
  | positional hm => exact hm.head
  | scientific hm =>
    obtain ⟨c, cs, rfl, hc⟩ := hm.head
    exact ⟨c, _, rfl, hc⟩

theorem IsDecimal.not_mem {cs : List Char} (h : IsDecimal cs) : 'x' ∉ cs ∧ 'X' ∉ cs := by
  have hdigits {c : Char} {ds : List Char} (hds : ds.all fun c => c.isDigit || c == '.')
      (hc : !(c.isDigit || c == '.')) : c ∉ ds := by
    intro hmem
    have := List.all_eq_true.mp hds c hmem
    simp_all
  cases h with
  | positional hm => exact ⟨hdigits hm.all rfl, hdigits hm.all rfl⟩
  | @scientific m es sign hm hsign hne hes =>
    have hes : es.all fun c => c.isDigit || c == '.' := by simp_all
    have hx := hdigits (c := 'x') hm.all rfl
    have hX := hdigits (c := 'X') hm.all rfl
    have hx' := hdigits (c := 'x') hes rfl
    have hX' := hdigits (c := 'X') hes rfl
    rcases hsign with rfl | rfl <;> simp [hx, hX, hx', hX']

theorem startsHex_decimal {cs rest : List Char} (h : IsDecimal cs)
    (hrest : Starts outsideNumeral rest) : Numeral.startsHex (cs ++ rest) = false := by
  obtain ⟨c, tail, rfl, _⟩ := h.head
  obtain ⟨hx, hX⟩ := h.not_mem
  by_contra hhex
  simp only [List.cons_append, Numeral.startsHex, Bool.not_eq_false] at hhex
  split at hhex
  . next x behind hchars =>
    simp only [List.cons.injEq] at hchars
    simp only [Bool.or_eq_true, beq_iff_eq] at hhex
    cases tail with
    | nil =>
      have := hrest x (by simp_all)
      rcases hhex with rfl | rfl <;> simp [outsideNumeral, isNamePart] at this
    | cons d ds =>
      simp only [List.cons_append, List.cons.injEq] at hchars
      rcases hhex with rfl | rfl <;> simp_all
  . simp at hhex

theorem ofText?_decimal {cs rest : List Char} (h : IsDecimal cs)
    (hrest : Starts outsideNumeral rest) : Numeral.ofText? (cs ++ rest) = some (cs, rest) := by
  have hend : rest.head?.any isNamePart = false := by
    rw [Option.any_eq_false]
    intro c hc
    have := hrest c hc
    simp_all [outsideNumeral]
  simp [Numeral.ofText?, startsHex_decimal h hrest, run_decimal h hrest, isNumber_decimal h, hend]

theorem isNameStart_eq_false_of_isDigit {c : Char} (h : c.isDigit) : isNameStart c = false := by
  by_contra hstart
  simp only [isNameStart, Char.isAlpha, Char.isUpper, Char.isLower, Bool.not_eq_false,
    Bool.or_eq_true, beq_iff_eq] at hstart
  rcases hstart with hstart | rfl
  . simp [Char.isDigit, UInt32.le_iff_toNat_le] at h hstart
    omega
  . simp at h

theorem kind_digit {c : Char} (h : c.isDigit) (next : Option Char)
    : LexemeKind.of c next = .numeral := by
  have hspace : isSpace c = false := by
    by_contra hspace
    simp only [isSpace, Bool.not_eq_false, Bool.or_eq_true, beq_iff_eq] at hspace
    rcases hspace with ((((rfl | rfl) | rfl) | rfl) | rfl) | rfl <;> simp at h
  have hstart := isNameStart_eq_false_of_isDigit h
  simp [LexemeKind.of, hspace, hstart, h]

theorem spells_numeral {text : String} (h : IsDecimal text.toList)
    : Spells outsideNumeral text [.numeral text] := by
  apply Spells.ofLexeme? (t := some (.numeral text))
  intro rest hrest
  have htext := ofText?_decimal h hrest
  obtain ⟨c, tail, hchars, hc⟩ := h.head
  rw [hchars, List.cons_append] at htext ⊢
  simp only [lexeme?, kind_digit hc, htext]
  simp [← hchars]

theorem toList_toString_nat (n : Nat)
    : (toString n).toList ≠ [] ∧ (toString n).toList.all Char.isDigit := by
  rw [Nat.toString_eq_repr, Nat.toList_repr]
  refine ⟨Nat.toDigits_ne_nil, ?_⟩
  rw [List.all_eq_true]
  intro c hc
  exact Nat.isDigit_of_mem_toDigits (by decide) (by decide) hc

theorem isDecimal_nat (n : Nat) : IsDecimal (toString n).toList :=
  .positional (.whole (toList_toString_nat n).1 (toList_toString_nat n).2)

theorem all_zeros (n : Nat) : (Layout.zeros n).toList.all Char.isDigit := by
  simp [Layout.zeros]

theorem all_of_sublist {p : Char → Bool} {cs ds : List Char} (h : cs.Sublist ds) (hds : ds.all p)
    : cs.all p := by
  rw [List.all_eq_true] at hds ⊢
  intro c hc
  exact hds c (h.subset hc)

theorem isMantissa_place (l : Layout) {digits : String} (hne : digits.toList ≠ [])
    (hdigits : digits.toList.all Char.isDigit) (exponent : Int)
    : IsMantissa (l.place digits exponent).toList := by
  have hzeros := all_zeros exponent.toNat
  unfold Layout.place
  dsimp only
  -- The point comes behind all digits, nowhere, between two of them, or in front of all.
  split_ifs with hwhole hpoint hinside
  . have hdigits : (digits.toList ++ (Layout.zeros exponent.toNat).toList).all Char.isDigit := by
      simp_all
    have := IsMantissa.point (by simp [hne]) hdigits (by decide : ['0'].all Char.isDigit)
    simpa using this
  . have hdigits : (digits.toList ++ (Layout.zeros exponent.toNat).toList).all Char.isDigit := by
      simp_all
    have := IsMantissa.whole (by simp [hne]) hdigits
    simpa using this
  . have htake := all_of_sublist (List.take_sublist (digits.length + exponent).toNat _) hdigits
    have hdrop := all_of_sublist (List.drop_sublist (digits.length + exponent).toNat _) hdigits
    have hne : digits.toList.take (digits.length + exponent).toNat ≠ [] := by
      simp only [ne_eq, List.take_eq_nil_iff, hne, or_false]
      omega
    have := IsMantissa.point hne htake hdrop
    simpa using this
  . have hzeros := all_zeros (-(digits.length + exponent)).toNat
    have hdigits : ((Layout.zeros (-(digits.length + exponent)).toNat).toList ++
        digits.toList).all Char.isDigit := by
      simp_all
    have := IsMantissa.point (by simp) (by decide : ['0'].all Char.isDigit) hdigits
    simpa using this

theorem isDecimal_scientific {digits : String} (hne : digits.toList ≠ [])
    (hdigits : digits.toList.all Char.isDigit) (leading : Int)
    : IsDecimal (Layout.scientific digits leading).toList := by
  have hfirst := all_of_sublist (List.take_sublist 1 _) hdigits
  have hothers := all_of_sublist (List.drop_sublist 1 _) hdigits
  have hexponent : ∃ sign es, (sign = '+' ∨ sign = '-') ∧ es ≠ [] ∧ es.all Char.isDigit ∧
      (if leading < 0 then "-" ++ toString (-leading).toNat
        else "+" ++ toString leading.toNat).toList = sign :: es := by
    split
    . obtain ⟨hne, hall⟩ := toList_toString_nat (-leading).toNat
      exact ⟨'-', _, .inr rfl, hne, hall, by rw [String.toList_append]; rfl⟩
    . obtain ⟨hne, hall⟩ := toList_toString_nat leading.toNat
      exact ⟨'+', _, .inl rfl, hne, hall, by rw [String.toList_append]; rfl⟩
  obtain ⟨sign, es, hsign, hes, hall, hchars⟩ := hexponent
  unfold Layout.scientific
  dsimp only
  generalize (if leading < 0 then _ else _) = exponent at hchars ⊢
  split
  . have := IsDecimal.scientific (.whole (by simp [hne]) hfirst) hsign hes hall
    simpa [hchars] using this
  . have := IsDecimal.scientific (.point (by simp [hne]) hfirst hothers) hsign hes hall
    simpa [hchars] using this

theorem isDecimal_decimal (l : Layout) (d : Decimal) : IsDecimal (l.decimal d).toList := by
  obtain ⟨hne, hdigits⟩ := toList_toString_nat d.digits
  unfold Layout.decimal
  dsimp only
  split
  . exact .positional (isMantissa_place l hne hdigits d.exponent)
  . split
    . exact .positional (isMantissa_place l hne hdigits d.exponent)
    . exact isDecimal_scientific hne hdigits _

inductive IsSigned : List Char → Prop where
  | plain {cs : List Char} (h : IsDecimal cs) : IsSigned cs
  | negative {cs : List Char} (h : IsDecimal cs) : IsSigned ('-' :: cs)

theorem toList_toString_negSucc (n : Nat)
    : (toString (Int.negSucc n)).toList = '-' :: (toString (n + 1)).toList := by
  rw [Int.toString_eq_repr, Int.repr, String.toList_append]
  rfl

theorem isSigned_int (n : Int) : IsSigned (toString n).toList := by
  cases n with
  | ofNat n => exact .plain (isDecimal_nat n)
  | negSucc n =>
    rw [toList_toString_negSucc]
    exact .negative (isDecimal_nat (n + 1))

theorem isSigned_layout (l : Layout) {x : Binary64} (h : x.isFinite)
    : IsSigned (l.text x).toList := by
  obtain ⟨negative, m, q, hvalue⟩ := Binary64.value_of_isFinite h
  unfold Layout.text
  rw [hvalue]
  have hdecimal := isDecimal_decimal l (if m = 0 then ⟨0, 0⟩ else .shortest l.tie m q)
  cases negative
  . have := IsSigned.plain hdecimal
    simpa using this
  . have := IsSigned.negative hdecimal
    simpa using this

theorem isSigned_number (n : Json.Number) : IsSigned n.text.toList := by
  cases n with
  | integer n => exact isSigned_int n
  | double x h => exact isSigned_layout _ h

def signedTokens (text : String) : List Token :=
  match text.toList with
  | '-' :: cs => [.symbol "-", .numeral (String.ofList cs)]
  | _ => [.numeral text]

theorem spells_signed {text : String} (h : IsSigned text.toList)
    : Spells outsideNumeral text (signedTokens text) := by
  generalize hchars : text.toList = cs at h
  cases h with
  | plain h =>
    obtain ⟨c, tail, rfl, hc⟩ := h.head
    have htokens : signedTokens text = [.numeral text] := by
      unfold signedTokens
      split
      . next heq =>
        rw [hchars] at heq
        simp only [List.cons.injEq] at heq
        rw [heq.1] at hc
        simp at hc
      . rfl
    rw [htokens]
    exact spells_numeral (hchars ▸ h)
  | @negative cs h =>
    have htext : text = "-" ++ String.ofList cs := by
      rw [← String.toList_inj, hchars]
      simp
    have htokens : signedTokens text = [.symbol "-"] ++ [.numeral (String.ofList cs)] := by
      simp [signedTokens, hchars]
    rw [htokens, htext]
    apply (spells_symbol (s := "-") (by decide)).append (spells_numeral (by simpa using h))
    obtain ⟨c, tail, rfl, hc⟩ := h.head
    simp [clashes]
    rintro rfl
    simp at hc

end PulpGame.Lua
