import PulpGame.Proofs.Lua.Literal

namespace PulpGame.Lua

/-- A text between quotes is read back as it was, and what follows is left, also if it is a digit and
the text ends with a decimal escape. Nothing of an escaped text is a control character, so a comment
with one in it goes on to the end of the line that it was written on. -/
theorem quote_reads_back (s : String) (rest : List Char)
    : lexeme? ((quote s).toList ++ rest) = some (some (.string s), rest) ∧
        (∀ c ∈ (escape s).toList, 32 ≤ c.toNat ∧ c.toNat ≠ 127) ∧
        ∀ front back : String, (front ++ back).toList.all (!isLineEnd ·) →
          front.toList.head?.any (· != '[') →
            lexeme? (("--" ++ (front ++ escape s ++ back)).toList ++ '\n' :: rest) =
              some (none, '\n' :: rest) := by
  refine ⟨lexeme?_quote s rest, ?_, ?_⟩
  . intro c hc
    have hcontrol := isControl_of_mem_escape hc
    simpa [isControl] using hcontrol
  . intro front back hline hstart
    have hwords : (front ++ escape s ++ back).toList.all (!isLineEnd ·) := by
      simp only [String.toList_append, List.all_append, Bool.and_eq_true] at hline ⊢
      exact ⟨⟨hline.1, all_escape_not_isLineEnd s⟩, hline.2⟩
    have hfirst : (front ++ escape s ++ back).toList.head?.all (· != '[') := by
      cases hfront : front.toList with
      | nil => simp [hfront] at hstart
      | cons c cs => simpa [hfront] using hstart
    exact lexeme?_comment hwords hfirst (by simp [Starts, isLineEnd])

theorem quote_reads_back_digits
    : lexeme? ((quote "\x012\n\x7f").toList ++ ['3']) = some (some (.string "\x012\n\x7f"), ['3']) ∧
        lexeme? (("--" ++ (" unsupported: " ++ escape "\x012\n\x7f" ++ " --")).toList ++
          '\n' :: ['3']) = some (none, ['\n', '3']) := by
  obtain ⟨hquote, -, hcomment⟩ := quote_reads_back "\x012\n\x7f" ['3']
  exact ⟨hquote, hcomment " unsupported: " " --" (by decide) (by decide)⟩

namespace Bracket

theorem return_not_mem_unifyBreaks (cs : List Char) : '\r' ∉ unifyBreaks cs := by
  fun_induction unifyBreaks cs with
  | case1 cs ih | case2 cs ih | case3 cs _ ih => simpa using ih
  | case4 c cs _ _ hreturn ih =>
    have hc : '\r' ≠ c := by
      rintro rfl
      exact hreturn rfl
    simpa [hc] using ih
  | case5 => simp

theorem unifyBreaks_eq_self {cs : List Char} (h : '\r' ∉ cs) : unifyBreaks cs = cs := by
  fun_induction unifyBreaks cs with
  | case1 cs ih | case2 cs ih | case3 cs _ ih => simp at h
  | case4 c cs _ _ _ ih =>
    rw [ih fun hcs => h (List.mem_cons_of_mem c hcs)]
  | case5 => rfl

end Bracket

/-- What is read of a text between long brackets. A return at the front makes one line break with the
line feed that is put before it, and this is the one that does not count. -/
def passage (text : List Char) : List Char :=
  match text with
  | '\r' :: cs => Bracket.unifyBreaks cs
  | cs => Bracket.unifyBreaks cs

theorem value_bracketContent (text : List Char)
    : Bracket.value (bracketContent text) = passage text := by
  unfold passage
  split
  . rfl
  . next hreturn =>
    cases text with
    | nil => rfl
    | cons c cs =>
      have hc : c ≠ '\r' := by
        rintro rfl
        exact hreturn cs rfl
      by_cases hfeed : c = '\n'
      . subst hfeed
        simp [bracketContent, startsLine, Bracket.value, Bracket.unifyBreaks]
      . simp [bracketContent, startsLine, Bracket.value, Bracket.unifyBreaks, hc, hfeed]

theorem passage_eq_self_iff {text : List Char} : passage text = text ↔ '\r' ∉ text := by
  constructor
  . intro h
    rw [← h]
    unfold passage
    split <;> exact Bracket.return_not_mem_unifyBreaks _
  . intro h
    unfold passage
    split
    . simp at h
    . exact Bracket.unifyBreaks_eq_self h

/-- A literal between long brackets ends where it was meant to, whatever is in the text and whatever
follows. It is read as the text with its line breaks unified, and without a return at the front; so it
is read as the text itself exactly if there is no return in it. -/
theorem longBracket_reads_as (s : String) (rest : List Char)
    : lexeme? ((longBracket s).toList ++ rest) =
          some (some (.string (String.ofList (passage s.toList))), rest) ∧
        (lexeme? ((longBracket s).toList ++ rest) = some (some (.string s), rest) ↔
          '\r' ∉ s.toList) := by
  have hread : lexeme? ((longBracket s).toList ++ rest) =
      some (some (.string (String.ofList (passage s.toList))), rest) := by
    rw [lexeme?_longBracket, value_bracketContent]
  refine ⟨hread, ?_⟩
  rw [hread, ← passage_eq_self_iff]
  simp [← String.toList_inj]

theorem longBracket_drops_return
    : lexeme? ((longBracket "\rhi").toList ++ [',']) = some (some (.string "hi"), [',']) ∧
        ¬∀ (s : String) (rest : List Char),
          lexeme? ((longBracket s).toList ++ rest) = some (some (.string s), rest) := by
  have hread : lexeme? ((longBracket "\rhi").toList ++ [',']) =
      some (some (.string "hi"), [',']) := by decide +kernel
  refine ⟨hread, ?_⟩
  intro hall
  have := hall "\rhi" [',']
  rw [hread] at this
  revert this
  decide

end PulpGame.Lua
