import PulpGame.Proofs.Lua.Literal
/-!
The level of a literal between long brackets.

A closing bracket that comes too early in a literal ends in the text, or with the first character
behind it. It does not begin with the line feed that may stand in front of the text. So the levels
that fit are those whose closing bracket does not occur in the text with a bracket behind it, and the
search finds the least of them.
-/

namespace PulpGame.Lua

variable {text : List Char} {level : Nat}

def bracketed (level : Nat) (text : List Char) : List Char :=
  openingBracket level ++ (bracketContent text ++ closingBracket level)

/-- The first closing bracket of the level behind the opening bracket is the one at the end. -/
def ClosesAtEnd (level : Nat) (literal : List Char) : Prop :=
  ∃ content, literal = openingBracket level ++ (content ++ closingBracket level) ∧
    ∀ place < content.length,
      ¬closingBracket level <+: (content ++ closingBracket level).drop place

theorem longBracketChars_eq (text : List Char)
    : longBracketChars text = bracketed (bracketLevel text) text := by
  simp [longBracketChars, bracketed, bracketContent]

theorem begins_iff_infix
    : (∃ place < text.length, closingBracket level <+: (text ++ closingBracket level).drop place) ↔
        closingBracket level <:+: text ++ [']'] := by
  constructor
  . rintro ⟨place, hplace, h⟩
    rw [List.drop_append_of_le_length hplace.le, ← List.append_nil (_ ++ _)] at h
    have hne : text.drop place ≠ [] := by
      rwa [ne_eq, List.drop_eq_nil_iff, not_le]
    have hends := prefix_of_prefix_append hne h
    rw [← List.drop_append_of_le_length hplace.le] at hends
    exact hends.isInfix.trans (List.drop_suffix place _).isInfix
  . rintro ⟨front, back, h⟩
    have hlength := congrArg List.length h
    simp only [List.length_append, length_closingBracket, List.length_singleton] at hlength
    have hplace : front.length < text.length := by omega
    have hbegins : closingBracket level <+: (text ++ [']']).drop front.length := by
      rw [← h, List.append_assoc, List.drop_left]
      exact List.prefix_append _ _
    have hfirst : [']'] <+: closingBracket level := by simp [closingBracket]
    refine ⟨front.length, hplace, ?_⟩
    rw [List.drop_append_of_le_length hplace.le] at hbegins ⊢
    exact hbegins.trans ((List.prefix_append_right_inj _).mpr hfirst)

theorem closesAtEnd_iff
    : ClosesAtEnd level (bracketed level text) ↔ ¬closingBracket level <:+: text ++ [']'] := by
  rw [← infix_bracketContent, ← begins_iff_infix]
  constructor
  . rintro ⟨content, heq, hnone⟩
    obtain rfl := List.append_cancel_right (List.append_cancel_left heq)
    rintro ⟨place, hplace, h⟩
    exact hnone place hplace h
  . intro hnone
    exact ⟨bracketContent text, rfl, fun place hplace h => hnone ⟨place, hplace, h⟩⟩

/-- The search for a level ends, with a level that is not greater than the length of the text. In
the literal, which has this level, the first closing bracket of the level behind the opening one is
that at the end, and there is no lower level of which this could be said. -/
theorem bracketLevel_least (s : String)
    : let text := s.toList
      (∀ found, Searches (text ++ [']']) 0 found ↔ found = bracketLevel text) ∧
        bracketLevel text ≤ s.length ∧
        (longBracket s).toList = bracketed (bracketLevel text) text ∧
        IsLeast {level | ClosesAtEnd level (bracketed level text)} (bracketLevel text) := by
  intro text
  have hsearch := searches_bracketLevel text
  refine ⟨?_, bracketLevel_le_length text, ?_, closesAtEnd_iff.mpr hsearch.free, ?_⟩
  . intro found
    constructor
    . intro hfound
      exact hfound.unique hsearch
    . rintro rfl
      exact hsearch
  . rw [longBracket, String.toList_ofList, longBracketChars_eq]
  . intro level hcloses
    exact hsearch.found_le (Nat.zero_le level) (closesAtEnd_iff.mp hcloses)

example : ["x]", "x]=", "x]==", "a]]b]=]c"].map longBracket =
    ["[=[x]]=]", "[[x]=]]", "[[x]==]]", "[==[a]]b]=]c]==]"] := by
  decide +kernel

end PulpGame.Lua
