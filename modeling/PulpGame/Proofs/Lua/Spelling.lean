import PulpGame.Proofs.Lua.Token
/-!
Texts that spell tokens.

`Spells ok text ts` says that reading the text gives the tokens `ts` and goes on with what follows,
whatever that is, as long as it starts with a character that `ok` allows. So texts can be put
together where the first character of the one fits the end of the other.
-/

namespace PulpGame.Lua

theorem tokens?_of_lexeme? {cs rest : List Char} {t : Option Token}
    (h : lexeme? cs = some (t, rest)) : tokens? cs = (tokens? rest).map (t.toList ++ ·) := by
  cases cs with
  | nil => simp [lexeme?] at h
  | cons c cs =>
    rw [tokens?]
    split
    . simp_all
    . simp_all

def Starts (ok : Char → Bool) (cs : List Char) : Prop := ∀ c ∈ cs.head?, ok c

def Spells (ok : Char → Bool) (text : String) (ts : List Token) : Prop :=
  ∀ rest, Starts ok rest → tokens? (text.toList ++ rest) = (tokens? rest).map (ts ++ ·)

def anyChar (_ : Char) : Bool := true

def outsideName (c : Char) : Bool := !isNamePart c

def outsideNumeral (c : Char) : Bool := !isNamePart c && c != '.'

theorem outsideName_of_outsideNumeral {c : Char} (h : outsideNumeral c) : outsideName c := by
  simp only [outsideNumeral, Bool.and_eq_true] at h
  exact h.1

theorem starts_anyChar (cs : List Char) : Starts anyChar cs := by
  intro c _
  rfl

namespace Spells

variable {ok ok' : Char → Bool} {a b : String} {s t : List Token}

theorem mono (h : Spells ok a s) (hok : ∀ c, ok' c → ok c) : Spells ok' a s := by
  intro rest hrest
  apply h
  intro c hc
  exact hok c (hrest c hc)

theorem weaken (h : Spells anyChar a s) : Spells ok a s := by
  apply h.mono
  intro c _
  rfl

theorem ofName (h : Spells outsideName a s) : Spells outsideNumeral a s := by
  apply h.mono
  intro c hc
  exact outsideName_of_outsideNumeral hc

theorem empty : Spells anyChar "" [] := by
  intro rest _
  simp

theorem append (ha : Spells ok a s) (hb : Spells ok' b t) (h : b.toList.head?.any ok)
    : Spells ok' (a ++ b) (s ++ t) := by
  intro rest hrest
  rw [String.toList_append, List.append_assoc, ha, hb rest hrest]
  . simp [Function.comp_def]
  . intro c hc
    cases hchars : b.toList with
    | nil => simp [hchars] at h
    | cons d ds => simp_all

theorem append_anyChar (ha : Spells anyChar a s) (hb : Spells ok b t)
    : Spells ok (a ++ b) (s ++ t) := by
  intro rest hrest
  rw [String.toList_append, List.append_assoc, ha _ (starts_anyChar _), hb rest hrest]
  simp [Function.comp_def]

theorem append_nothing (ha : Spells ok a s) (hb : Spells ok' b []) (h : b.toList.head?.any ok)
    : Spells ok' (a ++ b) s := by
  have := ha.append hb h
  simpa using this

theorem join_map {α : Type} {text : α → String} {ts : α → List Token} {xs : List α}
    (h : ∀ x ∈ xs, Spells anyChar (text x) (ts x))
    : Spells anyChar (String.join (xs.map text)) (xs.flatMap ts) := by
  induction xs with
  | nil => simpa using empty
  | cons x xs ih =>
    rw [List.forall_mem_cons] at h
    rw [List.map_cons, String.join_cons, List.flatMap_cons]
    exact h.1.append_anyChar (ih h.2)

theorem tokens?_eq (h : Spells ok a s) : tokens? a.toList = some s := by
  have := h [] (by simp [Starts])
  simpa [tokens?] using this

end Spells

theorem Spells.ofLexeme? {ok : Char → Bool} {text : String} {t : Option Token}
    (h : ∀ rest, Starts ok rest → lexeme? (text.toList ++ rest) = some (t, rest))
    : Spells ok text t.toList := by
  intro rest hrest
  exact tokens?_of_lexeme? (h rest hrest)

theorem takeWhile_append_of_starts {p ok : Char → Bool} {cs rest : List Char} (hcs : cs.all p)
    (hok : ∀ c, ok c → p c = false) (hrest : Starts ok rest)
    : (cs ++ rest).takeWhile p = cs ∧ (cs ++ rest).dropWhile p = rest := by
  induction cs with
  | nil =>
    cases rest with
    | nil => simp
    | cons c rest =>
      have := hok c (hrest c (by simp))
      simp [this]
  | cons c cs ih =>
    simp only [List.all_cons, Bool.and_eq_true] at hcs
    simp [hcs.1, ih hcs.2]

theorem isSpace_eq_false_of_isNameStart {c : Char} (h : isNameStart c) : isSpace c = false := by
  by_contra hspace
  simp only [isSpace, Bool.not_eq_false, Bool.or_eq_true, beq_iff_eq] at hspace
  rcases hspace with ((((rfl | rfl) | rfl) | rfl) | rfl) | rfl <;> simp [isNameStart] at h

theorem spells_word {w : String} (h : isWord w.toList) : Spells outsideName w [wordToken w] := by
  apply Spells.ofLexeme? (t := some (wordToken w))
  intro rest hrest
  cases hchars : w.toList with
  | nil => simp [hchars, isWord] at h
  | cons c cs =>
    simp only [hchars, isWord, Bool.and_eq_true] at h
    obtain ⟨htake, hdrop⟩ := takeWhile_append_of_starts h.2 (by simp [outsideName]) hrest
    have hkind : LexemeKind.of c (cs ++ rest).head? = .word := by
      simp [LexemeKind.of, isSpace_eq_false_of_isNameStart h.1, h.1]
    have hw : String.ofList (c :: cs) = w := by rw [← hchars, String.ofList_toList]
    simp only [List.cons_append, lexeme?, hkind, htake, hdrop, hw]

theorem spells_name {n : String} (h : isName n) : Spells outsideName n [.name n] := by
  simp only [isName, Bool.and_eq_true, Bool.not_eq_true'] at h
  have := spells_word h.1
  rwa [wordToken, h.2] at this

theorem spells_space {c : Char} (h : isSpace c) : Spells anyChar (String.ofList [c]) [] := by
  apply Spells.ofLexeme? (t := none)
  intro rest _
  simp [lexeme?, LexemeKind.of, h]

def clashes : String → Char → Bool
  | "=", c => c == '='
  | "~", c => c == '='
  | "<", c => c == '=' || c == '<'
  | ">", c => c == '=' || c == '>'
  | "/", c => c == '/'
  | ":", c => c == ':'
  | "-", c => c == '-'
  | "[", c => c == '[' || c == '='
  | ".", c => c == '.' || c.isDigit
  | "..", c => c == '.'
  | _, _ => false

theorem symbols_pairwise : symbols.Pairwise fun l s => ¬l.toList.isPrefixOf s.toList := by
  decide +kernel

theorem clashes_of_longer {s l : String} (hs : s ∈ symbols) (hl : l ∈ symbols) {c : Char}
    {cs : List Char} (h : l.toList = s.toList ++ c :: cs) : clashes s c := by
  have hall : ∀ s ∈ symbols, ∀ l ∈ symbols, s.toList.isPrefixOf l.toList →
      (l.toList.drop s.toList.length).head?.all (clashes s) := by
    decide +kernel
  have := hall s hs l hl
  simpa [h] using this

theorem symbol?_append {s : String} (hs : s ∈ symbols) {rest : List Char}
    (hrest : Starts (fun c => !clashes s c) rest) : symbol? (s.toList ++ rest) = some s := by
  obtain ⟨before, behind, hsplit⟩ := List.append_of_mem hs
  rw [symbol?, List.find?_eq_some_iff_append]
  refine ⟨by simp, before, behind, hsplit, ?_⟩
  intro l hl
  have hpair := symbols_pairwise
  rw [hsplit, List.pairwise_append] at hpair
  have hnot := hpair.2.2 l hl s (by simp)
  simp only [Bool.not_eq_true', ← Bool.not_eq_true, List.isPrefixOf_iff_prefix] at hnot ⊢
  intro happlied
  obtain ⟨tail, htail⟩ := happlied
  -- a symbol in front of `s` is no part of it, so it has to be longer
  rcases List.append_eq_append_iff.mp htail with ⟨_, h, _⟩ | ⟨more, h, hmore⟩
  . exact hnot ⟨_, h.symm⟩
  . cases more with
    | nil => exact hnot ⟨[], by simp [h]⟩
    | cons c cs =>
      have hlong : clashes s c := clashes_of_longer hs (by simp [hsplit, hl]) h
      have hshort := hrest c (by simp [hmore])
      simp [hlong] at hshort

theorem kind_symbol {s : String} (hs : s ∈ symbols) {rest : List Char}
    (hrest : Starts (fun c => !clashes s c) rest) {c : Char} {cs : List Char}
    (hchars : s.toList = c :: cs) : LexemeKind.of c (cs ++ rest).head? = .symbol := by
  have hnext : ∀ c ∈ rest.head?, clashes s c = false := by
    intro c hc
    have := hrest c hc
    simpa using this
  simp only [symbols, List.mem_cons, List.not_mem_nil, or_false] at hs
  rcases hs with rfl | rfl | rfl | rfl | rfl | rfl | rfl | rfl | rfl | rfl | rfl | rfl | rfl |
    rfl | rfl | rfl | rfl | rfl | rfl | rfl | rfl | rfl | rfl | rfl | rfl | rfl | rfl | rfl | rfl |
    rfl | rfl | rfl | rfl
  all_goals
    simp at hchars
    obtain ⟨rfl, rfl⟩ := hchars
  -- what a symbol is depends on what follows only for a point, a minus sign and a bracket
  all_goals first
    | rfl
    | cases rest with
      | nil => rfl
      | cons d rest =>
        have := hnext d (by simp)
        simp_all [clashes, LexemeKind.of, isSpace, isNameStart]

theorem spells_symbol {s : String} (hs : s ∈ symbols)
    : Spells (fun c => !clashes s c) s [.symbol s] := by
  apply Spells.ofLexeme? (t := some (.symbol s))
  intro rest hrest
  have hsymbol := symbol?_append hs hrest
  have hpos := symbol?_ne_empty hsymbol
  obtain ⟨c, cs, hchars⟩ : ∃ c cs, s.toList = c :: cs := by
    rw [← String.length_toList] at hpos
    exact List.exists_cons_of_length_pos hpos
  have hkind := kind_symbol hs hrest hchars
  have hlength : (c :: cs).length = s.length := by rw [← hchars, String.length_toList]
  rw [hchars] at hsymbol ⊢
  simp only [List.cons_append, lexeme?, hkind] at hsymbol ⊢
  rw [hsymbol]
  simp [← hlength]

inductive Piece where
  | space (c : Char)
  | word (w : String)
  | symbol (s : String)

namespace Piece

def chars : Piece → List Char
  | space c => [c]
  | word w => w.toList
  | symbol s => s.toList

def tokens : Piece → List Token
  | space _ => []
  | word w => [wordToken w]
  | symbol s => [.symbol s]

def fits : Piece → Char → Bool
  | space _ => anyChar
  | word _ => outsideName
  | symbol s => fun c => !clashes s c

def isValid : Piece → Bool
  | space c => isSpace c
  | word w => isWord w.toList
  | symbol s => symbols.contains s

def areLinked : List Piece → Bool
  | [] => true
  | [p] => p.isValid
  | p :: q :: ps => p.isValid && q.chars.head?.any p.fits && areLinked (q :: ps)

theorem spells (p : Piece) (h : p.isValid) : Spells p.fits (String.ofList p.chars) p.tokens := by
  cases p with
  | space c => exact spells_space h
  | word w =>
    rw [chars, String.ofList_toList]
    exact spells_word h
  | symbol s =>
    simp only [isValid, List.contains_eq_mem, decide_eq_true_eq] at h
    rw [chars, String.ofList_toList]
    exact spells_symbol h

theorem spells_append (ps : List Piece) (p : Piece) (h : areLinked (ps ++ [p]))
    : Spells p.fits (String.ofList ((ps ++ [p]).flatMap chars)) ((ps ++ [p]).flatMap tokens) := by
  induction ps with
  | nil => simpa using p.spells h
  | cons q ps ih =>
    obtain ⟨r, rs, hr⟩ : ∃ r rs, ps ++ [p] = r :: rs := by
      cases ps with
      | nil => exact ⟨_, _, rfl⟩
      | cons r rs => exact ⟨_, _, rfl⟩
    simp only [List.cons_append, hr, areLinked, Bool.and_eq_true] at h ih ⊢
    have := (q.spells h.1.1).append (ih h.2) (by
      have := h.1.2
      cases hchars : r.chars <;> simp_all)
    simpa using this

end Piece

theorem spells_closed {text : String} (ps : List Piece) (p : Piece)
    (htext : text.toList = (ps ++ [p]).flatMap Piece.chars)
    (hlinked : Piece.areLinked (ps ++ [p])) (hclosed : ∀ c, p.fits c)
    : Spells anyChar text ((ps ++ [p]).flatMap Piece.tokens) := by
  have := Piece.spells_append ps p hlinked
  rw [← htext, String.ofList_toList] at this
  apply this.mono
  intro c _
  exact hclosed c

theorem spells_open {text : String} (ps : List Piece) (w : String)
    (htext : text.toList = (ps ++ [Piece.word w]).flatMap Piece.chars)
    (hlinked : Piece.areLinked (ps ++ [Piece.word w]))
    : Spells outsideName text ((ps ++ [Piece.word w]).flatMap Piece.tokens) := by
  have := Piece.spells_append ps (.word w) hlinked
  rwa [← htext, String.ofList_toList] at this

example : Spells anyChar " = function(" [.symbol "=", .keyword "function", .symbol "("] :=
  spells_closed [.space ' ', .symbol "=", .space ' ', .word "function"] (.symbol "(") rfl rfl
    fun _ => rfl

end PulpGame.Lua
