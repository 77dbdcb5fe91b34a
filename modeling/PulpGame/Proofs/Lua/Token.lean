import Mathlib
import PulpGame.Lua.Token

namespace PulpGame.Lua

inductive Token where
  | keyword (word : String)
  | name (name : String)
  | symbol (text : String)
  | string (value : String)
  | numeral (text : String)
deriving DecidableEq, Repr

/-- A symbol stands before those that it starts with. -/
def symbols : List String :=
  ["...", "..", "==", "~=", "<=", ">=", "//", "::", "<<", ">>", "+", "-", "*", "/", "%", "^", "#",
    "&", "~", "|", "<", ">", "=", "(", ")", "\x7b", "\x7d", "[", "]", ";", ":", ",", "."]

def isSpace (c : Char) : Bool :=
  c == ' ' || c == '\n' || c == '\r' || c == '\t' || c == '\x0b' || c == '\x0c'

def isLineEnd (c : Char) : Bool := c == '\n' || c == '\r'

def hexDigit? (c : Char) : Option Nat :=
  if c.isDigit then some (c.toNat - 48)
  else if 'a' ≤ c ∧ c ≤ 'f' then some (c.toNat - 87)
  else if 'A' ≤ c ∧ c ≤ 'F' then some (c.toNat - 55)
  else none

namespace Numeral

def isHex (c : Char) : Bool := (hexDigit? c).isSome

def run (mark : Char → Bool) : List Char → List Char × List Char
  | [] => ([], [])
  | [c] => if mark c || isHex c || c == '.' then ([c], []) else ([], [c])
  | c :: s :: cs =>
    if mark c && (s == '+' || s == '-') then
      ((run mark cs).map (c :: s :: ·) id)
    else if mark c || isHex c || c == '.' then ((run mark (s :: cs)).map (c :: ·) id)
    else ([], c :: s :: cs)

def mantissa? (digit : Char → Bool) (cs : List Char) : Option (List Char) :=
  let whole := cs.takeWhile digit
  match cs.dropWhile digit with
  | '.' :: rest =>
    if whole.isEmpty && (rest.takeWhile digit).isEmpty then none else some (rest.dropWhile digit)
  | rest => if whole.isEmpty then none else some rest

def isExponent (mark : Char → Bool) : List Char → Bool
  | [] => true
  | c :: cs =>
    let ds := match cs with
      | '+' :: ds => ds
      | '-' :: ds => ds
      | ds => ds
    mark c && !ds.isEmpty && ds.all Char.isDigit

def isDecimalMark (c : Char) : Bool := c == 'e' || c == 'E'

def isHexMark (c : Char) : Bool := c == 'p' || c == 'P'

def isNumber (mark digit : Char → Bool) (cs : List Char) : Bool :=
  match mantissa? digit cs with
  | none => false
  | some rest => isExponent mark rest

def startsHex : List Char → Bool
  | '0' :: x :: _ => x == 'x' || x == 'X'
  | _ => false

def ofText? (cs : List Char) : Option (List Char × List Char) :=
  let (text, rest) := if startsHex cs then (run isHexMark (cs.drop 2)).map (cs.take 2 ++ ·) id
    else run isDecimalMark cs
  let fits := if startsHex cs then isNumber isHexMark isHex (text.drop 2)
    else isNumber isDecimalMark Char.isDigit text
  if fits && !rest.head?.any isNamePart then some (text, rest) else none

theorem run_append (mark : Char → Bool) (cs : List Char)
    : (run mark cs).1 ++ (run mark cs).2 = cs := by
  fun_induction run mark cs <;> simp_all

theorem isNumber_nil (mark digit : Char → Bool) : isNumber mark digit [] = false := rfl

theorem startsHex_length_le {cs : List Char} (h : startsHex cs) : 2 ≤ cs.length := by
  unfold startsHex at h
  split at h
  . simp
  . simp at h

theorem ofText?_length_lt {cs text rest : List Char} (h : ofText? cs = some (text, rest))
    : rest.length < cs.length := by
  unfold ofText? at h
  by_cases hhex : startsHex cs
  . have hlength := congrArg List.length (run_append isHexMark (cs.drop 2))
    have := startsHex_length_le hhex
    simp [hhex] at h
    simp [h.2.2] at hlength
    omega
  . have hlength := congrArg List.length (run_append isDecimalMark cs)
    simp [hhex] at h
    obtain ⟨⟨hnumber, _⟩, hrun⟩ := h
    rw [hrun] at hnumber hlength
    have : text ≠ [] := by
      rintro rfl
      simp [isNumber_nil] at hnumber
    have := List.length_pos_iff.mpr this
    simp at hlength
    omega

end Numeral

namespace Short

def letters : List (Char × Char) :=
  [('a', '\x07'), ('b', '\x08'), ('f', '\x0c'), ('n', '\n'), ('r', '\r'), ('t', '\t'),
    ('v', '\x0b'), ('\\', '\\'), ('"', '"'), ('\x27', '\x27')]

def ofDigits (ds : List Char) : Nat := ds.foldl (fun n d => n * 10 + (d.toNat - 48)) 0

def ofByte (n : Nat) : Option Char := if n < 128 then some (Char.ofNat n) else none

/-- What is written behind a backslash, and what follows. Of decimal digits three are taken. -/
def escape? : List Char → Option (List Char × List Char)
  | [] => none
  | c :: cs =>
    match letters.lookup c with
    | some value => some ([value], cs)
    | none =>
      if c.isDigit then
        let ds := ((c :: cs).take 3).takeWhile Char.isDigit
        (ofByte (ofDigits ds)).map fun value => ([value], (c :: cs).drop ds.length)
      else
        match c, cs with
        | 'x', a :: b :: rest => do
          let value ← ofByte ((← hexDigit? a) * 16 + (← hexDigit? b))
          return ([value], rest)
        | 'z', rest => some ([], rest.dropWhile isSpace)
        | '\n', '\r' :: rest => some (['\n'], rest)
        | '\r', '\n' :: rest => some (['\n'], rest)
        | '\n', rest => some (['\n'], rest)
        | '\r', rest => some (['\n'], rest)
        | _, _ => none

theorem escape?_length_lt {cs value rest : List Char} (h : escape? cs = some (value, rest))
    : rest.length < cs.length := by
  unfold escape? at h
  split at h
  . simp at h
  . next c cs =>
    split at h
    . simp only [Option.some.injEq, Prod.mk.injEq] at h
      simp [h.2]
    . split at h
      . next hdigit =>
        simp only [Option.map_eq_some_iff, Prod.mk.injEq] at h
        obtain ⟨_, _, _, hrest⟩ := h
        rw [← hrest]
        simp only [List.take, List.takeWhile, hdigit, List.length_cons, List.length_drop]
        omega
      . split at h
        . simp only [Option.bind_eq_bind, Option.bind_eq_some_iff, Option.pure_def,
            Option.some.injEq, Prod.mk.injEq] at h
          obtain ⟨_, _, _, _, _, _, _, hrest⟩ := h
          rw [← hrest]
          simp
          omega
        . simp only [Option.some.injEq, Prod.mk.injEq] at h
          have := (List.dropWhile_sublist (l := cs) isSpace).length_le
          rw [← h.2]
          simp
          omega
        all_goals
          simp only [Option.some.injEq, Prod.mk.injEq, reduceCtorEq] at h
          try
            rw [← h.2]
            simp
            try omega

def body? (quote : Char) (cs : List Char) : Option (List Char × List Char) :=
  match cs with
  | [] => none
  | '\\' :: cs =>
    match _h : escape? cs with
    | none => none
    | some (value, rest) => (body? quote rest).map fun (body, rest) => (value ++ body, rest)
  | c :: cs =>
    if c = quote then some ([], cs)
    else if isLineEnd c then none
    else (body? quote cs).map fun (body, rest) => (c :: body, rest)
termination_by cs.length
decreasing_by
  . have := escape?_length_lt _h
    simp
    omega
  . simp

theorem body?_length_lt {quote : Char} {cs body rest : List Char}
    (h : body? quote cs = some (body, rest)) : rest.length < cs.length := by
  fun_induction body? quote cs generalizing body with
  | case1 => simp at h
  | case2 => simp at h
  | case3 cs value inner hescape ih =>
    simp only [Option.map_eq_some_iff, Prod.mk.injEq, Prod.exists] at h
    obtain ⟨_, _, hbody, _, hrest⟩ := h
    have := escape?_length_lt hescape
    have := ih (hrest ▸ hbody)
    simp
    omega
  | case4 => simp_all
  | case5 => simp at h
  | case6 c cs _ _ _ ih =>
    simp only [Option.map_eq_some_iff, Prod.mk.injEq, Prod.exists] at h
    obtain ⟨_, _, hbody, _, hrest⟩ := h
    have := ih (hrest ▸ hbody)
    simp
    omega

end Short

namespace Bracket

def opened? (cs : List Char) : Option (Nat × List Char) :=
  let level := (cs.takeWhile (· == '=')).length
  match cs.drop level with
  | '[' :: rest => some (level, rest)
  | _ => none

def content? (level : Nat) : List Char → Option (List Char × List Char)
  | [] => none
  | c :: cs =>
    if (closingBracket level).isPrefixOf (c :: cs) then some ([], (c :: cs).drop (level + 2))
    else (content? level cs).map fun (content, rest) => (c :: content, rest)

theorem content?_length_lt {level : Nat} {cs content rest : List Char}
    (h : content? level cs = some (content, rest)) : rest.length < cs.length := by
  induction cs generalizing content with
  | nil => simp [content?] at h
  | cons c cs ih =>
    unfold content? at h
    split at h
    . simp only [Option.some.injEq, Prod.mk.injEq] at h
      rw [← h.2]
      simp only [List.length_cons, List.length_drop]
      omega
    . simp only [Option.map_eq_some_iff, Prod.mk.injEq, Prod.exists] at h
      obtain ⟨_, _, hcontent, _, hrest⟩ := h
      have := ih (hrest ▸ hcontent)
      simp
      omega

theorem opened?_length_lt {level : Nat} {cs rest : List Char} (h : opened? cs = some (level, rest))
    : rest.length < cs.length := by
  unfold opened? at h
  dsimp at h
  split at h
  . next inner hdrop =>
    simp only [Option.some.injEq, Prod.mk.injEq] at h
    have := congrArg List.length hdrop
    rw [← h.2]
    simp at this
    omega
  . simp at h

/-- A line break of one character or of two different ones is a line feed. -/
def unifyBreaks : List Char → List Char
  | '\n' :: '\r' :: cs => '\n' :: unifyBreaks cs
  | '\r' :: '\n' :: cs => '\n' :: unifyBreaks cs
  | '\r' :: cs => '\n' :: unifyBreaks cs
  | c :: cs => c :: unifyBreaks cs
  | [] => []

def value (content : List Char) : List Char :=
  match unifyBreaks content with
  | '\n' :: cs => cs
  | cs => cs

end Bracket

def afterComment? (cs : List Char) : Option (List Char) :=
  let line := cs.dropWhile (!isLineEnd ·)
  match cs with
  | '[' :: inner =>
    match Bracket.opened? inner with
    | some (level, inner) => (Bracket.content? level inner).map (·.2)
    | none => some line
  | _ => some line

def symbol? (cs : List Char) : Option String := symbols.find? fun s => s.toList.isPrefixOf cs

inductive LexemeKind where
  | space
  | word
  | numeral
  | quoted
  | comment
  | bracket
  | symbol
deriving DecidableEq, Repr

def LexemeKind.of (c : Char) (next : Option Char) : LexemeKind :=
  if isSpace c then .space
  else if isNameStart c then .word
  else if c.isDigit || (c == '.' && next.any Char.isDigit) then .numeral
  else if c == '"' || c == '\x27' then .quoted
  else if c == '-' && next == some '-' then .comment
  else if c == '[' && (next == some '[' || next == some '=') then .bracket
  else .symbol

def wordToken (w : String) : Token := if keywords.contains w then .keyword w else .name w

def lexeme? : List Char → Option (Option Token × List Char)
  | [] => none
  | c :: cs =>
    match LexemeKind.of c cs.head? with
    | .space => some (none, cs)
    | .word =>
      some (some (wordToken (String.ofList (c :: cs.takeWhile isNamePart))),
        cs.dropWhile isNamePart)
    | .numeral => (Numeral.ofText? (c :: cs)).map fun (text, rest) =>
      (some (.numeral (String.ofList text)), rest)
    | .quoted => (Short.body? c cs).map fun (value, rest) =>
      (some (.string (String.ofList value)), rest)
    | .comment => (afterComment? (cs.drop 1)).map fun rest => (none, rest)
    | .bracket => do
      let (level, inner) ← Bracket.opened? cs
      let (content, rest) ← Bracket.content? level inner
      return (some (.string (String.ofList (Bracket.value content))), rest)
    | .symbol => (symbol? (c :: cs)).map fun s => (some (.symbol s), (c :: cs).drop s.length)

theorem afterComment?_length_le {cs rest : List Char} (h : afterComment? cs = some rest)
    : rest.length ≤ cs.length := by
  unfold afterComment? at h
  have := (List.dropWhile_sublist (l := cs) (!isLineEnd ·)).length_le
  split at h
  . split at h
    . next hopened =>
      simp only [Option.map_eq_some_iff, Prod.exists, exists_eq_right] at h
      obtain ⟨_, hcontent⟩ := h
      have := Bracket.opened?_length_lt hopened
      have := Bracket.content?_length_lt hcontent
      simp
      omega
    . simp_all
  . simp_all

theorem symbol?_ne_empty {cs : List Char} {s : String} (h : symbol? cs = some s)
    : 0 < s.length := by
  have hall : ∀ s ∈ symbols, 0 < s.length := by decide
  exact hall s (List.mem_of_find?_eq_some h)

theorem lexeme?_length_lt {cs rest : List Char} {t : Option Token}
    (h : lexeme? cs = some (t, rest)) : rest.length < cs.length := by
  cases cs with
  | nil => simp [lexeme?] at h
  | cons c cs =>
    -- The kind tells which function has read the token; each of them takes at least one character.
    cases hkind : LexemeKind.of c cs.head?
    all_goals simp only [lexeme?, hkind] at h
    case space => simp_all
    case word =>
      have := (List.dropWhile_sublist (l := cs) isNamePart).length_le
      simp only [Option.some.injEq, Prod.mk.injEq] at h
      simp [← h.2]
      omega
    case numeral =>
      simp only [Option.map_eq_some_iff, Prod.mk.injEq, Prod.exists] at h
      obtain ⟨_, _, htext, _, hrest⟩ := h
      exact Numeral.ofText?_length_lt (hrest ▸ htext)
    case quoted =>
      simp only [Option.map_eq_some_iff, Prod.mk.injEq, Prod.exists] at h
      obtain ⟨_, _, hbody, _, hrest⟩ := h
      have := Short.body?_length_lt (hrest ▸ hbody)
      simp
      omega
    case comment =>
      simp only [Option.map_eq_some_iff, Prod.mk.injEq] at h
      obtain ⟨_, hcomment, _, hrest⟩ := h
      have := afterComment?_length_le (hrest ▸ hcomment)
      simp at this
      simp
      omega
    case bracket =>
      simp only [Option.bind_eq_bind, Option.bind_eq_some_iff, Option.pure_def,
        Option.some.injEq, Prod.mk.injEq, Prod.exists] at h
      obtain ⟨_, _, hopened, _, _, hcontent, _, hrest⟩ := h
      have := Bracket.opened?_length_lt hopened
      have := Bracket.content?_length_lt (hrest ▸ hcontent)
      simp
      omega
    case symbol =>
      simp only [Option.map_eq_some_iff, Prod.mk.injEq] at h
      obtain ⟨s, hsymbol, _, hrest⟩ := h
      have := symbol?_ne_empty hsymbol
      simp [← hrest]
      omega

def tokens? (cs : List Char) : Option (List Token) :=
  match cs with
  | [] => some []
  | c :: cs =>
    match _h : lexeme? (c :: cs) with
    | none => none
    | some (t, rest) => (tokens? rest).map (t.toList ++ ·)
termination_by cs.length
decreasing_by exact lexeme?_length_lt _h

end PulpGame.Lua
