import PulpGame.Lua.Syntax
import PulpGame.Proofs.Lua.Decimal
import PulpGame.Proofs.Lua.Grammar
import PulpGame.Proofs.Lua.Literal

namespace PulpGame.Lua

def operatorToken (op : String) : Token := if keywords.contains op then .keyword op else .symbol op

def isOperator (op : String) : Bool :=
  match priority? (operatorToken op) with
  | some (_, before, _) => before < unaryPriority
  | none => false

namespace Expr

def isPrefix : Expr → Bool
  | .name _ | .field _ _ | .index _ _ | .call _ _ | .callString _ _ | .invoke _ _ _ => true
  | _ => false

def isPlace : Expr → Bool
  | .name _ | .field _ _ | .index _ _ => true
  | _ => false

def isCall : Expr → Bool
  | .call _ _ | .callString _ _ | .invoke _ _ _ => true
  | _ => false

def rank : Expr → Nat
  | .binary op _ _ => ((priority? (operatorToken op)).map (·.2.1)).getD 0
  | .concat _ => 9
  | _ => unaryPriority + 1

def reach (op : String) : Nat := ((priority? (operatorToken op)).map (·.2.2)).getD 0

/-- Trees that are read back from their text: names are names, numbers are numbers, and operands
bind more than the operator they belong to. -/
inductive Fits : Expr → Prop where
  | nil : Fits .nil
  | boolean {value : Bool} : Fits (.boolean value)
  | numeral {digits : String} (h : IsSigned digits.toList) : Fits (.numeral digits)
  | string {value : String} : Fits (.string value)
  | name {n : String} (h : isName n) : Fits (.name n)
  | field {table : Expr} {key : String} (happlied : table.isPrefix) (h : Fits table)
    : Fits (.field table key)
  | index {table key : Expr} (happlied : table.isPrefix) (h : Fits table) (hkey : Fits key)
    : Fits (.index table key)
  | call {f : Expr} {xs : List Expr} (happlied : f.isPrefix) (h : Fits f) (hxs : ∀ x ∈ xs, Fits x)
    : Fits (.call f xs)
  | callString {f : Expr} {value : String} (happlied : f.isPrefix) (h : Fits f)
    : Fits (.callString f value)
  | invoke {object : Expr} {method : String} {xs : List Expr} (happlied : object.isPrefix)
      (h : Fits object) (hmethod : isName method) (hxs : ∀ x ∈ xs, Fits x)
    : Fits (.invoke object method xs)
  | binary {op : String} {left right : Expr} (hop : isOperator op)
      (hleft : unaryPriority < left.rank) (hright : reach op < right.rank) (hl : Fits left)
      (hr : Fits right)
    : Fits (.binary op left right)
  | negation {operand : Expr} (hrank : unaryPriority < operand.rank) (h : Fits operand)
    : Fits (.negation operand)
  | concat {parts : List Expr} (hne : parts ≠ []) (hrank : ∀ p ∈ parts, unaryPriority < p.rank)
      (h : ∀ p ∈ parts, Fits p)
    : Fits (.concat parts)
  | group {inner : Expr} (h : Fits inner) : Fits (.group inner)
  | tableOf {layout : TableLayout} {fields : List (String × Expr)}
      (hkeys : ∀ f ∈ fields, isName f.1) (h : ∀ f ∈ fields, Fits f.2)
    : Fits (.tableOf layout fields)
  | lambda {parameters : List String} {result : Expr} (hnames : ∀ n ∈ parameters, isName n)
      (h : Fits result)
    : Fits (.lambda parameters result)

def keyTokens (key : String) : List Token :=
  if isName key then [.symbol ".", .name key] else [.symbol "[", .string key, .symbol "]"]

def tableTokens (layout : TableLayout) (fields : List (List Token)) : List Token :=
  match layout with
  | .inline => .symbol "\x7b" :: (fields.map (· ++ [.symbol ","])).flatten ++ [.symbol "\x7d"]
  | .lines _ => .symbol "\x7b" :: [.symbol ","].intercalate fields ++ [.symbol "\x7d"]

def parameterTokens (parameters : List String) : List Token :=
  .symbol "(" :: [.symbol ","].intercalate (parameters.map fun n => [.name n]) ++ [.symbol ")"]

mutual

def tokens : Expr → List Token
  | .nil => [.keyword "nil"]
  | .boolean value => [.keyword (if value then "true" else "false")]
  | .numeral digits => signedTokens digits
  | .string value => [.string value]
  | .name n => [.name n]
  | .field table key => table.tokens ++ keyTokens key
  | .index table key => table.tokens ++ .symbol "[" :: key.tokens ++ [.symbol "]"]
  | .call f xs => f.tokens ++ .symbol "(" :: [.symbol ","].intercalate (tokenLists xs) ++ [.symbol ")"]
  | .callString f value => f.tokens ++ [.string value]
  | .invoke object method xs =>
    object.tokens ++ .symbol ":" :: .name method :: .symbol "(" ::
      [.symbol ","].intercalate (tokenLists xs) ++ [.symbol ")"]
  | .binary op left right => left.tokens ++ operatorToken op :: right.tokens
  | .negation operand => .keyword "not" :: operand.tokens
  | .concat parts => [.symbol ".."].intercalate (tokenLists parts)
  | .group inner => .symbol "(" :: inner.tokens ++ [.symbol ")"]
  | .tableOf layout fields => tableTokens layout (fieldTokens fields)
  | .lambda parameters result =>
    .keyword "function" :: parameterTokens parameters ++ .keyword "return" :: result.tokens ++
      [.keyword "end"]

def tokenLists : List Expr → List (List Token)
  | [] => []
  | e :: es => e.tokens :: tokenLists es

def fieldTokens : List (String × Expr) → List (List Token)
  | [] => []
  | (key, e) :: fs => (.name key :: .symbol "=" :: e.tokens) :: fieldTokens fs

end

theorem texts_eq (es : List Expr) : texts es = es.map text := by
  induction es with
  | nil => rfl
  | cons e es ih => rw [texts, ih, List.map_cons]

theorem tokenLists_eq (es : List Expr) : tokenLists es = es.map tokens := by
  induction es with
  | nil => rfl
  | cons e es ih => rw [tokenLists, ih, List.map_cons]

theorem fieldTexts_eq (fs : List (String × Expr))
    : fieldTexts fs = fs.map fun f => f.1 ++ " = " ++ f.2.text := by
  induction fs with
  | nil => rfl
  | cons f fs ih => rw [fieldTexts, ih, List.map_cons]

theorem fieldTokens_eq (fs : List (String × Expr))
    : fieldTokens fs = fs.map fun f => .name f.1 :: .symbol "=" :: f.2.tokens := by
  induction fs with
  | nil => rfl
  | cons f fs ih => rw [fieldTokens, ih, List.map_cons]

end Expr

theorem Spells.intercalate {ok : Char → Bool} {sep : String} {t : Token}
    (hsep : Spells anyChar sep [t]) (hfits : sep.toList.head?.any ok) {α : Type} {text : α → String}
    {ts : α → List Token} {xs : List α} (h : ∀ x ∈ xs, Spells ok (text x) (ts x))
    : Spells ok (sep.intercalate (xs.map text)) ([t].intercalate (xs.map ts)) := by
  induction xs with
  | nil => exact Spells.empty.weaken
  | cons x xs ih =>
    have hx := h x (by simp)
    have hxs := ih fun y hy => h y (by simp [hy])
    cases xs with
    | nil => simpa using hx
    | cons y ys =>
      simp only [List.map_cons, String.intercalate_cons_cons, List.intercalate_cons_cons] at hxs ⊢
      exact (hx.append hsep hfits).append_anyChar hxs

theorem spells_opening : Spells anyChar "(" [.symbol "("] :=
  spells_closed [] (.symbol "(") rfl rfl fun _ => rfl

theorem spells_closing : Spells anyChar ")" [.symbol ")"] :=
  spells_closed [] (.symbol ")") rfl rfl fun _ => rfl

theorem spells_comma : Spells anyChar ", " [.symbol ","] :=
  spells_closed [.symbol ","] (.space ' ') rfl rfl fun _ => rfl

def opensPlainly (text : String) : Bool := text.toList.head?.any fun c => !clashes "[" c

theorem opensPlainly_append {a : String} (h : opensPlainly a) (b : String)
    : opensPlainly (a ++ b) := by
  unfold opensPlainly at h ⊢
  rw [String.toList_append]
  cases hchars : a.toList with
  | nil => simp [hchars] at h
  | cons c cs => simpa [hchars] using h

theorem opensPlainly_numeral {digits : String} (h : IsSigned digits.toList)
    : opensPlainly digits := by
  unfold opensPlainly
  generalize digits.toList = cs at h
  cases h with
  | plain h =>
    obtain ⟨c, tail, rfl, hc⟩ := h.head
    simp only [List.head?_cons, Option.any_some, Bool.not_eq_true', clashes]
    by_contra hclash
    simp only [Bool.not_eq_false, Bool.or_eq_true, beq_iff_eq] at hclash
    rcases hclash with rfl | rfl <;> simp at hc
  | negative _ => rfl

theorem clashes_of_isNameStart {c : Char} (h : isNameStart c) (s : String)
    : clashes s c = false := by
  have hdigit : c.isDigit = false := by
    by_contra hdigit
    rw [isNameStart_eq_false_of_isDigit (by simpa using hdigit)] at h
    simp at h
  have hother : ∀ d ∈ ['=', '<', '>', '/', ':', '-', '[', '.'], c ≠ d := by
    rintro d hd rfl
    have hall : ['=', '<', '>', '/', ':', '-', '[', '.'].all (!isNameStart ·) := rfl
    have := List.all_eq_true.mp hall c hd
    simp [h] at this
  simp only [List.forall_mem_cons] at hother
  unfold clashes
  split <;> simp [hother, hdigit]

theorem head_name {n : String} (h : isName n) (s : String)
    : n.toList.head?.any fun c => !clashes s c := by
  simp only [isName, Bool.and_eq_true] at h
  cases hchars : n.toList with
  | nil => simp [hchars, isWord] at h
  | cons c cs =>
    simp only [hchars, isWord, Bool.and_eq_true] at h
    simp [clashes_of_isNameStart h.1.1]

namespace Expr

theorem Fits.opensPlainly {e : Expr} (h : e.Fits) : opensPlainly e.text := by
  induction h with
  | nil => rfl
  | @boolean value => cases value <;> rfl
  | numeral h => exact opensPlainly_numeral h
  | string => exact opensPlainly_append (opensPlainly_append rfl _) _
  | name h => exact head_name h _
  | @field table key _ _ ih =>
    rw [text, fieldText]
    split
    . exact opensPlainly_append (opensPlainly_append ih _) _
    . exact opensPlainly_append (opensPlainly_append (opensPlainly_append ih _) _) _
  | index _ _ _ ih =>
    exact opensPlainly_append (opensPlainly_append (opensPlainly_append ih _) _) _
  | call _ _ _ ih =>
    exact opensPlainly_append (opensPlainly_append (opensPlainly_append ih _) _) _
  | callString _ _ ih => exact opensPlainly_append (opensPlainly_append ih _) _
  | @invoke object method xs _ _ _ _ ih =>
    have := opensPlainly_append (opensPlainly_append (opensPlainly_append ih ":") method) "("
    exact opensPlainly_append (opensPlainly_append this _) _
  | @binary op _ _ _ _ _ _ _ ih =>
    have := opensPlainly_append (opensPlainly_append ih " ") op
    exact opensPlainly_append (opensPlainly_append this " ") _
  | negation => exact opensPlainly_append rfl _
  | @concat parts hne _ _ ih =>
    obtain ⟨p, ps, rfl⟩ := List.exists_cons_of_ne_nil hne
    have hp := ih p (by simp)
    rw [text, texts]
    cases ps with
    | nil => rwa [texts, String.intercalate_singleton]
    | cons q qs =>
      rw [texts, String.intercalate_cons_cons]
      exact opensPlainly_append (opensPlainly_append hp _) _
  | group => exact opensPlainly_append (opensPlainly_append rfl _) _
  | @tableOf layout fields =>
    unfold text tableText
    dsimp only
    split
    . rfl
    . split
      . exact opensPlainly_append (opensPlainly_append rfl _) _
      . exact opensPlainly_append (opensPlainly_append rfl _) _
  | lambda =>
    rw [text]
    exact opensPlainly_append (opensPlainly_append (opensPlainly_append
      (opensPlainly_append rfl _) _) _) _

def next (e : Expr) : Char → Bool := if e.isPrefix then outsideName else outsideNumeral

theorem next_eq {e : Expr} (h : e.isPrefix) : e.next = outsideName := by rw [next, if_pos h]

end Expr

theorem Spells.toNext {e : Expr} {text : String} {ts : List Token}
    (h : Spells outsideName text ts) : Spells e.next text ts := by
  unfold Expr.next
  split
  . exact h
  . exact h.ofName

theorem Spells.ofNext {e : Expr} {text : String} {ts : List Token}
    (h : Spells e.next text ts) : Spells outsideNumeral text ts := by
  unfold Expr.next at h
  split at h
  . exact h.ofName
  . exact h

theorem isOperator_cases {op : String} (h : isOperator op) : op = "or" ∨ op = "and" ∨
    (op ∈ symbols ∧ operatorToken op = .symbol op) := by
  unfold isOperator operatorToken at h
  unfold operatorToken
  cases hkeyword : keywords.contains op with
  | true =>
    rw [hkeyword, if_pos rfl] at h
    cases hpriority : priority? (.keyword op) with
    | none => simp [hpriority] at h
    | some p =>
      unfold priority? at hpriority
      split at hpriority <;> simp_all
  | false =>
    refine .inr (.inr ⟨?_, by simp⟩)
    rw [hkeyword, if_neg (by decide)] at h
    by_contra hnot
    simp only [symbols, List.mem_cons, List.not_mem_nil, or_false, not_or] at hnot
    simp [priority?, hnot] at h

theorem spells_blank : Spells anyChar " " [] := spells_closed [] (.space ' ') rfl rfl fun _ => rfl

theorem spells_equals : Spells anyChar " = " [.symbol "="] :=
  spells_closed [.space ' ', .symbol "="] (.space ' ') rfl rfl fun _ => rfl

theorem spells_commaBreak : Spells anyChar ",\n" [.symbol ","] :=
  spells_closed [.symbol ","] (.space '\n') rfl rfl fun _ => rfl

theorem spells_break : Spells anyChar "\n" [] := spells_closed [] (.space '\n') rfl rfl fun _ => rfl

theorem spells_blanks (n : Nat) : Spells anyChar (String.ofList (List.replicate n ' ')) [] := by
  induction n with
  | zero => exact Spells.empty
  | succ n ih =>
    have := spells_blank.append_anyChar ih
    rw [List.replicate_succ, String.ofList_cons]
    exact this

theorem spells_operator {op : String} (h : isOperator op)
    : Spells anyChar (" " ++ op ++ " ") [operatorToken op] := by
  rcases isOperator_cases h with rfl | rfl | ⟨hmem, htoken⟩
  . exact spells_closed [.space ' ', .word "or"] (.space ' ') rfl rfl fun _ => rfl
  . exact spells_closed [.space ' ', .word "and"] (.space ' ') rfl rfl fun _ => rfl
  . have hblank : ∀ s ∈ symbols, !clashes s ' ' := by decide
    have hop := spells_blank.append_anyChar (spells_symbol hmem)
    rw [htoken]
    exact hop.append_nothing spells_blank (hblank op hmem)

theorem spells_fieldText {table key : String} {ts : List Token} (h : Spells outsideName table ts)
    : Spells outsideName (Expr.fieldText table key) (ts ++ Expr.keyTokens key) := by
  unfold Expr.fieldText Expr.keyTokens
  split
  . next hkey =>
    have hpoint : Spells (fun c => !clashes "." c) "." [.symbol "."] := spells_symbol (by decide)
    have := (h.append hpoint rfl).append (spells_name hkey) (head_name hkey _)
    simpa using this
  . have hopening : Spells (fun c => !clashes "[" c) "[" [.symbol "["] :=
      spells_symbol (by decide)
    have hclosing : Spells anyChar "]" [.symbol "]"] :=
      spells_closed [] (.symbol "]") rfl rfl fun _ => rfl
    have hkey : (quote key).toList.head?.any fun c => !clashes "[" c :=
      opensPlainly_append (opensPlainly_append rfl _) _
    have := ((h.append hopening rfl).append (spells_quote key) hkey).append hclosing rfl
    simpa using this.weaken

theorem spells_parameters {parameters : List String} (h : ∀ n ∈ parameters, isName n)
    : Spells anyChar ("(" ++ ", ".intercalate parameters ++ ")") (Expr.parameterTokens parameters)
    := by
  have hnames : Spells outsideName (", ".intercalate parameters)
      ([.symbol ","].intercalate (parameters.map fun n => [.name n])) := by
    have := Spells.intercalate spells_comma rfl fun n hn => spells_name (h n hn)
    simpa using this
  exact (spells_opening.append_anyChar hnames).append spells_closing rfl

theorem spells_tableText {layout : TableLayout} {fields : List (String × Expr)}
    (hkeys : ∀ f ∈ fields, isName f.1) (h : ∀ f ∈ fields, Spells outsideNumeral f.2.text f.2.tokens)
    : Spells anyChar (Expr.tableText layout (Expr.fieldTexts fields))
      (Expr.tableTokens layout (Expr.fieldTokens fields)) := by
  have hfield : ∀ f ∈ fields, Spells outsideNumeral (f.1 ++ " = " ++ f.2.text)
      (.name f.1 :: .symbol "=" :: f.2.tokens) := by
    intro f hf
    exact ((spells_name (hkeys f hf)).append spells_equals rfl).append_anyChar (h f hf)
  have hopening : Spells anyChar "\x7b" [.symbol "\x7b"] :=
    spells_closed [] (.symbol "\x7b") rfl rfl fun _ => rfl
  rw [Expr.fieldTexts_eq, Expr.fieldTokens_eq]
  unfold Expr.tableText Expr.tableTokens
  cases fields with
  | nil =>
    have hempty : Spells anyChar "\x7b\x7d" [.symbol "\x7b", .symbol "\x7d"] :=
      spells_closed [.symbol "\x7b"] (.symbol "\x7d") rfl rfl fun _ => rfl
    cases layout <;> exact hempty
  | cons f fs =>
    cases layout with
    | inline =>
      have hcomma : Spells anyChar "," [.symbol ","] :=
        spells_closed [] (.symbol ",") rfl rfl fun _ => rfl
      have hclosing : Spells anyChar " \x7d" [.symbol "\x7d"] :=
        spells_closed [.space ' '] (.symbol "\x7d") rfl rfl fun _ => rfl
      have hfields := Spells.join_map fun g hg =>
        (spells_blank.append_anyChar (hfield g hg)).append hcomma rfl
      have := (hopening.append_anyChar hfields).append_anyChar hclosing
      simpa [List.flatMap_def, Function.comp_def] using this
    | lines indent =>
      have hbreak : Spells anyChar "\x7b\n" [.symbol "\x7b"] :=
        spells_closed [.symbol "\x7b"] (.space '\n') rfl rfl fun _ => rfl
      have hclosing : Spells anyChar "\n\x7d" [.symbol "\x7d"] :=
        spells_closed [.space '\n'] (.symbol "\x7d") rfl rfl fun _ => rfl
      have hfields := Spells.intercalate spells_commaBreak rfl fun g hg =>
        (spells_blanks indent).append_anyChar (hfield g hg)
      have := (hbreak.append_anyChar hfields).append hclosing rfl
      simpa [Function.comp_def] using this

theorem spells_applied {f : String} {ts : List Token} {xs : List Expr}
    (h : Spells outsideName f ts) (hxs : ∀ x ∈ xs, Spells outsideNumeral x.text x.tokens)
    : Spells outsideName (f ++ "(" ++ ", ".intercalate (Expr.texts xs) ++ ")")
      (ts ++ .symbol "(" :: [.symbol ","].intercalate (Expr.tokenLists xs) ++ [.symbol ")"]) := by
  have hopen := h.append spells_opening rfl
  have hlist : Spells outsideNumeral (", ".intercalate (Expr.texts xs))
      ([.symbol ","].intercalate (Expr.tokenLists xs)) := by
    rw [Expr.texts_eq, Expr.tokenLists_eq]
    exact Spells.intercalate spells_comma rfl hxs
  have := (hopen.append_anyChar hlist).append spells_closing rfl
  simpa using this.weaken

theorem spells_indexed {table key : String} {ts us : List Token} (h : Spells outsideName table ts)
    (hkey : Spells outsideNumeral key us) (hplain : opensPlainly key)
    : Spells anyChar (table ++ "[" ++ key ++ "]") (ts ++ .symbol "[" :: us ++ [.symbol "]"]) := by
  have hopening : Spells (fun c => !clashes "[" c) "[" [.symbol "["] := spells_symbol (by decide)
  have hclosing : Spells anyChar "]" [.symbol "]"] :=
    spells_closed [] (.symbol "]") rfl rfl fun _ => rfl
  have := ((h.append hopening rfl).append hkey hplain).append hclosing rfl
  simpa using this

theorem Expr.Fits.spells {e : Expr} (h : e.Fits) : Spells e.next e.text e.tokens := by
  induction h with
  | nil => exact (spells_open [] "nil" rfl rfl).toNext
  | @boolean value =>
    cases value with
    | true => exact (spells_open [] "true" rfl rfl).toNext
    | false => exact (spells_open [] "false" rfl rfl).toNext
  | numeral h => exact spells_signed h
  | string => exact (spells_quote _).weaken
  | name h => exact (spells_name h).toNext
  | field happlied _ ih =>
    rw [next_eq happlied] at ih
    exact (spells_fieldText ih).toNext
  | index happlied _ hkey ih ihkey =>
    rw [next_eq happlied] at ih
    have := spells_indexed ih ihkey.ofNext hkey.opensPlainly
    exact this.weaken
  | call happlied _ _ ih ihs =>
    rw [next_eq happlied] at ih
    exact (spells_applied ih fun x hx => (ihs x hx).ofNext).toNext
  | @callString f value happlied _ ih =>
    rw [next_eq happlied] at ih
    have := (ih.append_nothing spells_blank rfl).append_anyChar (spells_quote value)
    exact this.weaken
  | @invoke object method xs happlied _ hmethod _ ih ihs =>
    rw [next_eq happlied] at ih
    have hcolon : Spells (fun c => !clashes ":" c) ":" [.symbol ":"] := spells_symbol (by decide)
    have hname := (ih.append hcolon rfl).append (spells_name hmethod) (head_name hmethod _)
    have := spells_applied hname fun x hx => (ihs x hx).ofNext
    simpa [text, tokens] using this.toNext
  | @binary op left right hop _ _ _ _ ihl ihr =>
    have := (ihl.ofNext.append (spells_operator hop) (by simp; rfl)).append_anyChar ihr.ofNext
    rw [next, if_neg (by simp [isPrefix]), text, tokens]
    simpa [String.append_assoc] using this
  | negation _ _ ih =>
    have hnot : Spells anyChar "not " [.keyword "not"] :=
      spells_closed [.word "not"] (.space ' ') rfl rfl fun _ => rfl
    exact hnot.append_anyChar ih.ofNext
  | concat _ _ _ ih =>
    have hpoints : Spells anyChar " .. " [.symbol ".."] :=
      spells_closed [.space ' ', .symbol ".."] (.space ' ') rfl rfl fun _ => rfl
    have := Spells.intercalate hpoints rfl fun p hp => (ih p hp).ofNext
    rw [text, tokens, texts_eq, tokenLists_eq]
    exact this
  | group _ ih =>
    have := (spells_opening.append_anyChar ih.ofNext).append spells_closing rfl
    exact this.weaken
  | tableOf hkeys _ ih => exact (spells_tableText hkeys fun f hf => (ih f hf).ofNext).weaken
  | lambda hnames _ ih =>
    have hfunction : Spells outsideName "function" [.keyword "function"] :=
      spells_open [] "function" rfl rfl
    have hreturn : Spells anyChar " return " [.keyword "return"] :=
      spells_closed [.space ' ', .word "return"] (.space ' ') rfl rfl fun _ => rfl
    have hend : Spells outsideName " end" [.keyword "end"] :=
      spells_open [.space ' '] "end" rfl rfl
    have hhead := (hfunction.append (spells_parameters hnames) (by simp; rfl)).append_anyChar hreturn
    have := (hhead.append_anyChar ih.ofNext).append hend rfl
    -- The word and the bracket behind it are one piece of the text, but are spelled apart.
    have hwords : "function(" = "function" ++ "(" := rfl
    have hwords' : ") return " = ")" ++ " return " := rfl
    rw [text, hwords, hwords']
    simpa [-String.reduceAppend, tokens, String.append_assoc] using this.toNext

namespace Action

inductive Fits : Action → Prop where
  | assign {target value : Expr} (hplace : target.isPlace) (ht : target.Fits) (hv : value.Fits)
    : Fits (.assign target value)
  | call {e : Expr} (hcall : e.isCall) (h : e.Fits) : Fits (.call e)
  | declare {n : String} {value : Expr} (hn : isName n) (hv : value.Fits) : Fits (.declare n value)
  | declareConst {n : String} {value : Expr} (hn : isName n) (hv : value.Fits)
    : Fits (.declareConst n value)
  | leave : Fits .leave
  | giveBack {value : Expr} (hv : value.Fits) : Fits (.giveBack value)

def tokens : Action → List Token
  | .assign target value => target.tokens ++ .symbol "=" :: value.tokens
  | .call e => e.tokens
  | .declare n value => .keyword "local" :: .name n :: .symbol "=" :: value.tokens
  | .declareConst n value =>
    .keyword "local" :: .name n :: .symbol "<" :: .name "const" :: .symbol ">" :: .symbol "=" ::
      value.tokens
  | .leave => [.keyword "do", .keyword "return", .keyword "end"]
  | .giveBack value => .keyword "return" :: value.tokens

theorem Fits.spells {a : Action} (h : a.Fits) : Spells outsideNumeral a.text a.tokens := by
  have hlocal : Spells anyChar "local " [.keyword "local"] :=
    spells_closed [.word "local"] (.space ' ') rfl rfl fun _ => rfl
  cases h with
  | assign _ ht hv =>
    have := (ht.spells.ofNext.append spells_equals rfl).append_anyChar hv.spells.ofNext
    simpa [text, tokens] using this
  | call _ h => exact h.spells.ofNext
  | declare hn hv =>
    have hname := hlocal.append_anyChar (spells_name hn)
    exact (hname.append spells_equals rfl).append_anyChar hv.spells.ofNext
  | declareConst hn hv =>
    have hconst : Spells anyChar " <const> = "
        [.symbol "<", .name "const", .symbol ">", .symbol "="] :=
      spells_closed [.space ' ', .symbol "<", .word "const", .symbol ">", .space ' ', .symbol "="]
        (.space ' ') rfl rfl fun _ => rfl
    have hname := hlocal.append_anyChar (spells_name hn)
    exact (hname.append hconst rfl).append_anyChar hv.spells.ofNext
  | leave =>
    exact (spells_open [.word "do", .space ' ', .word "return", .space ' '] "end" rfl rfl).ofName
  | giveBack hv =>
    have hreturn : Spells anyChar "return " [.keyword "return"] :=
      spells_closed [.word "return"] (.space ' ') rfl rfl fun _ => rfl
    exact hreturn.append_anyChar hv.spells.ofNext

end Action

namespace Stat

def isLast : Stat → Bool
  | .action (.giveBack _) => true
  | _ => false

def isPath : Expr → Bool
  | .name _ => true
  | .field table key => isPath table && isName key
  | _ => false

inductive Fits : Stat → Prop where
  | action {a : Action} (h : a.Fits) : Fits (.action a)
  | branch {condition : Expr} {body : List Stat} (hcondition : condition.Fits)
      (hbody : ∀ s ∈ body, Fits s) (hlast : ∀ s ∈ body.dropLast, !s.isLast)
    : Fits (.branch condition body)
  | branchElse {condition : Expr} {body other : List Stat} (hcondition : condition.Fits)
      (hbody : ∀ s ∈ body, Fits s) (hlast : ∀ s ∈ body.dropLast, !s.isLast)
      (hother : ∀ s ∈ other, Fits s) (hlast' : ∀ s ∈ other.dropLast, !s.isLast)
    : Fits (.branchElse condition body other)
  | branchAction {condition : Expr} {a : Action} {words : String} (hcondition : condition.Fits)
      (ha : a.Fits) (hline : words.toList.all (!isLineEnd ·))
    : Fits (.branchAction condition a words)
  | choose {first : Expr × Action} {others : List (Expr × Action)} {other : Action}
      (hfirst : first.1.Fits ∧ first.2.Fits) (hothers : ∀ a ∈ others, a.1.Fits ∧ a.2.Fits)
      (hother : other.Fits)
    : Fits (.choose first others other)
  | loop {condition : Expr} {body : List Stat} (hcondition : condition.Fits)
      (hbody : ∀ s ∈ body, Fits s) (hlast : ∀ s ∈ body.dropLast, !s.isLast)
    : Fits (.loop condition body)
  | forPairs {key value : String} {table : Expr} {body : List Stat} (hkey : isName key)
      (hvalue : isName value) (htable : table.Fits) (hbody : ∀ s ∈ body, Fits s)
      (hlast : ∀ s ∈ body.dropLast, !s.isLast)
    : Fits (.forPairs key value table body)
  | forCount {counter : String} {last : Expr} {body : List Stat} (hcounter : isName counter)
      (hend : last.Fits) (hbody : ∀ s ∈ body, Fits s) (hlast : ∀ s ∈ body.dropLast, !s.isLast)
    : Fits (.forCount counter last body)
  | assignFunction {target : Expr} {parameters : List String} {body : List Stat}
      (hplace : target.isPlace) (htarget : target.Fits) (hnames : ∀ n ∈ parameters, isName n)
      (hbody : ∀ s ∈ body, Fits s) (hlast : ∀ s ∈ body.dropLast, !s.isLast)
    : Fits (.assignFunction target parameters body)
  | define {target : Expr} {parameters : List String} {body : List Stat} (hpath : isPath target)
      (htarget : target.Fits) (hnames : ∀ n ∈ parameters, isName n) (hbody : ∀ s ∈ body, Fits s)
      (hlast : ∀ s ∈ body.dropLast, !s.isLast)
    : Fits (.define target parameters body)
  | comment {words : String} (hline : words.toList.all (!isLineEnd ·)) : Fits (.comment words)

def armTokens (word : String) (a : Expr × Action) : List Token :=
  .keyword word :: a.1.tokens ++ .keyword "then" :: a.2.tokens

mutual

def tokens : Stat → List Token
  | .action a => a.tokens
  | .branch condition body =>
    .keyword "if" :: condition.tokens ++ .keyword "then" :: tokensAll body ++ [.keyword "end"]
  | .branchElse condition body other =>
    .keyword "if" :: condition.tokens ++ .keyword "then" :: tokensAll body ++
      .keyword "else" :: tokensAll other ++ [.keyword "end"]
  | .branchAction condition a _ => armTokens "if" (condition, a) ++ [.keyword "end"]
  | .choose first others other =>
    armTokens "if" first ++ others.flatMap (armTokens "elseif") ++
      .keyword "else" :: other.tokens ++ [.keyword "end"]
  | .loop condition body =>
    .keyword "while" :: condition.tokens ++ .keyword "do" :: tokensAll body ++ [.keyword "end"]
  | .forPairs key value table body =>
    .keyword "for" :: .name key :: .symbol "," :: .name value :: .keyword "in" :: .name "pairs" ::
      .symbol "(" :: table.tokens ++ .symbol ")" :: .keyword "do" :: tokensAll body ++
      [.keyword "end"]
  | .forCount counter last body =>
    .keyword "for" :: .name counter :: .symbol "=" :: .numeral "1" :: .symbol "," ::
      last.tokens ++ .keyword "do" :: tokensAll body ++ [.keyword "end"]
  | .assignFunction target parameters body =>
    target.tokens ++ .symbol "=" :: .keyword "function" :: Expr.parameterTokens parameters ++
      tokensAll body ++ [.keyword "end"]
  | .define target parameters body =>
    .keyword "function" :: target.tokens ++ Expr.parameterTokens parameters ++
      tokensAll body ++ [.keyword "end"]
  | .comment _ => []

def tokensAll : List Stat → List Token
  | [] => []
  | s :: ss => s.tokens ++ tokensAll ss

end

theorem texts_eq (depth : Nat) (ss : List Stat) : texts depth ss = ss.map (text depth) := by
  induction ss with
  | nil => rfl
  | cons s ss ih => rw [texts, ih, List.map_cons]

theorem tokensAll_eq (ss : List Stat) : tokensAll ss = (ss.map tokens).flatten := by
  induction ss with
  | nil => rfl
  | cons s ss ih => rw [tokensAll, ih, List.map_cons, List.flatten_cons]

end Stat

theorem spells_line {ok : Char → Bool} {code : String} {ts : List Token} (h : Spells ok code ts)
    (hok : ok '\n') (depth : Nat) : Spells anyChar (Stat.line depth code) ts :=
  ((spells_blanks _).append_anyChar h).append_nothing spells_break (by simpa using hok)

theorem spells_body {depth : Nat} {body : List Stat}
    (h : ∀ s ∈ body, Spells anyChar (s.text depth) s.tokens)
    : Spells anyChar (String.join (Stat.texts depth body)) (Stat.tokensAll body) := by
  rw [Stat.texts_eq, Stat.tokensAll_eq, ← List.flatMap_def]
  exact Spells.join_map h

theorem spells_arm {w : String} (hword : isWord w.toList) (hkeyword : keywords.contains w)
    {a : Expr × Action} (h : a.1.Fits ∧ a.2.Fits)
    : Spells outsideNumeral (Stat.arm w a) (Stat.armTokens w a) := by
  have hstart : Spells outsideName w [.keyword w] := by
    have := spells_word hword
    rwa [wordToken, if_pos hkeyword] at this
  have hthen : Spells anyChar " then " [.keyword "then"] :=
    spells_closed [.space ' ', .word "then"] (.space ' ') rfl rfl fun _ => rfl
  have hcondition := (hstart.append_nothing spells_blank rfl).append_anyChar h.1.spells.ofNext
  have := (hcondition.append hthen rfl).append_anyChar h.2.spells
  simpa [Stat.arm, Stat.armTokens] using this

theorem spells_block {head : String} {ts : List Token} {depth : Nat} {body : List Stat}
    (hhead : Spells outsideName head ts)
    (hbody : ∀ s ∈ body, Spells anyChar (s.text (depth + 1)) s.tokens)
    : Spells anyChar (Stat.line depth head ++ String.join (Stat.texts (depth + 1) body))
      (ts ++ Stat.tokensAll body) :=
  (spells_line hhead rfl depth).append_anyChar (spells_body hbody)

theorem spells_closedBlock {head : String} {ts : List Token} {depth : Nat} {body : List Stat}
    (hhead : Spells outsideName head ts)
    (hbody : ∀ s ∈ body, Spells anyChar (s.text (depth + 1)) s.tokens)
    : Spells anyChar
      (Stat.line depth head ++ String.join (Stat.texts (depth + 1) body) ++ Stat.line depth "end")
      (ts ++ Stat.tokensAll body ++ [.keyword "end"]) := by
  have hend : Spells outsideName "end" [.keyword "end"] := spells_open [] "end" rfl rfl
  exact (spells_block hhead hbody).append_anyChar (spells_line hend rfl depth)

theorem Stat.Fits.spells {s : Stat} (h : s.Fits) (depth : Nat)
    : Spells anyChar (s.text depth) s.tokens := by
  have hif : Spells anyChar "if " [.keyword "if"] :=
    spells_closed [.word "if"] (.space ' ') rfl rfl fun _ => rfl
  have hthen : Spells outsideName " then" [.keyword "then"] :=
    spells_open [.space ' '] "then" rfl rfl
  have hdo : Spells outsideName " do" [.keyword "do"] := spells_open [.space ' '] "do" rfl rfl
  have hfor : Spells anyChar "for " [.keyword "for"] :=
    spells_closed [.word "for"] (.space ' ') rfl rfl fun _ => rfl
  have hend : Spells outsideName " end" [.keyword "end"] := spells_open [.space ' '] "end" rfl rfl
  induction h generalizing depth with
  | action h => exact spells_line h.spells rfl depth
  | branch hcondition _ _ ih =>
    have hhead := (hif.append_anyChar hcondition.spells.ofNext).append hthen rfl
    have := spells_closedBlock hhead fun s hs => ih s hs (depth + 1)
    simpa [text, tokens] using this
  | branchElse hcondition _ _ _ _ ih ih' =>
    have helse : Spells outsideName "else" [.keyword "else"] := spells_open [] "else" rfl rfl
    have hhead := (hif.append_anyChar hcondition.spells.ofNext).append hthen rfl
    have hfirst := spells_block hhead fun s hs => ih s hs (depth + 1)
    have hother := spells_closedBlock helse fun s hs => ih' s hs (depth + 1)
    have := hfirst.append_anyChar hother
    simpa [text, tokens, String.append_assoc] using this
  | @branchAction condition a words hcondition ha hline =>
    have harm := spells_arm (w := "if") rfl rfl (a := (condition, a)) ⟨hcondition, ha⟩
    have hcomment : Spells isLineEnd ("--" ++ (" " ++ words)) [] :=
      spells_comment (by simpa [isLineEnd] using hline) (by simp)
    have hend : Spells anyChar " end " [.keyword "end"] :=
      spells_closed [.space ' ', .word "end"] (.space ' ') rfl rfl fun _ => rfl
    have := (harm.append hend rfl).append_anyChar hcomment
    have hwords : " end -- " = " end " ++ ("--" ++ " ") := rfl
    rw [text, hwords]
    simpa [-String.reduceAppend, tokens, String.append_assoc] using spells_line this rfl depth
  | @choose first others other hfirst hothers hother =>
    have harm := spells_arm (w := "if") rfl rfl hfirst
    have harms := Spells.join_map fun a ha =>
      spells_line (spells_arm (w := "elseif") rfl rfl (hothers a ha)) rfl depth
    have helse : Spells anyChar "else " [.keyword "else"] :=
      spells_closed [.word "else"] (.space ' ') rfl rfl fun _ => rfl
    have hlast := (helse.append_anyChar hother.spells).append hend rfl
    have := ((spells_line harm rfl depth).append_anyChar harms).append_anyChar
      (spells_line hlast rfl depth)
    simpa [text, tokens] using this
  | loop hcondition _ _ ih =>
    have hwhile : Spells anyChar "while " [.keyword "while"] :=
      spells_closed [.word "while"] (.space ' ') rfl rfl fun _ => rfl
    have hhead := (hwhile.append_anyChar hcondition.spells.ofNext).append hdo rfl
    have := spells_closedBlock hhead fun s hs => ih s hs (depth + 1)
    simpa [text, tokens] using this
  | forPairs hkey hvalue htable _ _ ih =>
    have hpairs : Spells anyChar " in pairs(" [.keyword "in", .name "pairs", .symbol "("] :=
      spells_closed [.space ' ', .word "in", .space ' ', .word "pairs"] (.symbol "(") rfl rfl
        fun _ => rfl
    have hclosing : Spells outsideName ") do" [.symbol ")", .keyword "do"] :=
      spells_open [.symbol ")", .space ' '] "do" rfl rfl
    have hnames := ((hfor.append_anyChar (spells_name hkey)).append spells_comma rfl).append_anyChar
      (spells_name hvalue)
    have hhead := ((hnames.append hpairs rfl).append_anyChar htable.spells.ofNext).append hclosing
      rfl
    have := spells_closedBlock hhead fun s hs => ih s hs (depth + 1)
    simpa [text, tokens] using this
  | forCount hcounter hlast _ _ ih =>
    have hone : Spells outsideNumeral "1" [.numeral "1"] := spells_numeral (isDecimal_nat 1)
    have hfrom := (spells_equals.append_anyChar hone).append spells_comma rfl
    have hname := (hfor.append_anyChar (spells_name hcounter)).append hfrom rfl
    have hhead := (hname.append_anyChar hlast.spells.ofNext).append hdo rfl
    have := spells_closedBlock hhead fun s hs => ih s hs (depth + 1)
    have hwords : " = 1, " = " = " ++ "1" ++ ", " := rfl
    rw [text, hwords]
    simpa [-String.reduceAppend, tokens, String.append_assoc] using this
  | assignFunction _ htarget hnames _ _ ih =>
    have hfunction : Spells outsideName " = function" [.symbol "=", .keyword "function"] :=
      spells_open [.space ' ', .symbol "=", .space ' '] "function" rfl rfl
    have hhead := (htarget.spells.ofNext.append hfunction rfl).append (spells_parameters hnames)
      (by simp; rfl)
    have := spells_closedBlock hhead.weaken fun s hs => ih s hs (depth + 1)
    have hwords : " = function(" = " = function" ++ "(" := rfl
    rw [text, hwords]
    simpa [-String.reduceAppend, tokens, String.append_assoc] using this
  | define _ htarget hnames _ _ ih =>
    have hfunction : Spells anyChar "function " [.keyword "function"] :=
      spells_closed [.word "function"] (.space ' ') rfl rfl fun _ => rfl
    have hhead := (hfunction.append_anyChar htarget.spells.ofNext).append
      (spells_parameters hnames) (by simp; rfl)
    have := spells_closedBlock hhead.weaken fun s hs => ih s hs (depth + 1)
    simpa [text, tokens, String.append_assoc] using this
  | @comment words hline =>
    have hcomment : Spells isLineEnd ("--" ++ (" " ++ words)) [] :=
      spells_comment (by simpa [isLineEnd] using hline) (by simp)
    have hwords : "-- " = "--" ++ " " := rfl
    rw [text, hwords]
    simpa [-String.reduceAppend, tokens, String.append_assoc] using spells_line hcomment rfl depth

theorem chunkText_append (body other : List Stat)
    : chunkText (body ++ other) = chunkText body ++ chunkText other := by
  simp [chunkText, Stat.texts_eq]

theorem spells_chunk {body : List Stat} (h : ∀ s ∈ body, s.Fits)
    : Spells anyChar (chunkText body) (Stat.tokensAll body) :=
  spells_body fun s hs => (h s hs).spells 0

end PulpGame.Lua
