import PulpGame.Proofs.Mimic.Section
import PulpGame.Proofs.Script.Code

namespace PulpGame.Program

open Lua (Token Stat)

def keywords : List String :=
  ["and", "do", "else", "elseif", "end", "false", "for", "function", "if", "in", "local", "nil",
    "not", "or", "return", "then", "true", "while"]

def symbols : List String :=
  ["..", "==", "~=", "<=", ">=", "+", "-", "*", "/", "<", ">", "=", "(", ")", "\x7b", "\x7d",
    "[", "]", ":", ",", "."]

def entityKeys : List String :=
  ["id", "fps", "name", "type", "btype", "solid", "says", "frames", "song", "tiles", "exits", "x",
    "y", "tx", "ty", "edge", "fin", "room", "bpm", "notes", "ticks", "decay", "attack", "release",
    "volume", "sustain"]

def names : List String :=
  ["___pulp", "__pulp", "__self", "_", "const"] ++
  -- what is kept in the runtime when it starts
  ["playerid", "startroom", "startx", "starty", "gamename", "halfwidth", "pipe_img", "font_img",
    "tile_img"] ++
  -- the aliases
  ["__sin", "__cos", "__tan", "__floor", "__ceil", "__round", "__random", "__tau", "__tostring",
    "__roomtiles", "__print", "__fillrect", "__setcolour", "__fillcolours", "__pix8scale"] ++
  -- what they stand for
  ["sin", "cos", "tan", "floor", "ceil", "random", "pi", "roomtiles", "graphics", "fillRect",
    "setColor", "black", "white", "kColorBlack", "kColorWhite", "imagetable", "new", "pix8scale"] ++
  -- the tables of the runtime and its functions
  ["rooms", "sounds", "songs", "shadowed", "newScript", "getScript", "associateScript", "say",
    "call", "emit", "sound", "gotoroom", "setvariable", "getvariable", "resetvars", "load", "start"] ++
  -- the loops over handlers and the search for reserved names
  ["fn", "any", "find"] ++ entityKeys ++ Variable.shadowed

def Allowed (taken : String → Prop) : Token → Prop
  | .string _ | .numeral _ => True
  | .keyword w => w ∈ keywords
  | .symbol s => s ∈ symbols
  | .name n => n ∈ names ∨ taken n

def isFixed : Token → Bool
  | .string _ | .numeral _ => true
  | .keyword w => keywords.contains w
  | .symbol s => symbols.contains s
  | .name n => names.contains n

def Plain (taken : String → Prop) (ts : List Token) : Prop := ∀ t ∈ ts, Allowed taken t

variable {taken : String → Prop} {ts us : List Token}

theorem allowed_of_isFixed {t : Token} (h : isFixed t) : Allowed taken t := by
  cases t with
  | string | numeral => trivial
  | keyword | symbol => simpa [isFixed, Allowed] using h
  | name => exact .inl (by simpa [isFixed] using h)

theorem plain_of_all (h : ts.all isFixed) : Plain taken ts := by
  intro t ht
  exact allowed_of_isFixed (List.all_eq_true.mp h t ht)

@[simp] theorem allowed_string (value : String) : Allowed taken (.string value) := trivial

@[simp] theorem allowed_numeral (text : String) : Allowed taken (.numeral text) := trivial

theorem allowed_name {n : String} : Allowed taken (.name n) ↔ n ∈ names ∨ taken n := .rfl

@[simp] theorem plain_nil : Plain taken [] := by
  simp [Plain]

@[simp] theorem plain_cons {t : Token} : Plain taken (t :: ts) ↔ Allowed taken t ∧ Plain taken ts :=
  List.forall_mem_cons

@[simp] theorem plain_append : Plain taken (ts ++ us) ↔ Plain taken ts ∧ Plain taken us :=
  List.forall_mem_append

theorem plain_flatten {tss : List (List Token)}
    : Plain taken tss.flatten ↔ ∀ ts ∈ tss, Plain taken ts := by
  simp only [Plain, List.mem_flatten]
  grind

theorem plain_flatMap {α : Type} {as : List α} {f : α → List Token}
    : Plain taken (as.flatMap f) ↔ ∀ a ∈ as, Plain taken (f a) := by
  rw [List.flatMap_def, plain_flatten, List.forall_mem_map]

theorem plain_intercalate {sep : Token} (hsep : Allowed taken sep) {tss : List (List Token)}
    (h : ∀ ts ∈ tss, Plain taken ts) : Plain taken ([sep].intercalate tss) := by
  induction tss with
  | nil => simp
  | cons ts tss ih =>
    rw [List.forall_mem_cons] at h
    cases tss with
    | nil => simpa using h.1
    | cons us tss =>
      rw [List.intercalate_cons_cons, plain_append, plain_append]
      exact ⟨⟨h.1, by simpa using hsep⟩, ih h.2⟩

theorem plain_signed (text : String) : Plain taken (Lua.signedTokens text) := by
  have hminus : Allowed taken (.symbol "-") := allowed_of_isFixed rfl
  unfold Lua.signedTokens
  split <;> simp [hminus]

theorem plain_key {key : String} (h : Lua.isName key → Allowed taken (.name key))
    : Plain taken (Lua.Expr.keyTokens key) := by
  have hfixed : Plain taken [.symbol ".", .symbol "[", .symbol "]"] := plain_of_all (by decide)
  simp only [plain_cons] at hfixed
  unfold Lua.Expr.keyTokens
  split
  . next hname => simp [hfixed, h hname]
  . simp [hfixed]

theorem plain_place {v : String} (h : Variable.isBare v → taken v)
    : Plain taken (Variable.place v).tokens := by
  have hfixed : Plain taken [.name "_G", .symbol "[", .symbol "]"] := plain_of_all (by decide)
  simp only [plain_cons] at hfixed
  unfold Variable.place
  split
  . next hbare => simp [Lua.Expr.tokens, allowed_name, h hbare]
  . simp [Lua.Expr.tokens, hfixed]

theorem plain_runtimeField {n : String} (h : n ∈ names) : Plain taken (runtimeField n).tokens := by
  have hruntime : Plain taken runtime.tokens := plain_of_all (by decide)
  simp [runtimeField, Lua.Expr.tokens, hruntime, plain_key fun _ => .inl h]

theorem plain_tokenLists {xs : List Lua.Expr} (h : ∀ x ∈ xs, Plain taken x.tokens)
    : Plain taken ([.symbol ","].intercalate (Lua.Expr.tokenLists xs)) := by
  apply plain_intercalate (allowed_of_isFixed rfl)
  rw [Lua.Expr.tokenLists_eq, List.forall_mem_map]
  exact h

theorem plain_call {n : String} {xs : List Lua.Expr} (hname : n ∈ names)
    (h : ∀ x ∈ xs, Plain taken x.tokens) : Plain taken (Lua.Expr.call (.name n) xs).tokens := by
  have hfixed : Plain taken [.symbol "(", .symbol ")"] := plain_of_all (by decide)
  simp only [plain_cons] at hfixed
  simp [Lua.Expr.tokens, hfixed, plain_tokenLists h, allowed_name, hname]

theorem plain_invoke {method : String} {xs : List Lua.Expr} (hmethod : method ∈ names)
    (h : ∀ x ∈ xs, Plain taken x.tokens) : Plain taken (runtime.invoke method xs).tokens := by
  have hfixed : Plain taken [.name "__pulp", .symbol ":", .symbol "(", .symbol ")"] :=
    plain_of_all (by decide)
  simp only [plain_cons] at hfixed
  simp [runtime, Lua.Expr.tokens, hfixed, plain_tokenLists h, allowed_name, hmethod]

theorem plain_script (n : String) : Plain taken (script n).tokens :=
  plain_invoke (by decide) (by simp [Lua.Expr.tokens])

theorem plain_runtimeCall {method : String} {xs : List Lua.Expr} (hmethod : method ∈ names)
    (h : ∀ x ∈ xs, Plain taken x.tokens) : Plain taken (runtimeCall method xs).tokens :=
  plain_invoke hmethod h

theorem plain_assign {target value : Lua.Expr} (htarget : Plain taken target.tokens)
    (hvalue : Plain taken value.tokens)
    : Plain taken (Stat.action (.assign target value)).tokens := by
  have hequals : Allowed taken (.symbol "=") := allowed_of_isFixed rfl
  simp [Stat.tokens, Lua.Action.tokens, htarget, hvalue, hequals]

theorem plain_tokensAll {body : List Stat}
    : Plain taken (Stat.tokensAll body) ↔ ∀ st ∈ body, Plain taken st.tokens := by
  rw [Stat.tokensAll_eq, plain_flatten, List.forall_mem_map]

end PulpGame.Program
