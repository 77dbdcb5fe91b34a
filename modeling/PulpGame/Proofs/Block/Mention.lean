import PulpGame.Proofs.Block.Meaning

namespace PulpGame.Block

open Json (Value)

def arity (word : String) (given : Nat) : Nat :=
  if word = "fmt" then given
  else if word = "random" || (Operator.ofWord? word).isSome then 2
  else if (Function.ofWord? word).isSome then 1
  else 0

def ownNames (kind word : String) : List Value → List String
  | .text s :: _ => if word = kind then [s] else []
  | _ => []

mutual

/-- The names in an expression that are first operands of operations of this kind, each as often as
it is there: with `var` the variables that are mentioned, with `event` the fields of the event. -/
def exprNames (kind : String) : Value → List String
  | .list (.text word :: operands) =>
    ownNames kind word operands ++
      ((operandNames kind operands).take (arity word operands.length)).flatten
  | _ => []

def operandNames (kind : String) : List Value → List (List String)
  | [] => []
  | v :: vs => exprNames kind v :: operandNames kind vs

end

def exprOperands (word : String) (operands : List Value) : List Value :=
  if ["if", "while", "log", "say", "sound"].contains word then operands.take 1
  else if ["set", "add", "sub", "mul", "div"].contains word then (operands.drop 1).take 1
  else if word = "goto" then operands.take 3
  else []

def targetVariables (word : String) : List Value → List String
  | .text v :: _ =>
    if ["set", "inc", "dec", "add", "sub", "mul", "div"].contains word then [v] else []
  | _ => []

def statementVariables : Value → List String
  | .list (.text word :: operands) =>
    (exprOperands word operands).flatMap (exprNames "var") ++ targetVariables word operands
  | _ => []

def statementFields : Value → List String
  | .list (.text word :: operands) => (exprOperands word operands).flatMap (exprNames "event")
  | _ => []

def references : Value → List Nat
  | .list (.text word :: operands) =>
    if word = "if" then ((operands.drop 1).take 2).filterMap ref?
    else if word = "while" then ((operands.drop 1).take 1).filterMap ref?
    else []
  | _ => []

def Refers (blocks : List Value) (i j : Nat) : Prop :=
  ∃ items s, blocks[i]? = some (.list items) ∧ s ∈ items ∧ j ∈ references s

def Mentions (names : Value → List String) (blocks : List Value) (root : Nat) (n : String) : Prop :=
  ∃ i items s, Relation.ReflTransGen (Refers blocks) root i ∧ blocks[i]? = some (.list items) ∧
    s ∈ items ∧ n ∈ names s

def uses (notes : List Note) : List String := notes.filterMap Note.used?

@[simp] theorem uses_nil : uses [] = [] := rfl

@[simp] theorem uses_append (ns ms : List Note) : uses (ns ++ ms) = uses ns ++ uses ms :=
  List.filterMap_append

@[simp] theorem uses_use (v : String) : uses [.use v] = [v] := rfl

@[simp] theorem uses_diagnostic (text : String) : uses [.diagnostic text] = [] := rfl

@[simp] theorem uses_mimic (r : Mimic.Request) : uses [.mimic r] = [] := rfl

@[simp] theorem uses_unsupported (site : Site) (what word : String)
    : uses [site.unsupported what word] = [] := rfl

theorem uses_flatMap {α : Type} (as : List α) (f : α → List Note)
    : uses (as.flatMap f) = as.flatMap fun a => uses (f a) := by
  induction as with
  | nil => rfl
  | cons a as ih => simp [ih]

theorem operandNames_eq (kind : String) (vs : List Value)
    : operandNames kind vs = vs.map (exprNames kind) := by
  induction vs with
  | nil => rfl
  | cons v vs ih => rw [operandNames, ih, List.map_cons]

theorem ownNames_of_ne {kind word : String} (h : word ≠ kind) (operands : List Value)
    : ownNames kind word operands = [] := by
  unfold ownNames
  split
  . rw [if_neg h]
  . rfl

theorem arity_operator {word : String} (h : (Operator.ofWord? word).isSome) (given : Nat)
    : arity word given = 2 ∧ word ≠ "var" := by
  have hfmt : word ≠ "fmt" := by
    rintro rfl
    cases h
  constructor
  . rw [arity, if_neg hfmt, if_pos (by simp [h])]
  . rintro rfl
    cases h

theorem arity_function {word : String} (h : (Function.ofWord? word).isSome) (given : Nat)
    : arity word given = 1 ∧ word ≠ "var" := by
  unfold Function.ofWord? at h
  split at h
  all_goals first | exact ⟨rfl, by decide⟩ | cases h

theorem arity_unsupported {word : String} (h : isExprWord word = false) (given : Nat)
    : arity word given = 0 ∧ word ≠ "var" := by
  simp only [isExprWord, Bool.or_eq_false_iff, List.contains_eq_mem, decide_eq_false_iff_not,
    List.mem_cons, List.not_mem_nil, or_false, not_or] at h
  obtain ⟨⟨⟨hvar, -, -, hfmt, hrandom⟩, hop⟩, hf⟩ := h
  exact ⟨by simp [arity, hfmt, hrandom, hop, hf], hvar⟩

theorem ExprMeans.uses_eq {site : Site} {v : Value} {t : Lua.Term} {notes : List Note}
    (h : ExprMeans site v t notes) : uses notes = exprNames "var" v := by
  induction h with
  | number | text | boolean | null => rfl
  | var => simp [exprNames, ownNames, arity, Operator.ofWord?, Function.ofWord?]
  | tile h => simp [exprNames, ownNames, arity, Operator.ofWord?, Function.ofWord?]
  | unknownTile h => simp [exprNames, ownNames, arity, Operator.ofWord?, Function.ofWord?]
  | event => simp [exprNames, ownNames, arity, Operator.ofWord?, Function.ofWord?]
  | formatNothing => rfl
  | @format parts hne h ih =>
    have hparts : parts.map (fun p => uses p.notes) = parts.map fun p => exprNames "var" p.value :=
      List.map_congr_left ih
    rw [uses_flatMap, exprNames, ownNames_of_ne (by decide), operandNames_eq,
      List.map_map, List.flatMap_def, hparts]
    simp [arity, Function.comp_def, List.take_of_length_le]
  | binary hword hx hy ihx ihy =>
    obtain ⟨harity, hne⟩ := arity_operator hword _
    rw [exprNames, ownNames_of_ne hne, harity]
    simp [operandNames, ihx, ihy]
  | apply hword hx ih =>
    obtain ⟨harity, hne⟩ := arity_function hword _
    rw [exprNames, ownNames_of_ne hne, harity]
    simp [operandNames, ih]
  | random hx hy ihx ihy =>
    rw [exprNames, ownNames_of_ne (by decide)]
    simp [arity, operandNames, ihx, ihy]
  | unsupported hword =>
    obtain ⟨harity, hne⟩ := arity_unsupported hword _
    rw [exprNames, ownNames_of_ne hne, harity]
    simp

theorem ref?_blockRef (n : Nat) : ref? (blockRef n) = some n := rfl

theorem updateOf?_cases {word op : String} (h : updateOf? word = some op)
    : word = "add" ∨ word = "sub" ∨ word = "mul" ∨ word = "div" := by
  unfold updateOf? at h
  split at h <;> simp_all

theorem targetVariables_eq_nil {word : String}
    (h : ["set", "inc", "dec", "add", "sub", "mul", "div"].contains word = false)
    (operands : List Value) : targetVariables word operands = [] := by
  unfold targetVariables
  split
  . rw [h, if_neg (by simp)]
  . rfl

theorem exprOperands_goto {vs rest : List Value} (h : vs.length = 3 ∨ vs.length < 3 ∧ rest = [])
    : exprOperands "goto" (vs ++ rest) = vs := by
  change (vs ++ rest).take 3 = vs
  rcases h with h | ⟨h, rfl⟩
  . rw [← h, List.take_left]
  . rw [List.append_nil, List.take_of_length_le (by omega)]

theorem StatementMeans.uses_eq {site : Site} {v : Value} {opened : List Opened}
    {code : List Lua.Statement} {notes : List Note} (h : StatementMeans site v opened code notes)
    : uses notes = statementVariables v ++ opened.flatMap fun b => uses b.notes := by
  cases h with
  | set hx => simp [statementVariables, exprOperands, targetVariables, hx.uses_eq]
  | increment => simp [statementVariables, exprOperands, targetVariables]
  | decrement => simp [statementVariables, exprOperands, targetVariables]
  | update hword hx =>
    rcases updateOf?_cases hword with rfl | rfl | rfl | rfl <;>
      simp [statementVariables, exprOperands, targetVariables, hx.uses_eq]
  | branch hx | branchElse hx | loop hx | log hx | say hx | sound hx =>
    rw [statementVariables, targetVariables_eq_nil (by decide)]
    simp [exprOperands, hx.uses_eq]
  | mimic | done | call | emit =>
    rw [statementVariables, targetVariables_eq_nil (by decide)]
    simp [exprOperands]
  | @goto parts rest hleast hmost h =>
    have hparts : parts.map (fun p => uses p.notes) = parts.map fun p => exprNames "var" p.value :=
      List.map_congr_left fun p hp => (h p hp).uses_eq
    rw [statementVariables, targetVariables_eq_nil (by decide),
      exprOperands_goto (by simpa using hmost), uses_flatMap, List.flatMap_def, hparts]
    simp [List.flatMap_def, Function.comp_def]
  | unsupported hword =>
    simp only [statementWords, List.mem_cons, List.not_mem_nil, or_false, not_or] at hword
    rw [statementVariables, targetVariables_eq_nil (by simp [hword])]
    simp [exprOperands, hword]

theorem StatementMeans.references_eq {site : Site} {v : Value} {opened : List Opened}
    {code : List Lua.Statement} {notes : List Note} (h : StatementMeans site v opened code notes)
    : references v = opened.map (·.index) := by
  cases h with
  | update hword =>
    rcases updateOf?_cases hword with rfl | rfl | rfl | rfl <;> rfl
  | unsupported hword => simp_all [references, statementWords]
  | _ => simp [references, ref?_blockRef]

theorem mentions_iff {names : Value → List String} {blocks : List Value} {i : Nat} {n : String}
    {items : List Value} (hitems : blocks[i]? = some (.list items))
    : Mentions names blocks i n ↔ (∃ s ∈ items, n ∈ names s) ∨
        ∃ s ∈ items, ∃ j ∈ references s, Mentions names blocks j n := by
  constructor
  . rintro ⟨k, items', s, hreach, hk, hs, hv⟩
    rcases Relation.ReflTransGen.cases_head hreach with rfl | ⟨j, ⟨others, r, hi, hr, hj⟩, hrest⟩
    . obtain rfl : items = items' := by simpa [hitems] using hk
      exact .inl ⟨s, hs, hv⟩
    . obtain rfl : items = others := by simpa [hitems] using hi
      exact .inr ⟨r, hr, j, hj, k, items', s, hrest, hk, hs, hv⟩
  . rintro (⟨s, hs, hv⟩ | ⟨s, hs, j, hj, k, items', r, hreach, hk, hr, hv⟩)
    . exact ⟨i, items, s, .refl, hitems, hs, hv⟩
    . exact ⟨k, items', r, .head ⟨items, s, hitems, hs, hj⟩ hreach, hk, hr, hv⟩

theorem BlockMeans.mem_view {site : Site} {view : Note → Option String} {own : Value → List String}
    (hown : ∀ v opened code notes, StatementMeans site v opened code notes →
      notes.filterMap view = own v ++ opened.flatMap fun b => b.notes.filterMap view)
    {blocks : List Value} {i : Nat} {body : List Lua.Statement} {notes : List Note}
    (h : BlockMeans site blocks i body notes) (n : String)
    : n ∈ notes.filterMap view ↔ Mentions own blocks i n := by
  induction h with
  | @intro i parts hblock hparts hopened ih =>
    rw [mentions_iff hblock, List.filterMap_flatMap, List.mem_flatMap]
    have hpart (p : Placed) (hp : p ∈ parts) : n ∈ p.notes.filterMap view ↔
        n ∈ own p.value ∨ ∃ j ∈ references p.value, Mentions own blocks j n := by
      rw [hown _ _ _ _ (hparts p hp), (hparts p hp).references_eq, List.mem_append,
        List.mem_flatMap]
      simp only [List.mem_map, exists_exists_and_eq_and]
      constructor
      . rintro (hn | ⟨b, hb, hn⟩)
        . exact .inl hn
        . exact .inr ⟨b, hb, (ih p hp b hb).mp hn⟩
      . rintro (hn | ⟨b, hb, hn⟩)
        . exact .inl hn
        . exact .inr ⟨b, hb, (ih p hp b hb).mpr hn⟩
    constructor
    . rintro ⟨p, hp, hn⟩
      rcases (hpart p hp).mp hn with hn | hn
      . exact .inl ⟨p.value, List.mem_map_of_mem hp, hn⟩
      . exact .inr ⟨p.value, List.mem_map_of_mem hp, hn⟩
    . rintro (⟨s, hs, hn⟩ | ⟨s, hs, hn⟩)
      . obtain ⟨p, hp, rfl⟩ := List.mem_map.mp hs
        exact ⟨p, hp, (hpart p hp).mpr (.inl hn)⟩
      . obtain ⟨p, hp, rfl⟩ := List.mem_map.mp hs
        exact ⟨p, hp, (hpart p hp).mpr (.inr hn)⟩

theorem BlockMeans.mem_uses {site : Site} {blocks : List Value} {i : Nat}
    {body : List Lua.Statement} {notes : List Note} (h : BlockMeans site blocks i body notes)
    (v : String) : v ∈ uses notes ↔ Mentions statementVariables blocks i v :=
  h.mem_view (fun _ _ _ _ hstatement => hstatement.uses_eq) v

end PulpGame.Block
