import PulpGame.Proofs.Lua.Machine
/-!
How code runs that moves handlers from one script to another.

The handlers of a script are functions in a table that the runtime keeps for it. A loop goes through
a table in any order, so a run may end with several outcomes; one of them is that it goes wrong, or
does something that is not described here.
-/

namespace PulpGame.Mimic

open Lua (Value Term Statement)

structure Runtime where
  table : String → Nat
  injective : Function.Injective table

/-- The functions in the tables, by the names of the fields; each table has finitely many. -/
@[ext]
structure Handlers where
  get : Nat → String → Option Nat
  finite : ∀ a, {n | (get a n).isSome}.Finite

abbrev Outcomes := Set (Option Handlers)

def Outcomes.followedBy (os : Outcomes) (f : Handlers → Outcomes) : Outcomes :=
  {o | none ∈ os ∧ o = none ∨ ∃ σ, some σ ∈ os ∧ o ∈ f σ}

namespace Handlers

def set (σ : Handlers) (a : Nat) (n : String) (f : Option Nat) : Handlers where
  get b m := if b = a ∧ m = n then f else σ.get b m
  finite b := by
    apply ((σ.finite b).insert n).subset
    intro m hm
    by_cases h : b = a ∧ m = n
    . exact .inl h.2
    . exact .inr (by simpa [h] using hm)

def Enumerates (σ : Handlers) (a : Nat) (names : List String) : Prop :=
  names.Nodup ∧ ∀ n, n ∈ names ↔ (σ.get a n).isSome

def HasNew (σ σ' : Handlers) (a : Nat) : Prop := ∃ n, σ.get a n = none ∧ (σ'.get a n).isSome

def field? (σ : Handlers) : Value → Value → Option Value
  | .table a, .string n => some ((σ.get a n).elim .nil .function)
  | .table _, _ => some .nil
  | _, _ => none

end Handlers

def handler? : Value → Option (Option Nat)
  | .nil => some none
  | .function f => some (some f)
  | _ => none

def typeName : Value → String
  | .nil => "nil"
  | .boolean _ => "boolean"
  | .number _ => "number"
  | .string _ => "string"
  | .table _ => "table"
  | .function _ => "function"

abbrev Locals := List (String × Value)

def evaluate (rt : Runtime) (locals : Locals) (σ : Handlers) : Term → Option Value
  | .nil => some .nil
  | .boolean b => some (.boolean b)
  | .string s => some (.string s)
  | .name n => locals.lookup n
  | .index table key => do σ.field? (← evaluate rt locals σ table) (← evaluate rt locals σ key)
  | .invoke (.name "__pulp") "getScript" [.string s] => some (.table (rt.table s))
  | .call (.name "type") [t] => (evaluate rt locals σ t).map fun v => .string (typeName v)
  | .group t => evaluate rt locals σ t
  | .unary op t => do Lua.unaryValue? op (← evaluate rt locals σ t)
  | .binary op x y => do
    let v ← evaluate rt locals σ x
    if op = "and" then if v.isTrue then evaluate rt locals σ y else return v
    else if op = "or" then if v.isTrue then return v else evaluate rt locals σ y
    else Lua.binary? op v (← evaluate rt locals σ y)
  | _ => none

open Classical in
/-- Goes through fields of a table, as far as they are still there. It goes wrong if the table gets
a new field on the way. -/
noncomputable def traverse (a : Nat) (body : String → Nat → Handlers → Outcomes) :
    List String → Handlers → Outcomes
  | [], σ => {some σ}
  | n :: names, σ =>
    match σ.get a n with
    | none => traverse a body names σ
    | some f => (body n f σ).followedBy fun σ' =>
        if σ.HasNew σ' a then {none} else traverse a body names σ'

def count (body : Nat → Handlers → Outcomes) : Nat → Handlers → Outcomes
  | 0, σ => {some σ}
  | n + 1, σ => (count body n σ).followedBy (body (n + 1))

mutual

noncomputable def outcomes (rt : Runtime) (locals : Locals) (σ : Handlers) : Statement → Outcomes
  | .assign [.index table key] [value] =>
    match evaluate rt locals σ table, evaluate rt locals σ key,
      (evaluate rt locals σ value).bind handler? with
    | some (.table a), some (.string n), some f => {some (σ.set a n f)}
    | _, _, _ => {none}
  | .choose condition body other =>
    match evaluate rt locals σ condition with
    | some v => if v.isTrue then outcomesAll rt locals σ body else outcomesAll rt locals σ other
    | none => {none}
  | .forRange counter (.numeral "1") (.numeral last) none body =>
    match last.toNat? with
    | some n => count (fun i σ => outcomesAll rt ((counter, .number i) :: locals) σ body) n σ
    | none => {none}
  | .forEach [key, value] [.call (.name "pairs") [t]] body =>
    match evaluate rt locals σ t with
    | some (.table a) =>
      {o | ∃ names, σ.Enumerates a names ∧ o ∈ traverse a (fun n f σ =>
        outcomesAll rt ((value, .function f) :: (key, .string n) :: locals) σ body) names σ}
    | _ => {none}
  | _ => {none}

noncomputable def outcomesAll (rt : Runtime) (locals : Locals) (σ : Handlers) :
    List Statement → Outcomes
  | [] => {some σ}
  | s :: ss => (outcomes rt locals σ s).followedBy fun σ => outcomesAll rt locals σ ss

end

end PulpGame.Mimic
