import PulpGame.Proofs.Variable.Naming
import PulpGame.Proofs.Variable.Code
import PulpGame.Proofs.Lua.Running

namespace PulpGame.Variable

open Lua (Value Scope Store Table Closure)

namespace Storage

def scope (s : Storage) : Scope := Scope.extend [("__pulp", 0)] s.fast 1

def Sees (s : Storage) (scope : Scope) : Prop :=
  ∀ n, isBare n ∨ n = "_G" ∨ n = "__pulp" → scope.lookup n = s.scope.lookup n

/-- The store holds what variables have for values: a local in its cell, another one in its field. -/
structure Holds (s : Storage) (content : String → Value) (σ : Store) : Prop where
  runtime : σ.cell? 0 = some (.table 1)
  self : σ.getField? Lua.globals (.string "_G") = some (.table Lua.globals)
  size : s.fast.length < σ.cells.length
  cell : ∀ n ∈ s.fast, ∀ a, s.scope.lookup n = some a → σ.cell? a = some (content n)
  field : ∀ n ∉ s.fast, σ.getField? Lua.globals (.string (namespaced n)) = some (content n)

variable {s : Storage} {scope : Scope} {content : String → Value} {σ σ' : Store}

theorem separate_scope (s : Storage) : s.scope.Separate (s.fast.length + 1) := by
  have hstart : Scope.Separate [("__pulp", 0)] 1 := by
    constructor
    . intro n b hb
      simp only [List.lookup_cons, List.lookup_nil] at hb
      split at hb <;> simp_all
    . intro n m b hn hm
      simp only [List.lookup_cons, List.lookup_nil] at hn hm
      split at hn <;> split at hm <;> simp_all
  rw [Nat.add_comm]
  exact hstart.extend s.fast

theorem lookup_fast {n : String} (h : n ∈ s.fast)
    : ∃ a, a ≠ 0 ∧ a ≤ s.fast.length ∧ s.scope.lookup n = some a := by
  have hmem : ∃ a, 1 ≤ a ∧ a < 1 + s.fast.length ∧ s.scope.lookup n = some a :=
    Scope.lookup_extend_of_mem h 1
  obtain ⟨a, hle, hlt, ha⟩ := hmem
  exact ⟨a, by omega, by omega, ha⟩

theorem lookup_other {n : String} (h : n ∉ s.fast) (hn : n ≠ "__pulp")
    : s.scope.lookup n = none := by
  rw [Storage.scope, Scope.lookup_extend_of_not_mem h]
  simp [List.lookup_cons, beq_false_of_ne hn]

theorem lookup_runtime (h : ∀ n ∈ s.fast, isBare n) : s.scope.lookup "__pulp" = some 0 := by
  have hmem : "__pulp" ∉ s.fast := by
    intro hmem
    exact absurd (h _ hmem) (by decide)
  rw [Storage.scope, Scope.lookup_extend_of_not_mem hmem]
  rfl

theorem lookup_globals (h : ∀ n ∈ s.fast, isBare n) : s.scope.lookup "_G" = none := by
  apply lookup_other _ (by decide)
  intro hmem
  exact absurd (h _ hmem) (by decide)

theorem sees_extend (s : Storage) {ps : List String}
    (hps : ∀ p ∈ ps, isBare p = false ∧ p ≠ "_G" ∧ p ≠ "__pulp") (a : Nat)
    : s.Sees (s.scope.extend ps a) := by
  intro n hn
  apply Scope.lookup_extend_of_not_mem
  intro hmem
  obtain ⟨hbare, hglobals, hruntime⟩ := hps n hmem
  rcases hn with hn | hn | hn
  . rw [hbare] at hn
    cases hn
  . exact hglobals hn
  . exact hruntime hn

namespace Holds

theorem of_agree (h : s.Holds content σ) (hsize : σ.cells.length ≤ σ'.cells.length)
    (hcells : ∀ a ≤ s.fast.length, σ'.cell? a = σ.cell? a)
    (htable : σ'.tables[Lua.globals]? = σ.tables[Lua.globals]?) : s.Holds content σ' := by
  constructor
  case runtime =>
    rw [hcells 0 (Nat.zero_le _)]
    exact h.runtime
  case self =>
    rw [Store.getField?, htable]
    exact h.self
  case size =>
    have := h.size
    omega
  case cell =>
    intro n hn a ha
    have hbelow := s.separate_scope.below n a ha
    rw [hcells a (by omega)]
    exact h.cell n hn a ha
  case field =>
    intro n hn
    rw [Store.getField?, htable]
    exact h.field n hn

theorem addCells (h : s.Holds content σ) (vs : List Value) : s.Holds content (σ.addCells vs) := by
  have hsize := h.size
  apply h.of_agree
  . simp [Store.addCells]
  . intro a ha
    rw [Store.cell?, Store.addCells, List.getElem?_append_left (by omega), Store.cell?]
  . rfl

theorem setCell_other (h : s.Holds content σ) {a : Nat} (ha : s.fast.length < a) (v : Value)
    : s.Holds content (σ.setCell a v) := by
  apply h.of_agree
  . simp [Store.setCell]
  . intro b hb
    rw [Store.cell?, Store.setCell, List.getElem?_set_ne (by omega), Store.cell?]
  . rfl

theorem setCell (h : s.Holds content σ) {n : String} (hn : n ∈ s.fast) {a : Nat}
    (ha : s.scope.lookup n = some a) (v : Value)
    : s.Holds (Function.update content n v) (σ.setCell a v) := by
  obtain ⟨b, hne, hle, hb⟩ := lookup_fast hn
  obtain rfl : a = b := Option.some.inj (ha.symm.trans hb)
  have hsize := h.size
  have hcell (c : Nat) : (σ.setCell a v).cell? c = if a = c then some v else σ.cell? c := by
    rw [Store.cell?, Store.setCell, List.getElem?_set, Store.cell?]
    split
    . rw [if_pos (by omega)]
    . rfl
  constructor
  case runtime =>
    rw [hcell, if_neg hne]
    exact h.runtime
  case self => exact h.self
  case size => simpa [Store.setCell] using hsize
  case cell =>
    intro m hm c hc
    rw [hcell]
    split
    . next heq =>
      subst heq
      obtain rfl := s.separate_scope.apart n m _ ha hc
      simp
    . next hac =>
      have hnm : m ≠ n := by
        rintro rfl
        exact hac (Option.some.inj (ha.symm.trans hc))
      rw [Function.update_of_ne hnm]
      exact h.cell m hm c hc
  case field =>
    intro m hm
    have hnm : m ≠ n := by
      rintro rfl
      exact hm hn
    rw [Function.update_of_ne hnm]
    exact h.field m hm

theorem setField (h : s.Holds content σ) {n : String} (hn : n ∉ s.fast) (v : Value)
    : s.Holds (Function.update content n v)
        (σ.setField Lua.globals (.string (namespaced n)) v) := by
  constructor
  case runtime => exact h.runtime
  case self =>
    rw [Store.getField?_setField, if_neg]
    . exact h.self
    . simpa using (namespaced_ne_globals n).symm
  case size => exact h.size
  case cell =>
    intro m hm a ha
    have hnm : m ≠ n := by
      rintro rfl
      exact hn hm
    rw [Function.update_of_ne hnm]
    exact h.cell m hm a ha
  case field =>
    intro m hm
    rw [Store.getField?_setField, h.field m hm]
    by_cases hnm : m = n
    . simp [hnm]
    . have hkeys : ¬namespaced m = namespaced n := by
        intro heq
        exact hnm (namespaced_injective heq)
      simp [hnm, hkeys]

end Holds

theorem evaluate_globals (hbare : ∀ n ∈ s.fast, isBare n) (hsees : s.Sees scope)
    (h : s.Holds content σ)
    : Lua.evaluate scope (.name "_G") σ = some (.table Lua.globals, σ) := by
  apply Lua.evaluate_global _ h.self
  rw [hsees _ (by simp), lookup_globals hbare]

theorem evaluate_runtime (hbare : ∀ n ∈ s.fast, isBare n) (hsees : s.Sees scope)
    (h : s.Holds content σ) : Lua.evaluate scope (.name "__pulp") σ = some (.table 1, σ) := by
  apply Lua.evaluate_local _ h.runtime
  rw [hsees _ (by simp), lookup_runtime hbare]

theorem runtime_ne {n : String} (h : isBare n) : n ≠ "__pulp" := ne_of_isBare h (by decide)

theorem evaluate_place (hbare : ∀ n ∈ s.fast, isBare n) (hsees : s.Sees scope)
    (h : s.Holds content σ) (n : String)
    : Lua.evaluate scope (place n).term σ = some (content n, σ) := by
  unfold place
  split
  . next hn =>
    rw [Lua.Expr.term]
    by_cases hmem : n ∈ s.fast
    . obtain ⟨a, -, -, ha⟩ := lookup_fast hmem
      apply Lua.evaluate_local _ (h.cell n hmem a ha)
      rw [hsees n (.inl hn), ha]
    . apply Lua.evaluate_global
      . rw [hsees n (.inl hn), lookup_other hmem (runtime_ne hn)]
      . rw [← h.field n hmem, namespaced_of_isBare hn]
  . next hn =>
    have hmem : n ∉ s.fast := by
      intro hmem
      exact hn (hbare n hmem)
    exact Lua.evaluate_index (evaluate_globals hbare hsees h) (Lua.evaluate_string _)
      (h.field n hmem)

def code (σ : Store) : List Table × List Closure := (σ.tables.tail, σ.closures)

theorem code_setCell (a : Nat) (v : Value) : code (σ.setCell a v) = code σ := rfl

theorem code_setField (key v : Value) : code (σ.setField Lua.globals key v) = code σ := by
  cases htables : σ.tables <;> simp [code, Store.setField, htables, Lua.globals]

theorem Holds.globals_lt (h : s.Holds content σ) : Lua.globals < σ.tables.length := by
  by_contra hge
  have := h.self
  rw [Store.getField?, List.getElem?_eq_none (by omega)] at this
  cases this

theorem assign_place (hbare : ∀ n ∈ s.fast, isBare n) (hsees : s.Sees scope)
    (h : s.Holds content σ) {t : Lua.Term} {v : Value}
    (ht : Lua.evaluate scope t σ = some (v, σ)) (n : String)
    : ∃ σ', Lua.execute scope (.assign [(place n).term] [t]) σ = some (.proceed scope, σ') ∧
        s.Holds (Function.update content n v) σ' ∧ code σ' = code σ := by
  unfold place
  split
  . next hn =>
    rw [Lua.Expr.term]
    by_cases hmem : n ∈ s.fast
    . obtain ⟨a, -, -, ha⟩ := lookup_fast hmem
      have hlookup : scope.lookup n = some a := by rw [hsees n (.inl hn), ha]
      exact ⟨_, Lua.execute_assign_local hlookup ht, h.setCell hmem ha v, code_setCell a v⟩
    . have hlookup : scope.lookup n = none := by
        rw [hsees n (.inl hn), lookup_other hmem (runtime_ne hn)]
      refine ⟨_, Lua.execute_assign_global hlookup ht, ?_, code_setField _ v⟩
      have := h.setField hmem v
      rwa [namespaced_of_isBare hn] at this
  . next hn =>
    have hmem : n ∉ s.fast := by
      intro hmem
      exact hn (hbare n hmem)
    exact ⟨_, Lua.execute_assign_index (evaluate_globals hbare hsees h) (Lua.evaluate_string _) ht
      h.globals_lt, h.setField hmem v, code_setField _ v⟩

theorem evaluate_zero : Lua.evaluate scope (.numeral "0") σ = some (.number 0, σ) :=
  Lua.evaluate_nat 0

theorem run_resets (hbare : ∀ n ∈ s.fast, isBare n) (hsees : s.Sees scope)
    (h : s.Holds content σ) (ns : List String)
    : ∃ σ', Lua.run scope (Lua.Stat.statementsAll (ns.map reset)) σ = some (.proceed scope, σ') ∧
        s.Holds (fun n => if n ∈ ns then .number 0 else content n) σ' ∧ code σ' = code σ := by
  induction ns generalizing content σ with
  | nil => exact ⟨σ, Lua.run_nil, by simpa using h, rfl⟩
  | cons n ns ih =>
    obtain ⟨σ₁, hrun, hholds, hcode⟩ := assign_place hbare hsees h evaluate_zero n
    obtain ⟨σ₂, hrun', hholds', hcode'⟩ := ih hholds
    refine ⟨σ₂, ?_, ?_, hcode'.trans hcode⟩
    . exact (Lua.run_proceed hrun).trans hrun'
    . have hcontent : (fun m => if m ∈ ns then Value.number 0
          else Function.update content n (.number 0) m) =
          fun m => if m ∈ n :: ns then .number 0 else content m := by
        funext m
        by_cases hm : m = n
        . simp [hm]
        . simp [hm]
      rwa [hcontent] at hholds'

end Storage

end PulpGame.Variable
