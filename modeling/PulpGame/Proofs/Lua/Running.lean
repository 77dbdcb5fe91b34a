import PulpGame.Proofs.Lua.Machine

namespace PulpGame.Lua

variable {scope : Scope} {σ σ₁ σ₂ : Store}

section

-- The equations are made here, once, and not by all the proofs below at the same time.
attribute [local simp] evaluate results evaluateAll tableOf call enter invoke run execute _inBlock

theorem evaluate_string (s : String) : evaluate scope (.string s) σ = some (.string s, σ) := by
  simp

theorem evaluate_boolean (b : Bool) : evaluate scope (.boolean b) σ = some (.boolean b, σ) := by
  simp

theorem evaluate_function (ps : List String) (body : List Statement)
    : evaluate scope (.function ps false body) σ =
        some (.function σ.closures.length, σ.addClosure ⟨scope, ps, body⟩) := by
  simp

theorem evaluateAll_nil : evaluateAll scope [] σ = some ([], σ) := by
  simp

theorem run_nil : run scope [] σ = some (.proceed scope, σ) := by
  simp

theorem inBlock_nil : _inBlock scope [] σ = some (.proceed scope, σ) := by
  simp

end

theorem evaluate_numeral {text : String} {x : ℚ} (h : decimalValue? text = some x)
    : evaluate scope (.numeral text) σ = some (.number x, σ) := by
  rw [evaluate, h]
  rfl

theorem ofDigits_toDigits (n : Nat) : Short.ofDigits (Nat.toDigits 10 n) = n := by
  have h := @Nat.ofDigitChars_toDigits 10 n (by decide) (by decide)
  simpa [Nat.ofDigitChars, Short.ofDigits, Nat.mul_comm] using h

theorem decimalValue?_nat (n : Nat) : decimalValue? (toString n) = some (n : ℚ) := by
  have hchars : (toString n).toList = Nat.toDigits 10 n := by
    rw [Nat.toString_eq_repr, Nat.toList_repr]
  have hdigit : ∀ c ∈ Nat.toDigits 10 n, c.isDigit := fun c hc =>
    Nat.isDigit_of_mem_toDigits (by decide) (by decide) hc
  rw [decimalValue?, hchars, List.takeWhile_eq_self_iff.mpr hdigit,
    List.dropWhile_eq_nil_iff.mpr hdigit]
  simp [ofDigits_toDigits]

theorem evaluate_nat (n : Nat) : evaluate scope (.numeral (toString n)) σ = some (.number n, σ) :=
  evaluate_numeral (decimalValue?_nat n)

theorem evaluate_local {n : String} {a : Nat} {v : Value} (h : scope.lookup n = some a)
    (hv : σ.cell? a = some v) : evaluate scope (.name n) σ = some (v, σ) := by
  rw [evaluate, h]
  simp [hv]

theorem evaluate_global {n : String} {v : Value} (h : scope.lookup n = none)
    (hv : σ.getField? globals (.string n) = some v)
    : evaluate scope (.name n) σ = some (v, σ) := by
  rw [evaluate, h]
  simp [hv]

theorem evaluate_index {table key : Term} {a : Nat} {k v : Value}
    (ht : evaluate scope table σ = some (.table a, σ₁))
    (hk : evaluate scope key σ₁ = some (k, σ₂)) (hv : σ₂.getField? a k = some v)
    : evaluate scope (.index table key) σ = some (v, σ₂) := by
  rw [evaluate]
  simp [ht, hk, getField?, hv]

theorem evaluate_table {fields : List (Option Term × Term)} {t : Table}
    (h : tableOf scope [] fields σ = some (t, σ₁))
    : evaluate scope (.table fields) σ = some (.table σ₁.tables.length, σ₁.addTable t) := by
  rw [evaluate]
  simp [h]

theorem tableOf_nil (t : Table) : tableOf scope t [] σ = some (t, σ) := by
  rw [tableOf]

theorem tableOf_cons {k : String} {value : Term} {v : Value}
    (h : evaluate scope value σ = some (v, σ₁)) (t : Table) (fields : List (Option Term × Term))
    : tableOf scope t ((some (.string k), value) :: fields) σ =
        tableOf scope (t.set (.string k) v) fields σ₁ := by
  rw [tableOf, evaluate_string]
  simp [h]

theorem evaluate_or {x y : Term} {v : Value} (h : evaluate scope x σ = some (v, σ₁))
    : evaluate scope (.binary "or" x y) σ =
        if v.isTrue then some (v, σ₁) else evaluate scope y σ₁ := by
  rw [evaluate]
  simp [h]

theorem evaluate_minus {x : Term} {p : ℚ} (h : evaluate scope x σ = some (.number p, σ₁))
    : evaluate scope (.unary "-" x) σ = some (.number (-p), σ₁) := by
  rw [evaluate]
  simp [h, unaryValue?]

theorem evaluate_binary {op : String} {x y : Term} (hand : op ≠ "and") (hor : op ≠ "or")
    : evaluate scope (.binary op x y) σ = do
        let (v, σ) ← evaluate scope x σ
        let (w, σ) ← evaluate scope y σ
        let v ← binary? op v w
        return (v, σ) := by
  rw [evaluate]
  . exact hand
  . exact hor

theorem evaluate_equals {x y : Term} {v w : Value} (hx : evaluate scope x σ = some (v, σ₁))
    (hy : evaluate scope y σ₁ = some (w, σ₂))
    : evaluate scope (.binary "==" x y) σ = some (.boolean (v = w), σ₂) := by
  rw [evaluate_binary (by decide) (by decide)]
  simp [hx, hy, binary?]

theorem evaluate_concat {x y : Term} {v w : String} (hx : evaluate scope x σ = some (.string v, σ₁))
    (hy : evaluate scope y σ₁ = some (.string w, σ₂))
    : evaluate scope (.binary ".." x y) σ = some (.string (v ++ w), σ₂) := by
  rw [evaluate_binary (by decide) (by decide)]
  simp [hx, hy, binary?]

theorem evaluate_arithmetic {op : String} {x y : Term} {p q : ℚ} {v : Value}
    (hx : evaluate scope x σ = some (.number p, σ₁))
    (hy : evaluate scope y σ₁ = some (.number q, σ₂)) (hv : arithmetic? op p q = some v)
    : evaluate scope (.binary op x y) σ = some (v, σ₂) := by
  have hne : op ≠ "and" ∧ op ≠ "or" ∧ op ≠ "==" ∧ op ≠ "~=" := by
    refine ⟨?_, ?_, ?_, ?_⟩ <;>
    . rintro rfl
      cases hv
  rw [evaluate_binary hne.1 hne.2.1]
  simp [hx, hy, binary?, hne, hv]

theorem run_append (body other : List Statement)
    : run scope (body ++ other) σ = (run scope body σ).bind fun (outcome, σ) =>
        match outcome with
        | .proceed scope => run scope other σ
        | .leave vs => some (.leave vs, σ) := by
  induction body generalizing scope σ with
  | nil => rw [List.nil_append, run_nil]; rfl
  | cons s body ih =>
    rw [List.cons_append, run, run]
    cases h : execute scope s σ with
    | none => rfl
    | some r =>
      obtain ⟨outcome, σ'⟩ := r
      cases outcome with
      | proceed scope' => simpa using ih
      | leave vs => rfl

theorem evaluateAll_one {t : Term} {v : Value} (hcall : t.isCall = false)
    (h : evaluate scope t σ = some (v, σ₁)) : evaluateAll scope [t] σ = some ([v], σ₁) := by
  rw [evaluateAll]
  simp [hcall, h]

theorem evaluateAll_cons {t u : Term} {ts : List Term} {v : Value} {vs : List Value}
    (h : evaluate scope t σ = some (v, σ₁)) (hs : evaluateAll scope (u :: ts) σ₁ = some (vs, σ₂))
    : evaluateAll scope (t :: u :: ts) σ = some (v :: vs, σ₂) := by
  rw [evaluateAll]
  . simp [h, hs]
  . simp

theorem results_call {f : Term} {xs : List Term} {a : Nat} {vs : List Value} {c : Closure}
    (hf : evaluate scope f σ = some (.function a, σ₁))
    (hxs : evaluateAll scope xs σ₁ = some (vs, σ₂)) (hc : σ₂.closures[a]? = some c)
    : results scope (.call f xs) σ = enter c vs σ₂ := by
  rw [results]
  simp [hf, hxs, call, hc]

theorem evaluate_call {f : Term} {xs : List Term} {vs : List Value}
    (h : results scope (.call f xs) σ = some (vs, σ₁))
    : evaluate scope (.call f xs) σ = some (vs.head?.getD .nil, σ₁) := by
  rw [evaluate]
  simp [h]

theorem evaluateAll_call {f : Term} {xs : List Term} {vs : List Value}
    (h : results scope (.call f xs) σ = some (vs, σ₁))
    : evaluateAll scope [.call f xs] σ = some (vs, σ₁) := by
  rw [evaluateAll]
  simp [Term.isCall, h]

theorem enter_eq (c : Closure) (vs : List Value)
    : enter c vs σ = (run (c.scope.extend c.parameters σ.cells.length) c.body
        (σ.addCells (fit c.parameters vs))).map fun (outcome, σ) => (outcome.values, σ) := by
  rw [enter]
  cases run (c.scope.extend c.parameters σ.cells.length) c.body
    (σ.addCells (fit c.parameters vs)) <;> rfl

theorem run_proceed {s : Statement} {body : List Statement} {scope' : Scope}
    (h : execute scope s σ = some (.proceed scope', σ₁))
    : run scope (s :: body) σ = run scope' body σ₁ := by
  rw [run]
  simp [h]

theorem run_leave {s : Statement} (body : List Statement) {vs : List Value}
    (h : execute scope s σ = some (.leave vs, σ₁))
    : run scope (s :: body) σ = some (.leave vs, σ₁) := by
  rw [run]
  simp [h]

theorem execute_assign_local {n : String} {t : Term} {a : Nat} {v : Value}
    (hn : scope.lookup n = some a) (ht : evaluate scope t σ = some (v, σ₁))
    : execute scope (.assign [.name n] [t]) σ = some (.proceed scope, σ₁.setCell a v) := by
  rw [execute]
  simp [ht, hn]

theorem execute_assign_global {n : String} {t : Term} {v : Value}
    (hn : scope.lookup n = none) (ht : evaluate scope t σ = some (v, σ₁))
    : execute scope (.assign [.name n] [t]) σ =
        some (.proceed scope, σ₁.setField globals (.string n) v) := by
  rw [execute]
  simp [ht, hn]

theorem execute_assign_index {table key t : Term} {a : Nat} {k : String} {v : Value} {σ₃ : Store}
    (htable : evaluate scope table σ = some (.table a, σ₁))
    (hk : evaluate scope key σ₁ = some (.string k, σ₂))
    (ht : evaluate scope t σ₂ = some (v, σ₃)) (ha : a < σ₃.tables.length)
    : execute scope (.assign [.index table key] [t]) σ =
        some (.proceed scope, σ₃.setField a (.string k) v) := by
  rw [execute]
  simp [htable, hk, ht, setField?, Nat.not_le.mpr ha]

theorem execute_declare {n : String} {kind : Option String} {t : Term} {v : Value}
    (ht : evaluate scope t σ = some (v, σ₁))
    : execute scope (.declare [(n, kind)] [t]) σ =
        some (.proceed (scope.extend [n] σ₁.cells.length), σ₁.addCells [v]) := by
  rw [execute]
  simp [ht]

theorem run_declare {n : String} {kind : Option String} {t : Term} {v : Value}
    {body : List Statement} (ht : evaluate scope t σ = some (v, σ₁))
    : run scope (.declare [(n, kind)] [t] :: body) σ =
        run (scope.extend [n] σ₁.cells.length) body (σ₁.addCells [v]) :=
  run_proceed (execute_declare ht)

theorem execute_giveBack {t : Term} {vs : List Value}
    (ht : evaluateAll scope [t] σ = some (vs, σ₁))
    : execute scope (.giveBack [t]) σ = some (.leave vs, σ₁) := by
  rw [execute]
  simp [ht]

theorem execute_call {t : Term} {v : Value} (ht : evaluate scope t σ = some (v, σ₁))
    : execute scope (.call t) σ = some (.proceed scope, σ₁) := by
  rw [execute]
  simp [ht]

theorem execute_choose {t : Term} {body other : List Statement} {v : Value}
    (ht : evaluate scope t σ = some (v, σ₁))
    : execute scope (.choose t body other) σ =
        _inBlock scope (if v.isTrue then body else other) σ₁ := by
  rw [execute]
  simp [ht]

theorem execute_loop_end {t : Term} {body : List Statement} {v : Value}
    (ht : evaluate scope t σ = some (v, σ₁)) (hv : v.isTrue = false)
    : execute scope (.loop t body) σ = some (.proceed scope, σ₁) := by
  rw [execute]
  simp [ht, hv]

theorem execute_loop_step {t : Term} {body : List Statement} {v : Value}
    (ht : evaluate scope t σ = some (v, σ₁)) (hv : v.isTrue)
    (hbody : _inBlock scope body σ₁ = some (.proceed scope, σ₂))
    : execute scope (.loop t body) σ = execute scope (.loop t body) σ₂ := by
  rw [execute]
  simp [ht, hv, hbody]

theorem inBlock_one {s : Statement} {outcome : Outcome}
    (h : execute scope s σ = some (outcome, σ₁)) (hscope : ∀ s, outcome = .proceed s → s = scope)
    : _inBlock scope [s] σ = some (outcome, σ₁) := by
  rw [_inBlock]
  cases outcome with
  | proceed scope' =>
    obtain rfl := hscope _ rfl
    rw [run_proceed h, run_nil]
    rfl
  | leave vs =>
    rw [run_leave [] h]
    rfl

namespace Scope

theorem lookup_extend_of_not_mem {ns : List String} {n : String} (h : n ∉ ns) (a : Nat)
    : (extend scope ns a).lookup n = scope.lookup n := by
  induction ns generalizing scope a with
  | nil => rfl
  | cons m ns ih =>
    have hne : (n == m) = false := beq_false_of_ne (by rintro rfl; simp at h)
    rw [extend, ih (by simp_all), List.lookup_cons, hne]

theorem lookup_extend_of_mem {ns : List String} {n : String} (h : n ∈ ns) (a : Nat)
    : ∃ b, a ≤ b ∧ b < a + ns.length ∧ (extend scope ns a).lookup n = some b := by
  induction ns generalizing scope a with
  | nil => simp at h
  | cons m ns ih =>
    rw [extend, List.length_cons]
    by_cases hmem : n ∈ ns
    . obtain ⟨b, hle, hlt, hb⟩ := @ih ((m, a) :: scope) hmem (a + 1)
      exact ⟨b, by omega, by omega, hb⟩
    . obtain rfl : n = m := by simp_all
      refine ⟨a, by omega, by omega, ?_⟩
      rw [lookup_extend_of_not_mem hmem]
      simp

structure Separate (scope : Scope) (a : Nat) : Prop where
  below : ∀ n b, scope.lookup n = some b → b < a
  apart : ∀ n m b, scope.lookup n = some b → scope.lookup m = some b → n = m

theorem Separate.extend {a : Nat} (h : Separate scope a) (ns : List String)
    : Separate (extend scope ns a) (a + ns.length) := by
  induction ns generalizing scope a with
  | nil => exact h
  | cons n ns ih =>
    rw [Scope.extend, List.length_cons, Nat.add_comm ns.length, ← Nat.add_assoc]
    apply ih
    have hcons (m : String) : ((n, a) :: scope : Scope).lookup m =
        if m = n then some a else scope.lookup m := by
      rw [List.lookup_cons]
      by_cases hm : m = n
      . simp [hm]
      . simp [hm, beq_false_of_ne hm]
    -- The new cell lies above those in use, so that only the new name leads to it.
    constructor
    . intro m b hb
      rw [hcons] at hb
      split at hb
      . cases hb
        omega
      . have := h.below m b hb
        omega
    . intro m k b hm hk
      rw [hcons] at hm hk
      split at hm <;> split at hk
      . simp_all
      . cases hm
        have := h.below k a hk
        omega
      . cases hk
        have := h.below m a hm
        omega
      . exact h.apart m k b hm hk

end Scope

namespace Store

theorem getField?_setField (a b : Nat) (key k v : Value) : (σ.setField a key v).getField? b k =
    if a = b ∧ k = key then (σ.getField? b k).map fun _ => v else σ.getField? b k := by
  unfold getField? setField
  rw [List.getElem?_modify, Option.map_map]
  by_cases hab : a = b
  . by_cases hk : k = key
    . simp [hab, hk, Table.get_set, Function.comp_def]
    . simp [hab, hk, Table.get_set, Function.comp_def]
  . simp [hab]

theorem setCell_cell {a : Nat} {v : Value} (h : σ.cell? a = some v) : σ.setCell a v = σ := by
  obtain ⟨ha, rfl⟩ := List.getElem?_eq_some_iff.mp h
  simp [setCell]

end Store

end PulpGame.Lua
