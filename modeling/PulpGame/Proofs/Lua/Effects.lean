import PulpGame.Proofs.Lua.Running
import PulpGame.Proofs.Lua.Locals

namespace PulpGame.Lua

variable {scope scope' : Scope} {σ σ' : Store} {body : List Statement}

def Statement.isSimple : Statement → Bool
  | .assign _ _ | .call _ | .declare _ _ => true
  | _ => false

theorem execute_simple {s : Statement} {outcome : Outcome} (hs : s.isSimple)
    (h : execute scope s σ = some (outcome, σ'))
    : ∃ scope', outcome = .proceed scope' ∧ ∀ n ∉ s.declares, scope'.lookup n = scope.lookup n := by
  cases s with
  | assign places values =>
    unfold execute at h
    split at h <;> try contradiction
    . simp only [Option.bind_eq_bind, Option.bind_eq_some_iff] at h
      obtain ⟨_, _, h⟩ := h
      split at h <;> cases h <;> exact ⟨scope, rfl, fun _ _ => rfl⟩
    . simp only [Option.bind_eq_bind, Option.bind_eq_some_iff] at h
      obtain ⟨_, _, _, _, _, _, _, _, h⟩ := h
      cases h
      exact ⟨scope, rfl, fun _ _ => rfl⟩
  | call t =>
    rw [execute] at h
    simp only [Option.bind_eq_bind, Option.bind_eq_some_iff] at h
    obtain ⟨_, _, h⟩ := h
    cases h
    exact ⟨scope, rfl, fun _ _ => rfl⟩
  | declare names values =>
    unfold execute at h
    split at h <;> try contradiction
    next hshape =>
      cases hshape
      simp only [Option.bind_eq_bind, Option.bind_eq_some_iff] at h
      obtain ⟨_, _, h⟩ := h
      cases h
      exact ⟨_, rfl, fun m hm => Scope.lookup_extend_of_not_mem hm _⟩
  | _ => cases hs

theorem run_simple {outcome : Outcome} (hbody : ∀ s ∈ body, s.isSimple)
    (h : run scope body σ = some (outcome, σ'))
    : ∃ scope', outcome = .proceed scope' ∧
        ∀ n, (∀ s ∈ body, n ∉ s.declares) → scope'.lookup n = scope.lookup n := by
  induction body generalizing scope σ with
  | nil =>
    rw [run_nil] at h
    cases h
    exact ⟨scope, rfl, fun _ _ => rfl⟩
  | cons s body ih =>
    rw [List.forall_mem_cons] at hbody
    rw [run] at h
    simp only [Option.bind_eq_bind, Option.bind_eq_some_iff] at h
    obtain ⟨⟨first, σ₁⟩, hfirst, h⟩ := h
    obtain ⟨between, rfl, hbetween⟩ := execute_simple hbody.1 hfirst
    obtain ⟨scope', houtcome, hscope'⟩ := ih hbody.2 h
    refine ⟨scope', houtcome, fun n hn => ?_⟩
    rw [List.forall_mem_cons] at hn
    rw [hscope' n hn.2, hbetween n hn.1]

mutual

def Term.isQuiet : Term → Bool
  | .nil | .boolean _ | .numeral _ | .string _ | .name _ | .rest => true
  | .index table key => table.isQuiet && key.isQuiet
  | .group t | .unary _ t => t.isQuiet
  | .binary _ x y => x.isQuiet && y.isQuiet
  | .table fields => areQuiet fields
  | .call _ _ | .invoke _ _ _ | .function _ _ _ => false

def areQuiet : List (Option Term × Term) → Bool
  | [] => true
  | (some key, value) :: fields => key.isQuiet && value.isQuiet && areQuiet fields
  | (none, value) :: fields => value.isQuiet && areQuiet fields

end

theorem evaluate_binary_cases {op : String} {x y : Term} {v : Value}
    (h : evaluate scope (.binary op x y) σ = some (v, σ'))
    : ∃ w σ₁, evaluate scope x σ = some (w, σ₁) ∧
        (σ' = σ₁ ∨ ∃ w', evaluate scope y σ₁ = some (w', σ')) := by
  -- `and` and `or` may leave the right operand alone, so they have equations of their own.
  by_cases hand : op = "and"
  . subst hand
    rw [evaluate] at h
    simp only [Option.bind_eq_bind, Option.bind_eq_some_iff] at h
    obtain ⟨⟨w, σ₁⟩, hx, h⟩ := h
    split at h
    . exact ⟨w, σ₁, hx, .inr ⟨v, h⟩⟩
    . cases h
      exact ⟨_, _, hx, .inl rfl⟩
  by_cases hor : op = "or"
  . subst hor
    rw [evaluate] at h
    simp only [Option.bind_eq_bind, Option.bind_eq_some_iff] at h
    obtain ⟨⟨w, σ₁⟩, hx, h⟩ := h
    split at h
    . cases h
      exact ⟨_, _, hx, .inl rfl⟩
    . exact ⟨w, σ₁, hx, .inr ⟨v, h⟩⟩
  . rw [evaluate_binary hand hor] at h
    simp only [Option.bind_eq_bind, Option.bind_eq_some_iff] at h
    obtain ⟨⟨w, σ₁⟩, hx, ⟨w', σ₂⟩, hy, _, -, h⟩ := h
    cases h
    exact ⟨w, σ₁, hx, .inr ⟨w', hy⟩⟩

def memory (σ : Store) : List Value × List Closure := (σ.cells, σ.closures)

mutual

-- What is quiet calls nothing, so all that it can make are tables.
theorem memory_evaluate {v : Value} : {t : Term} → t.isQuiet → {σ σ' : Store} →
    evaluate scope t σ = some (v, σ') → memory σ' = memory σ
  | .nil, _, _, _, h | .boolean _, _, _, _, h | .string _, _, _, _, h => by
    rw [evaluate] at h
    cases h
    rfl
  | .numeral _, _, _, _, h => by
    rw [evaluate, Option.map_eq_some_iff] at h
    obtain ⟨_, _, h⟩ := h
    cases h
    rfl
  | .name n, _, _, _, h => by
    rw [evaluate] at h
    split at h <;>
    . rw [Option.map_eq_some_iff] at h
      obtain ⟨_, _, h⟩ := h
      cases h
      rfl
  | .rest, _, _, _, h => by
    rw [evaluate] at h
    cases h
  | .index table key, ht, _, _, h => by
    rw [Term.isQuiet, Bool.and_eq_true] at ht
    rw [evaluate] at h
    simp only [Option.bind_eq_bind, Option.bind_eq_some_iff] at h
    obtain ⟨⟨t, σ₁⟩, htable, ⟨k, σ₂⟩, hkey, w, -, h⟩ := h
    cases h
    exact (memory_evaluate ht.2 hkey).trans (memory_evaluate ht.1 htable)
  | .group t, ht, _, _, h => by
    rw [Term.isQuiet] at ht
    rw [evaluate] at h
    exact memory_evaluate ht h
  | .unary op t, ht, _, _, h => by
    rw [Term.isQuiet] at ht
    rw [evaluate] at h
    simp only [Option.bind_eq_bind, Option.bind_eq_some_iff] at h
    obtain ⟨⟨w, σ₁⟩, hoperand, _, -, h⟩ := h
    cases h
    exact memory_evaluate ht hoperand
  | .binary op x y, ht, _, _, h => by
    rw [Term.isQuiet, Bool.and_eq_true] at ht
    obtain ⟨w, σ₁, hx, hrest⟩ := evaluate_binary_cases h
    rcases hrest with rfl | ⟨w', hy⟩
    . exact memory_evaluate ht.1 hx
    . exact (memory_evaluate ht.2 hy).trans (memory_evaluate ht.1 hx)
  | .table fields, ht, _, _, h => by
    rw [Term.isQuiet] at ht
    rw [evaluate] at h
    simp only [Option.bind_eq_bind, Option.bind_eq_some_iff] at h
    obtain ⟨⟨t, σ₁⟩, hfields, h⟩ := h
    cases h
    have := memory_tableOf ht hfields
    exact this

theorem memory_tableOf {t : Table} : {fields : List (Option Term × Term)} → areQuiet fields →
    {first : Table} → {σ σ' : Store} → tableOf scope first fields σ = some (t, σ') →
      memory σ' = memory σ
  | [], _, _, _, _, h => by
    rw [tableOf] at h
    cases h
    rfl
  | (some key, value) :: fields, hfields, _, _, _, h => by
    rw [areQuiet, Bool.and_eq_true, Bool.and_eq_true] at hfields
    rw [tableOf] at h
    simp only [Option.bind_eq_bind, Option.bind_eq_some_iff] at h
    obtain ⟨⟨k, σ₁⟩, hkey, ⟨v, σ₂⟩, hvalue, h⟩ := h
    split at h
    . cases h
    . exact (memory_tableOf hfields.2 h).trans
        ((memory_evaluate hfields.1.2 hvalue).trans (memory_evaluate hfields.1.1 hkey))
  | (none, _) :: _, _, _, _, _, h => by
    rw [tableOf] at h
    cases h

end

def Statement.isQuiet : Statement → Bool
  | .declare _ [value] => value.isQuiet
  | _ => false

theorem Statement.isSimple_of_isQuiet {s : Statement} (h : s.isQuiet) : s.isSimple := by
  cases s <;> first | rfl | cases h

theorem execute_quiet {s : Statement} {outcome : Outcome} (hs : s.isQuiet)
    (h : execute scope s σ = some (outcome, σ'))
    : σ.cells <+: σ'.cells ∧ σ'.closures = σ.closures := by
  cases s with
  | declare names values =>
    unfold execute at h
    split at h <;> try contradiction
    next hshape =>
      cases hshape
      simp only [Option.bind_eq_bind, Option.bind_eq_some_iff] at h
      obtain ⟨⟨v, σ₁⟩, hvalue, h⟩ := h
      obtain ⟨hcells, hclosures⟩ := Prod.mk.inj (memory_evaluate hs hvalue)
      cases h
      rw [← hcells, ← hclosures]
      exact ⟨List.prefix_append _ _, rfl⟩
  | _ => cases hs

theorem run_quiet {outcome : Outcome} (hbody : ∀ s ∈ body, s.isQuiet)
    (h : run scope body σ = some (outcome, σ'))
    : σ.cells <+: σ'.cells ∧ σ'.closures = σ.closures := by
  induction body generalizing scope σ with
  | nil =>
    rw [run_nil] at h
    cases h
    exact ⟨List.prefix_rfl, rfl⟩
  | cons s body ih =>
    rw [List.forall_mem_cons] at hbody
    rw [run] at h
    simp only [Option.bind_eq_bind, Option.bind_eq_some_iff] at h
    obtain ⟨⟨first, σ₁⟩, hfirst, h⟩ := h
    obtain ⟨between, rfl, -⟩ := execute_simple (Statement.isSimple_of_isQuiet hbody.1) hfirst
    obtain ⟨hcells, hclosures⟩ := execute_quiet hbody.1 hfirst
    obtain ⟨hcells', hclosures'⟩ := ih hbody.2 h
    exact ⟨hcells.trans hcells', hclosures'.trans hclosures⟩

def Reaches (scope : Scope) (n : String) (σ : Store) (c : Closure) : Prop :=
  ∃ a f, scope.lookup n = some a ∧ σ.cell? a = some (.function f) ∧ σ.closures[f]? = some c

theorem reaches_declared {n : String} {kind : Option String} {ps : List String}
    {code : List Statement} {outcome : Outcome} (hbody : ∀ s ∈ body, s.isQuiet ∧ n ∉ s.declares)
    (h : run scope (.declare [(n, kind)] [.function ps false code] :: body) σ = some (outcome, σ'))
    : ∃ scope', outcome = .proceed scope' ∧ Reaches scope' n σ' ⟨scope, ps, code⟩ := by
  have hquiet : ∀ s ∈ body, s.isQuiet := fun s hs => (hbody s hs).1
  rw [run_declare (evaluate_function ps code)] at h
  obtain ⟨scope', rfl, hscope⟩ :=
    run_simple (fun s hs => Statement.isSimple_of_isQuiet (hquiet s hs)) h
  obtain ⟨⟨cells, hcells⟩, hclosures⟩ := run_quiet hquiet h
  refine ⟨scope', rfl, σ.cells.length, σ.closures.length, ?_, ?_, ?_⟩
  . rw [hscope n fun s hs => (hbody s hs).2]
    simp [Scope.extend, Store.addClosure]
  . simp [Store.cell?, ← hcells, Store.addCells, Store.addClosure]
  . simp [hclosures, Store.addCells, Store.addClosure]

theorem evaluateAll_last {t : Term} {v : Value} (h : evaluate scope t σ = some (v, σ'))
    : ∃ vs, evaluateAll scope [t] σ = some (vs, σ') ∧ vs.head?.getD .nil = v := by
  by_cases hcall : t.isCall
  . have hresults : ∃ vs, results scope t σ = some (vs, σ') ∧ vs.head?.getD .nil = v := by
      cases t with
      | call _ _ | invoke _ _ _ =>
        rw [evaluate] at h
        simp only [Option.bind_eq_bind, Option.bind_eq_some_iff] at h
        obtain ⟨⟨vs, σ₁⟩, hvs, h⟩ := h
        cases h
        exact ⟨vs, hvs, rfl⟩
      | _ => cases hcall
    obtain ⟨vs, hvs, hv⟩ := hresults
    refine ⟨vs, ?_, hv⟩
    rw [evaluateAll, if_pos hcall, hvs]
  . exact ⟨[v], evaluateAll_one (by simpa using hcall) h, rfl⟩

theorem Reaches.results_call {n : String} {c : Closure} (h : Reaches scope n σ c) {t : Term}
    {v : Value} (ht : evaluate scope t σ = some (v, σ')) (hv : v ≠ .nil)
    (hkept : σ.closures <+: σ'.closures)
    : ∃ others, results scope (.call (.name n) [t]) σ = enter c (v :: others) σ' := by
  obtain ⟨a, f, hlookup, hcell, hclosure⟩ := h
  obtain ⟨vs, hvs, hhead⟩ := evaluateAll_last ht
  obtain ⟨others, rfl⟩ : ∃ others, vs = v :: others := by
    cases vs with
    | nil => exact absurd hhead.symm hv
    | cons w others => exact ⟨others, by rw [← hhead]; rfl⟩
  obtain ⟨more, hmore⟩ := hkept
  refine ⟨others, Lua.results_call (evaluate_local hlookup hcell) hvs ?_⟩
  obtain ⟨hlt, -⟩ := List.getElem?_eq_some_iff.mp hclosure
  rw [← hmore, List.getElem?_append_left hlt, hclosure]

end PulpGame.Lua
