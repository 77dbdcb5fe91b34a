import PulpGame.Proofs.Variable.Memory

namespace PulpGame.Variable

open Lua (Value Scope Store Table Closure Outcome Stat)

namespace Storage

variable {s : Storage} {scope : Scope} {content : String → Value} {σ σ' : Store}

def shadowedFields : Table :=
  shadowed.foldl (fun t n => t.set (.string n) (.boolean true)) []

def functions : Table :=
  [(.string "shadowed", .table 2), (.string "setvariable", .function 0),
    (.string "getvariable", .function 1), (.string "resetvars", .function 2)]

def setting (s : Storage) : Stat :=
  s.dispatch (fun n => .assign (.name n) (.name "value"))
    (.assign (.index (.name "_G") asked) (.name "value"))

def getting (s : Storage) : Stat :=
  s.dispatch (fun n => .giveBack (.name n)) (.giveBack (.index (.name "_G") asked))

def closures (s : Storage) : List Closure :=
  [⟨s.scope, ["varname", "value"], Stat.statementsAll [namespacing, s.setting]⟩,
    ⟨s.scope, ["varname"], Stat.statementsAll [namespacing, s.getting]⟩,
    ⟨s.scope, [], Stat.statementsAll (s.all.map reset)⟩]

def Ready (s : Storage) (σ : Store) : Prop := code σ = ([functions, shadowedFields], s.closures)

theorem get_shadowedFields (n : String) : shadowedFields.get (.string n) =
    if n ∈ shadowed then .boolean true else .nil := by
  have hfold (ns : List String) (t : Table) :
      (ns.foldl (fun t n => t.set (.string n) (.boolean true)) t).get (.string n) =
        if n ∈ ns then .boolean true else t.get (.string n) := by
    induction ns generalizing t with
    | nil => simp
    | cons m ns ih =>
      rw [List.foldl_cons, ih, Table.get_set]
      by_cases hm : n = m <;> simp [hm]
  exact hfold shadowed []

theorem Ready.getField? (h : s.Ready σ) (a : Nat)
    : σ.getField? (a + 1) = fun key => ([functions, shadowedFields][a]?).map (·.get key) := by
  have htail : σ.tables.tail = [functions, shadowedFields] := congrArg Prod.fst h
  funext key
  rw [Store.getField?, ← htail, List.getElem?_tail]

theorem tableOf_names (ns : List String) (t : Table)
    : Lua.tableOf scope t (Lua.Expr.fieldTerms (ns.map fun n => (n, .boolean true))) σ =
        some (ns.foldl (fun t n => t.set (.string n) (.boolean true)) t, σ) := by
  induction ns generalizing t with
  | nil =>
    rw [List.map_nil, Lua.Expr.fieldTerms, Lua.tableOf]
    rfl
  | cons n ns ih =>
    have hvalue : Lua.evaluate scope (.boolean true) σ = some (.boolean true, σ) := by
      rw [Lua.evaluate]
    rw [List.map_cons, Lua.Expr.fieldTerms, Lua.tableOf, Lua.evaluate_string, List.foldl_cons,
      ← ih]
    simp [hvalue, Lua.Expr.term]

theorem Holds.ofRuntime (h : s.Holds content σ) (hcells : σ'.cells = σ.cells)
    (htable : σ'.tables[Lua.globals]? = σ.tables[Lua.globals]?) : s.Holds content σ' := by
  apply h.of_agree
  . rw [hcells]
  . intro a _
    rw [Store.cell?, hcells, Store.cell?]
  . exact htable

theorem assign_runtime (hbare : ∀ n ∈ s.fast, isBare n) (hsees : s.Sees scope)
    (h : s.Holds content σ) (name : String) {t : Lua.Term} {v : Value}
    (ht : Lua.evaluate scope t σ = some (v, σ')) (hcells : σ'.cells = σ.cells)
    (htable : σ'.tables[Lua.globals]? = σ.tables[Lua.globals]?) (hlength : 1 < σ'.tables.length)
    : Lua.execute scope (.assign [(Program.runtimeField name).term] [t]) σ =
          some (.proceed scope, σ'.setField 1 (.string name) v) ∧
        s.Holds content (σ'.setField 1 (.string name) v) := by
  constructor
  . exact Lua.execute_assign_index (evaluate_runtime hbare hsees h) (Lua.evaluate_string _) ht
      hlength
  . apply h.ofRuntime
    . exact hcells
    . simpa [Store.setField, Lua.globals] using htable

theorem sees_self (s : Storage) : s.Sees s.scope := fun _ _ => rfl

theorem run_access (hbare : ∀ n ∈ s.fast, isBare n) (h : s.Holds content σ)
    (hcode : code σ = ([[]], []))
    : ∃ σ', Lua.run s.scope (Stat.statementsAll s.access) σ = some (.proceed s.scope, σ') ∧
        s.Holds content σ' ∧ s.Ready σ' := by
  obtain ⟨cells, tables, closures⟩ := σ
  obtain ⟨htail, rfl⟩ : tables.tail = [[]] ∧ closures = [] := Prod.mk.inj hcode
  obtain ⟨t, rfl⟩ : ∃ t, tables = [t, []] := by
    cases tables with
    | nil => cases htail
    | cons t ts =>
      obtain rfl : ts = [[]] := htail
      exact ⟨t, rfl⟩
  have hsees := s.sees_self
  -- each assignment is to a field of the library, none of which holds a variable
  obtain ⟨hrun₁, h₁⟩ := assign_runtime hbare hsees h "shadowed"
    (Lua.evaluate_table (tableOf_names shadowed [])) rfl rfl (by simp [Store.addTable])
  obtain ⟨hrun₂, h₂⟩ := assign_runtime hbare hsees h₁ "setvariable"
    (Lua.evaluate_function ["varname", "value"] (Stat.statementsAll [namespacing, s.setting])) rfl rfl
    (by simp [Store.addTable, Store.setField, Store.addClosure])
  obtain ⟨hrun₃, h₃⟩ := assign_runtime hbare hsees h₂ "getvariable"
    (Lua.evaluate_function ["varname"] (Stat.statementsAll [namespacing, s.getting])) rfl rfl
    (by simp [Store.addTable, Store.setField, Store.addClosure])
  obtain ⟨hrun₄, h₄⟩ := assign_runtime hbare hsees h₃ "resetvars"
    (Lua.evaluate_function [] (Stat.statementsAll (s.all.map reset))) rfl rfl
    (by simp [Store.addTable, Store.setField, Store.addClosure])
  refine ⟨_, ?_, h₄, rfl⟩
  refine (Lua.run_proceed hrun₁).trans ?_
  refine (Lua.run_proceed hrun₂).trans ?_
  refine (Lua.run_proceed hrun₃).trans ?_
  exact (Lua.run_proceed hrun₄).trans Lua.run_nil

theorem find_reserved (n : String) : ∃ vs, Lua.stringMethod? n "find" [.string reserved] = some vs ∧
    (vs.head?.getD .nil).isTrue = hasReserved n.toList := by
  have hplain : reserved.toList.all (!Lua.isMagic ·) := by decide
  have hposition := position?_reserved n.toList
  simp only [Lua.stringMethod?, hplain, decide_true, Bool.and_true, if_true]
  cases h : Lua.position? reserved.toList n.toList with
  | none =>
    rw [h] at hposition
    exact ⟨_, rfl, hposition⟩
  | some k =>
    rw [h] at hposition
    exact ⟨_, rfl, hposition⟩

theorem evaluate_find {n : String} (h : Lua.evaluate scope asked.term σ = some (.string n, σ))
    : ∃ v, v.isTrue = hasReserved n.toList ∧
        Lua.evaluate scope (.invoke asked.term "find" [.string reserved]) σ = some (v, σ) := by
  obtain ⟨vs, hvs, htrue⟩ := find_reserved n
  refine ⟨_, htrue, ?_⟩
  rw [Lua.evaluate, Lua.results, h]
  have hxs : Lua.evaluateAll scope [.string reserved] σ = some ([.string reserved], σ) :=
    Lua.evaluateAll_one rfl (Lua.evaluate_string _)
  simp [hxs, Lua.invoke, hvs]

theorem execute_namespacing (hbare : ∀ n ∈ s.fast, isBare n) (hsees : s.Sees scope)
    (h : s.Holds content σ) (hready : s.Ready σ) {a : Nat} (ha : scope.lookup "varname" = some a)
    {n : String} (hn : σ.cell? a = some (.string n)) (body : List Lua.Statement)
    : Lua.run scope (namespacing.statements ++ body) σ =
        Lua.run scope body (σ.setCell a (.string (namespaced n))) := by
  have hasked : Lua.evaluate scope asked.term σ = some (.string n, σ) := Lua.evaluate_local ha hn
  obtain ⟨v, hv, hfind⟩ := evaluate_find hasked
  have hnames : Lua.evaluate scope shadowedTable.term σ = some (.table 2, σ) := by
    apply Lua.evaluate_index (evaluate_runtime hbare hsees h) (Lua.evaluate_string _)
    rw [hready.getField?]
    rfl
  have hshadowed : Lua.evaluate scope (.index shadowedTable.term asked.term) σ =
      some (if n ∈ shadowed then .boolean true else .nil, σ) := by
    apply Lua.evaluate_index hnames hasked
    rw [hready.getField?]
    simp [get_shadowedFields]
  have hcondition : ∃ w, w.isTrue = needsNamespace n ∧ Lua.evaluate scope
      (.binary "or" (.invoke asked.term "find" [.string reserved])
        (.index shadowedTable.term asked.term)) σ = some (w, σ) := by
    rw [Lua.evaluate_or hfind]
    split
    . next htrue => exact ⟨v, by simp [htrue, needsNamespace, ← hv], rfl⟩
    . next hfalse =>
      refine ⟨_, ?_, hshadowed⟩
      rw [hv] at hfalse
      by_cases hmem : n ∈ shadowed <;> simp [needsNamespace, hmem, hfalse, Value.isTrue]
  obtain ⟨w, hw, hcondition⟩ := hcondition
  have hstatements : namespacing.statements =
      [.choose (.binary "or" (.invoke asked.term "find" [.string reserved])
          (.index shadowedTable.term asked.term))
        [.assign [asked.term] [.binary ".." (.string reserved) asked.term]] []] := rfl
  rw [hstatements, List.singleton_append]
  apply Lua.run_proceed
  rw [Lua.execute_choose hcondition, hw]
  -- A name that is its own key is left as it is, which is to store it once more.
  cases hneeds : needsNamespace n with
  | true =>
    rw [namespaced, if_pos hneeds]
    exact Lua.inBlock_one (Lua.execute_assign_local ha
      (Lua.evaluate_concat (Lua.evaluate_string _) hasked)) fun _ h => (Outcome.proceed.inj h).symm
  | false =>
    have hsame : σ.setCell a (.string (namespaced n)) = σ := by
      rw [namespaced_of_not hneeds]
      exact Store.setCell_cell hn
    rw [hsame]
    exact Lua.inBlock_nil

theorem execute_arm {k n : String} (hk : Lua.evaluate scope asked.term σ = some (.string k, σ))
    {arm other : Lua.Statement} {outcome : Outcome}
    (harm : k = n → Lua.execute scope arm σ = some (outcome, σ'))
    (hother : k ≠ n → Lua.execute scope other σ = some (outcome, σ'))
    (hscope : ∀ scope', outcome = .proceed scope' → scope' = scope)
    : Lua.execute scope (.choose (.binary "==" asked.term (.string n)) [arm] [other]) σ =
        some (outcome, σ') := by
  have hequals : Lua.evaluate scope (.binary "==" asked.term (.string n)) σ =
      some (.boolean (Value.string k = .string n), σ) :=
    Lua.evaluate_equals hk (Lua.evaluate_string n)
  refine (Lua.execute_choose hequals).trans ?_
  by_cases hkn : k = n
  . rw [if_pos (by simp [Value.isTrue, hkn])]
    exact Lua.inBlock_one (harm hkn) hscope
  . rw [if_neg (by simp [Value.isTrue, hkn])]
    exact Lua.inBlock_one (hother hkn) hscope

theorem execute_arms {k : String} (hk : Lua.evaluate scope asked.term σ = some (.string k, σ))
    {own : String → Lua.Action} {other : Lua.Action} {outcome : Outcome} (n : String)
    (ns : List String)
    (hown : k ∈ n :: ns → Lua.execute scope (own k).statement σ = some (outcome, σ'))
    (hother : k ∉ n :: ns → Lua.execute scope other.statement σ = some (outcome, σ'))
    (hscope : ∀ scope', outcome = .proceed scope' → scope' = scope)
    : Lua.execute scope (Stat.choiceOf (.binary "==" asked (.string n), own n)
        (ns.map fun n => (.binary "==" asked (.string n), own n)) other) σ =
          some (outcome, σ') := by
  induction ns generalizing n with
  | nil =>
    refine execute_arm hk ?_ ?_ hscope
    . rintro rfl
      exact hown (by simp)
    . intro hkn
      exact hother (by simp [hkn])
  | cons m ns ih =>
    refine execute_arm hk ?_ ?_ hscope
    . rintro rfl
      exact hown (by simp)
    . intro hkn
      apply ih
      . intro hmem
        exact hown (List.mem_cons_of_mem _ hmem)
      . intro hmem
        exact hother (by simp_all)

theorem execute_dispatch {k : String}
    (hk : Lua.evaluate scope asked.term σ = some (.string k, σ)) {own : String → Lua.Action}
    {other : Lua.Action} {outcome : Outcome}
    (hown : k ∈ s.fast → Lua.execute scope (own k).statement σ = some (outcome, σ'))
    (hother : k ∉ s.fast → Lua.execute scope other.statement σ = some (outcome, σ'))
    (hscope : ∀ scope', outcome = .proceed scope' → scope' = scope)
    : Lua.run scope (s.dispatch own other).statements σ = some (outcome, σ') := by
  have hone {st : Lua.Statement} (h : Lua.execute scope st σ = some (outcome, σ'))
      : Lua.run scope [st] σ = some (outcome, σ') := by
    cases outcome with
    | proceed scope' =>
      obtain rfl := hscope _ rfl
      exact (Lua.run_proceed h).trans Lua.run_nil
    | leave vs => exact Lua.run_leave [] h
  unfold dispatch
  cases hfast : s.fast with
  | nil =>
    apply hone
    exact hother (by simp [hfast])
  | cons n ns =>
    apply hone
    rw [hfast] at hown hother
    exact execute_arms hk n ns hown hother hscope

theorem namespaced_mem_fast (hbare : ∀ n ∈ s.fast, isBare n) {n : String}
    : namespaced n ∈ s.fast ↔ n ∈ s.fast := by
  constructor
  . intro h
    rwa [eq_of_isBare_namespaced (hbare _ h)] at h
  . intro h
    rwa [namespaced_of_isBare (hbare n h)]

def inside (s : Storage) (σ : Store) (ps : List String) : Scope :=
  s.scope.extend ("varname" :: ps) σ.cells.length

theorem enter_accessor (hbare : ∀ n ∈ s.fast, isBare n) (h : s.Holds content σ)
    (hready : s.Ready σ) {ps : List String} {vs : List Value} (hfit : Lua.fit ps vs = vs)
    (hps : ∀ p ∈ "varname" :: ps, isBare p = false ∧ p ≠ "_G" ∧ p ≠ "__pulp")
    (hvarname : "varname" ∉ ps) (n : String) (st : Lua.Stat)
    : ∃ σ', s.Holds content σ' ∧ s.Ready σ' ∧
        Lua.evaluate (s.inside σ ps) asked.term σ' = some (.string (namespaced n), σ') ∧
        (∀ i v, vs[i]? = some v → σ'.cell? (σ.cells.length + 1 + i) = some v) ∧
        Lua.enter ⟨s.scope, "varname" :: ps, Stat.statementsAll [namespacing, st]⟩
            (.string n :: vs) σ =
          (Lua.run (s.inside σ ps) st.statements σ').map fun (outcome, σ) => (outcome.values, σ) := by
  have hsize := h.size
  have hlookup : (s.inside σ ps).lookup "varname" = some σ.cells.length := by
    rw [inside, Scope.extend, Scope.lookup_extend_of_not_mem hvarname]
    simp
  have hcell : (σ.addCells (.string n :: vs)).cell? σ.cells.length = some (.string n) := by
    simp [Store.cell?, Store.addCells]
  refine ⟨(σ.addCells (.string n :: vs)).setCell σ.cells.length (.string (namespaced n)),
    (h.addCells _).setCell_other hsize _, hready, Lua.evaluate_local hlookup ?_, ?_, ?_⟩
  . simp [Store.cell?, Store.setCell, Store.addCells]
  . intro i v hv
    rw [Store.cell?, Store.setCell, List.getElem?_set_ne (by omega), Store.addCells,
      List.getElem?_append_right (by omega)]
    have hindex : σ.cells.length + 1 + i - σ.cells.length = i + 1 := by omega
    rw [hindex, List.getElem?_cons_succ, hv]
  . rw [Lua.enter_eq, Lua.fit, hfit, Stat.statementsAll, Stat.statementsAll, Stat.statementsAll,
      List.append_nil]
    have hsees := sees_extend s hps σ.cells.length
    exact congrArg _ (execute_namespacing hbare hsees (h.addCells _) hready hlookup hcell _)

theorem enter_setting (hbare : ∀ n ∈ s.fast, isBare n) (h : s.Holds content σ)
    (hready : s.Ready σ) (n : String) (v : Value)
    : ∃ σ', Lua.enter ⟨s.scope, ["varname", "value"], Stat.statementsAll [namespacing, s.setting]⟩
          [.string n, v] σ = some ([], σ') ∧
        s.Holds (Function.update content n v) σ' ∧ s.Ready σ' := by
  have hps : ∀ p ∈ ["varname", "value"], isBare p = false ∧ p ≠ "_G" ∧ p ≠ "__pulp" := by decide
  have hsees : s.Sees (s.inside σ ["value"]) := sees_extend s hps σ.cells.length
  have hfit : Lua.fit ["value"] [v] = [v] := rfl
  obtain ⟨σ₁, hholds, hready₁, hasked, hvalues, hrun⟩ :=
    enter_accessor hbare h hready hfit hps (by decide) n s.setting
  have hlookup : (s.inside σ ["value"]).lookup "value" = some (σ.cells.length + 1) := rfl
  have hvalue : Lua.evaluate (s.inside σ ["value"]) (.name "value") σ₁ = some (v, σ₁) :=
    Lua.evaluate_local hlookup (hvalues 0 v rfl)
  suffices hdispatch : ∃ σ', Lua.run (s.inside σ ["value"]) s.setting.statements σ₁ =
        some (.proceed (s.inside σ ["value"]), σ') ∧
      s.Holds (Function.update content n v) σ' ∧ code σ' = code σ₁ by
    obtain ⟨σ', hset, hholds', hcode⟩ := hdispatch
    rw [hset] at hrun
    exact ⟨σ', hrun, hholds', hcode.trans hready₁⟩
  -- The key of a local is its name; no other variable has this key.
  by_cases hmem : n ∈ s.fast
  . have hname : place n = .name n := by rw [place, if_pos (hbare n hmem)]
    obtain ⟨σ', hassign, hholds', hcode⟩ := assign_place hbare hsees hholds hvalue n
    rw [hname] at hassign
    refine ⟨σ', ?_, hholds', hcode⟩
    apply execute_dispatch hasked _ _ (by simp)
    . intro _
      rw [namespaced_of_isBare (hbare n hmem)]
      exact hassign
    . intro hother
      exact absurd ((namespaced_mem_fast hbare).mpr hmem) hother
  . have hassign := Lua.execute_assign_index (evaluate_globals hbare hsees hholds) hasked hvalue
      hholds.globals_lt
    refine ⟨_, ?_, hholds.setField hmem v, code_setField _ v⟩
    apply execute_dispatch hasked _ _ (by simp)
    . intro hown
      exact absurd ((namespaced_mem_fast hbare).mp hown) hmem
    . intro _
      exact hassign

theorem enter_getting (hbare : ∀ n ∈ s.fast, isBare n) (h : s.Holds content σ)
    (hready : s.Ready σ) (n : String)
    : ∃ σ', Lua.enter ⟨s.scope, ["varname"], Stat.statementsAll [namespacing, s.getting]⟩
          [.string n] σ = some ([content n], σ') ∧
        s.Holds content σ' ∧ s.Ready σ' := by
  have hps : ∀ p ∈ ["varname"], isBare p = false ∧ p ≠ "_G" ∧ p ≠ "__pulp" := by decide
  have hsees : s.Sees (s.inside σ []) := sees_extend s hps σ.cells.length
  obtain ⟨σ₁, hholds, hready₁, hasked, -, hrun⟩ :=
    enter_accessor hbare h hready (rfl : Lua.fit [] [] = []) hps (by simp) n s.getting
  refine ⟨σ₁, ?_, hholds, hready₁⟩
  suffices hdispatch : Lua.run (s.inside σ []) s.getting.statements σ₁ =
      some (.leave [content n], σ₁) by
    rw [hdispatch] at hrun
    exact hrun
  apply execute_dispatch hasked _ _ (by simp)
  . intro hown
    have hmem := (namespaced_mem_fast hbare).mp hown
    have hplace := evaluate_place hbare hsees hholds n
    rw [place, if_pos (hbare n hmem)] at hplace
    rw [namespaced_of_isBare (hbare n hmem)]
    exact Lua.execute_giveBack (Lua.evaluateAll_one rfl hplace)
  . intro hother
    have hmem : n ∉ s.fast := by rwa [namespaced_mem_fast hbare] at hother
    exact Lua.execute_giveBack (Lua.evaluateAll_one rfl
      (Lua.evaluate_index (evaluate_globals hbare hsees hholds) hasked (hholds.field n hmem)))

theorem enter_resetting (hbare : ∀ n ∈ s.fast, isBare n) (h : s.Holds content σ)
    (hready : s.Ready σ)
    : ∃ σ', Lua.enter ⟨s.scope, [], Stat.statementsAll (s.all.map reset)⟩ [] σ = some ([], σ') ∧
        s.Holds (fun n => if n ∈ s.all then .number 0 else content n) σ' ∧ s.Ready σ' := by
  have hsees : s.Sees (s.scope.extend [] σ.cells.length) := sees_extend s (by simp) _
  obtain ⟨σ', hrun, hholds, hcode⟩ := run_resets hbare hsees (h.addCells []) s.all
  refine ⟨σ', ?_, hholds, hcode.trans hready⟩
  rw [Lua.enter_eq]
  exact congrArg _ hrun

theorem results_runtime (hbare : ∀ n ∈ s.fast, isBare n) (hsees : s.Sees scope)
    (h : s.Holds content σ) (hready : s.Ready σ) {name : String} {a : Nat} {c : Closure}
    (hname : functions.get (.string name) = .function a) (hc : s.closures[a]? = some c)
    {xs : List Lua.Term} {vs : List Value} (hxs : Lua.evaluateAll scope xs σ = some (vs, σ))
    : Lua.results scope (.call (Program.runtimeField name).term xs) σ = Lua.enter c vs σ := by
  have hfunction : Lua.evaluate scope (Program.runtimeField name).term σ = some (.function a, σ) := by
    apply Lua.evaluate_index (evaluate_runtime hbare hsees h) (Lua.evaluate_string _)
    rw [hready.getField?]
    exact congrArg some hname
  have hclosures : σ.closures = s.closures := congrArg Prod.snd hready
  exact Lua.results_call hfunction hxs (by rw [hclosures, hc])

end Storage

end PulpGame.Variable
