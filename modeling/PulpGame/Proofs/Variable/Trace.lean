import PulpGame.Proofs.Variable.Access

namespace PulpGame.Variable

open Lua (Value Scope Store Table Closure Outcome Stat)

inductive Step where
  | read (n : String)
  | write (n : String) (v : Value)
  | ask (n : String)
  | tell (n : String) (v : Value)
  | reset

namespace Step

def code : Step → Stat
  | read n => .action (.giveBack (place n))
  | write n _ => .action (.assign (place n) (.name "event"))
  | ask n => .action (.giveBack (.call (Program.runtimeField "getvariable") [.string n]))
  | tell n _ =>
    .action (.call (.call (Program.runtimeField "setvariable") [.string n, .name "event"]))
  | reset => .action (.call (.call (Program.runtimeField "resetvars") []))

def event : Step → Value
  | write _ v | tell _ v => v
  | read _ | ask _ | reset => .nil

def perform (scope : Scope) (step : Step) (σ : Store) : Option (List Value × Store) := do
  let body ← Lua.parse (Lua.chunkText [step.code])
  Lua.enter ⟨scope, ["__self", "event"], body⟩ [.nil, step.event] σ

end Step

def play (scope : Scope) : List Step → Store → Option (List (List Value))
  | [], _ => some []
  | step :: steps, σ => do
    let (vs, σ) ← step.perform scope σ
    let others ← play scope steps σ
    return vs :: others

def start (g : Table) : Store := ⟨[.table 1], [g.set (.string "_G") (.table Lua.globals), []], []⟩

def Storage.outputs (s : Storage) (g : Table) (steps : List Step) : Option (List (List Value)) := do
  let body ← Lua.parse (Lua.chunkText s.declare ++ Lua.chunkText s.access)
  let (outcome, σ) ← Lua.run [("__pulp", 0)] body (start g)
  match outcome with
  | .proceed scope => play scope steps σ
  | .leave _ => none

/-- The value of a variable after steps, the latest one first: what was written last, zero if it is
known and has not been written since the start or since all were set to zero, or else what the
globals had from the beginning. -/
def current (known : List String) (g : Table) : List Step → String → Value
  | [], n => if n ∈ known then .number 0 else g.get (.string (namespaced n))
  | .write m v :: past, n | .tell m v :: past, n => if n = m then v else current known g past n
  | .reset :: past, n => if n ∈ known then .number 0 else current known g past n
  | .read _ :: past, n | .ask _ :: past, n => current known g past n

theorem current_write (known : List String) (g : Table) (past : List Step) (n : String) (v : Value)
    : current known g (.write n v :: past) = Function.update (current known g past) n v := by
  funext m
  rw [Function.update_apply, current]

theorem current_tell (known : List String) (g : Table) (past : List Step) (n : String) (v : Value)
    : current known g (.tell n v :: past) = Function.update (current known g past) n v := by
  funext m
  rw [Function.update_apply, current]

def Step.answer (content : String → Value) : Step → List Value
  | read n | ask n => [content n]
  | write _ _ | tell _ _ | reset => []

def expected (known : List String) (g : Table) (past : List Step) : List Step → List (List Value)
  | [] => []
  | step :: steps =>
    step.answer (current known g past) :: expected known g (step :: past) steps

theorem mem_ranked {usage : List (String × Nat)} {n : String}
    : n ∈ ranked usage ↔ n ∈ usage.map (·.1) := by
  unfold ranked
  simp [List.mem_mergeSort]

theorem Storage.allot_eq {usage : List (String × Nat)} {capacity : Nat} {s : Storage}
    (h : allot usage capacity = .ok s)
    : s.fast = ((ranked usage).filter isBare).take (min capacity fastLimit) ∧
        s.dynamic = (ranked usage).filter fun n => !s.fast.contains n := by
  unfold allot at h
  dsimp only at h
  split at h
  . cases h
  . cases h
    exact ⟨rfl, rfl⟩

theorem Storage.isOk_allot {usage : List (String × Nat)} {capacity : Nat}
    : (allot usage capacity).isOk ↔ ∀ v ∈ usage.map (·.1), isReserved v = false := by
  have hnone : (ranked usage).find? isReserved = none ↔
      ∀ v ∈ usage.map (·.1), isReserved v = false := by
    simp [List.find?_eq_none, mem_ranked]
  rw [← hnone]
  unfold allot
  dsimp only
  split
  . next hname => simp [hname, Except.isOk, Except.toBool]
  . next hname => simp [hname, Except.isOk, Except.toBool]

theorem Storage.isBare_of_allot {usage : List (String × Nat)} {capacity : Nat} {s : Storage}
    (h : allot usage capacity = .ok s) : ∀ n ∈ s.fast, isBare n := by
  intro n hn
  rw [(allot_eq h).1] at hn
  exact (List.mem_filter.mp (List.mem_of_mem_take hn)).2

theorem Storage.mem_all_of_allot {usage : List (String × Nat)} {capacity : Nat} {s : Storage}
    (h : allot usage capacity = .ok s) {n : String} : n ∈ s.all ↔ n ∈ usage.map (·.1) := by
  obtain ⟨hfast, hdynamic⟩ := allot_eq h
  rw [all, List.mem_append, ← mem_ranked]
  constructor
  . rintro (hn | hn)
    . rw [hfast] at hn
      exact (List.mem_filter.mp (List.mem_of_mem_take hn)).1
    . rw [hdynamic] at hn
      exact (List.mem_filter.mp hn).1
  . intro hn
    rw [hdynamic, List.mem_filter]
    by_cases hmem : n ∈ s.fast
    . exact .inl hmem
    . exact .inr ⟨hn, by simp [hmem]⟩

namespace Storage

variable {s : Storage} {content : String → Value} {σ : Store}

theorem run_declares (scope : Scope) (ns : List String) (σ : Store)
    : Lua.run scope (Stat.statementsAll (ns.map fun n => .action (.declare n (.numeral "0")))) σ =
        some (.proceed (scope.extend ns σ.cells.length),
          σ.addCells (List.replicate ns.length (.number 0))) := by
  induction ns generalizing scope σ with
  | nil => simpa [Stat.statementsAll, Scope.extend, Store.addCells] using Lua.run_nil
  | cons n ns ih =>
    have hcells : (σ.addCells [.number 0]).cells.length = σ.cells.length + 1 := by
      simp [Store.addCells]
    refine (Lua.run_proceed (Lua.execute_declare evaluate_zero)).trans ((ih _ _).trans ?_)
    rw [hcells]
    simp [Scope.extend, Store.addCells, List.replicate_succ]

theorem holds_declared (s : Storage) (g : Table)
    : s.Holds (fun n => if n ∈ s.fast then .number 0 else g.get (.string (namespaced n)))
        ((start g).addCells (List.replicate s.fast.length (.number 0))) := by
  constructor
  case runtime => rfl
  case self => exact congrArg some (Table.get_set g _ _ _ |>.trans (if_pos rfl))
  case size => simp [Store.addCells, start]
  case cell =>
    intro n hn a ha
    obtain ⟨b, hne, hle, hb⟩ := lookup_fast hn
    obtain rfl : a = b := Option.some.inj (ha.symm.trans hb)
    rw [if_pos hn, Store.cell?, Store.addCells]
    rw [List.getElem?_append_right (by simp [start]; omega), List.getElem?_replicate]
    exact if_pos (by simp [start]; omega)
  case field =>
    intro n hn
    rw [if_neg hn]
    refine congrArg some ((Table.get_set g _ _ _).trans (if_neg ?_))
    simpa using namespaced_ne_globals n

theorem run_start (hbare : ∀ n ∈ s.fast, isBare n) (g : Table)
    : ∃ σ, Lua.run [("__pulp", 0)] (Stat.statementsAll (s.declare ++ s.access)) (start g) =
          some (.proceed s.scope, σ) ∧
        s.Holds (fun n => if n ∈ s.all then .number 0 else g.get (.string (namespaced n))) σ ∧
        s.Ready σ := by
  have hstatements : Stat.statementsAll (s.declare ++ s.access) =
      Stat.statementsAll (s.fast.map fun n => .action (.declare n (.numeral "0"))) ++
        (Stat.statementsAll (s.dynamic.map reset) ++ Stat.statementsAll s.access) := by
    simp [Stat.statementsAll_eq, declare]
  obtain ⟨σ₁, hresets, hholds₁, hcode⟩ :=
    run_resets hbare s.sees_self (holds_declared s g) s.dynamic
  have hcontent : (fun n => if n ∈ s.dynamic then Value.number 0
      else if n ∈ s.fast then .number 0 else g.get (.string (namespaced n))) =
      fun n => if n ∈ s.all then .number 0 else g.get (.string (namespaced n)) := by
    funext n
    by_cases hfast : n ∈ s.fast <;> by_cases hdynamic : n ∈ s.dynamic <;>
      simp [all, hfast, hdynamic]
  rw [hcontent] at hholds₁
  obtain ⟨σ₂, haccess, hholds₂, hready⟩ := run_access hbare hholds₁ hcode
  refine ⟨σ₂, ?_, hholds₂, hready⟩
  rw [hstatements, Lua.run_append, run_declares]
  refine (Lua.run_append _ _).trans ?_
  have hscope : Scope.extend [("__pulp", 0)] s.fast (start g).cells.length = s.scope := rfl
  rw [hscope, hresets]
  exact haccess

theorem code_fits (step : Step) : step.code.Fits := by
  have hfield := Program.runtimeField_fits
  have hevent : (Lua.Expr.name "event").Fits := .name rfl
  cases step with
  | read n => exact .action (.giveBack (place_fits n))
  | write n v => exact .action (.assign (place_isPlace n) (place_fits n) hevent)
  | ask n => exact .action (.giveBack (.call rfl (hfield _) (by simp [Lua.Expr.Fits.string])))
  | tell n v =>
    exact .action (.call rfl (.call rfl (hfield _) (by simp [Lua.Expr.Fits.string, hevent])))
  | reset => exact .action (.call rfl (.call rfl (hfield _) (by simp)))

def handling (s : Storage) (σ : Store) : Scope :=
  s.scope.extend ["__self", "event"] σ.cells.length

theorem perform_eq (s : Storage) (step : Step) (σ : Store)
    : step.perform s.scope σ = (Lua.run (s.handling σ) step.code.statements
        (σ.addCells [.nil, step.event])).map fun (outcome, σ) => (outcome.values, σ) := by
  have hparse : Lua.parse (Lua.chunkText [step.code]) = some step.code.statements := by
    rw [Lua.parse_chunk (by simp [code_fits]) (by simp), Stat.statementsAll, Stat.statementsAll,
      List.append_nil]
  rw [Step.perform, hparse]
  exact Lua.enter_eq _ _

theorem perform_step (hbare : ∀ n ∈ s.fast, isBare n) {known : List String} {g : Table}
    {past : List Step} (hknown : ∀ n, n ∈ s.all ↔ n ∈ known)
    (h : s.Holds (current known g past) σ) (hready : s.Ready σ) (step : Step)
    : ∃ σ', step.perform s.scope σ = some (step.answer (current known g past), σ') ∧
        s.Holds (current known g (step :: past)) σ' ∧ s.Ready σ' := by
  have hps : ∀ p ∈ ["__self", "event"], isBare p = false ∧ p ≠ "_G" ∧ p ≠ "__pulp" := by decide
  have hsees : s.Sees (s.handling σ) := sees_extend s hps _
  have hinside := h.addCells [.nil, step.event]
  have hevent : Lua.evaluate (s.handling σ) (.name "event") (σ.addCells [.nil, step.event]) =
      some (step.event, σ.addCells [.nil, step.event]) := by
    have hlookup : (s.handling σ).lookup "event" = some (σ.cells.length + 1) := rfl
    apply Lua.evaluate_local hlookup
    simp [Store.cell?, Store.addCells]
  rw [perform_eq]
  -- Handlers read and write places; the other steps go through the functions of the runtime.
  cases step with
  | read n =>
    have hplace := evaluate_place hbare hsees hinside n
    have hrun := Lua.run_leave []
      (Lua.execute_giveBack (Lua.evaluateAll_one (isCall_place n) hplace))
    exact ⟨_, congrArg _ hrun, hinside, hready⟩
  | write n v =>
    obtain ⟨σ', hassign, hholds, hcode⟩ := assign_place hbare hsees hinside hevent n
    have hrun := (Lua.run_proceed hassign).trans Lua.run_nil
    refine ⟨σ', congrArg _ hrun, ?_, hcode.trans hready⟩
    rwa [current_write]
  | ask n =>
    have hname : functions.get (.string "getvariable") = .function 1 := rfl
    obtain ⟨σ', henter, hholds, hready'⟩ := enter_getting hbare hinside hready n
    have hresults := (results_runtime hbare hsees hinside hready hname rfl
      (Lua.evaluateAll_one rfl (Lua.evaluate_string n))).trans henter
    have hrun := Lua.run_leave [] (Lua.execute_giveBack (Lua.evaluateAll_call hresults))
    exact ⟨σ', congrArg _ hrun, hholds, hready'⟩
  | tell n v =>
    have hname : functions.get (.string "setvariable") = .function 0 := rfl
    have hxs := Lua.evaluateAll_cons (Lua.evaluate_string n) (Lua.evaluateAll_one rfl hevent)
    obtain ⟨σ', henter, hholds, hready'⟩ := enter_setting hbare hinside hready n v
    have hresults := (results_runtime hbare hsees hinside hready hname rfl hxs).trans henter
    have hrun := (Lua.run_proceed (Lua.execute_call (Lua.evaluate_call hresults))).trans Lua.run_nil
    refine ⟨σ', congrArg _ hrun, ?_, hready'⟩
    rwa [current_tell]
  | reset =>
    have hname : functions.get (.string "resetvars") = .function 2 := rfl
    obtain ⟨σ', henter, hholds, hready'⟩ := enter_resetting hbare hinside hready
    have hresults :=
      (results_runtime hbare hsees hinside hready hname rfl Lua.evaluateAll_nil).trans henter
    have hrun := (Lua.run_proceed (Lua.execute_call (Lua.evaluate_call hresults))).trans Lua.run_nil
    refine ⟨σ', congrArg _ hrun, ?_, hready'⟩
    have hcurrent : current known g (.reset :: past) =
        fun n => if n ∈ s.all then .number 0 else current known g past n := by
      funext n
      simp only [current, hknown]
    rwa [hcurrent]

theorem play_eq (hbare : ∀ n ∈ s.fast, isBare n) {known : List String} {g : Table}
    (hknown : ∀ n, n ∈ s.all ↔ n ∈ known) (past steps : List Step)
    (h : s.Holds (current known g past) σ) (hready : s.Ready σ)
    : play s.scope steps σ = some (expected known g past steps) := by
  induction steps generalizing past σ with
  | nil => rfl
  | cons step steps ih =>
    obtain ⟨σ', hstep, hholds, hready'⟩ := perform_step hbare hknown h hready step
    rw [play, hstep]
    simp [ih (step :: past) hholds hready', expected]

end Storage

/-- Variables are one memory, however they are read and written and wherever they are kept. -/
theorem outputs_eq_expected {usage : List (String × Nat)} {capacity : Nat} {s : Storage}
    (h : Storage.allot usage capacity = .ok s) (g : Table) (steps : List Step)
    : s.outputs g steps = some (expected (usage.map (·.1)) g [] steps) := by
  have hbare := Storage.isBare_of_allot h
  have hknown (n : String) : n ∈ s.all ↔ n ∈ usage.map (·.1) := Storage.mem_all_of_allot h
  obtain ⟨σ, hrun, hholds, hready⟩ := Storage.run_start hbare g
  have hcurrent : (fun n => if n ∈ s.all then Value.number 0 else g.get (.string (namespaced n))) =
      current (usage.map (·.1)) g [] := by
    funext n
    simp only [current, hknown]
  rw [hcurrent] at hholds
  rw [Storage.outputs, parse_declare_access hbare]
  simpa [hrun] using Storage.play_eq hbare hknown [] steps hholds hready

theorem outputs_gold_event
    : Storage.allot [("gold", 2), ("event", 1)] 8 = .ok ⟨["gold"], ["event"]⟩ ∧
      Storage.outputs ⟨["gold"], ["event"]⟩ []
          [.tell "gold" (.number 3), .read "gold", .write "event" (.string "x"), .ask "event", .reset,
            .read "event", .ask "gold", .write "lost" (.boolean true), .ask "lost"] =
        some [[], [.number 3], [], [.string "x"], [], [.number 0], [.number 0], [], [.boolean true]] := by
  have hranked : ranked [("gold", 2), ("event", 1)] = ["gold", "event"] := by
    rw [ranked, List.mergeSort_of_pairwise (by decide)]
    rfl
  have hallot : Storage.allot [("gold", 2), ("event", 1)] 8 = .ok ⟨["gold"], ["event"]⟩ := by
    unfold Storage.allot
    rw [hranked]
    rfl
  refine ⟨hallot, ?_⟩
  rw [outputs_eq_expected hallot]
  decide +kernel

end PulpGame.Variable
