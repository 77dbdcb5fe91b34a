import PulpGame.Mimic.Plan
import PulpGame.Proofs.Mimic.Execution
import PulpGame.Proofs.Script.Code

namespace PulpGame.Mimic

open Lua (Value Term Statement)

variable {rt : Runtime} {locals : Locals} {σ : Handlers}

theorem isFunction_fits
    : (Lua.Expr.binary "==" (.call (.name "type") [.name "fn"]) (.string "function")).Fits := by
  have hcall : (Lua.Expr.call (.name "type") [.name "fn"]).Fits := by
    apply Lua.Expr.Fits.call rfl (.name rfl)
    simpa using Lua.Expr.Fits.name rfl
  exact .binary rfl (by decide) (by decide) hcall .string

theorem resolve_fits (r : Request) : r.resolve.Fits ∧ r.resolve.isLast = false := by
  have hscript := Program.script_fits
  unfold Request.resolve
  dsimp only
  split
  . have hown : (Lua.Expr.index (Program.script r.script) (.name "name")).Fits :=
      .index rfl (hscript _) (.name rfl)
    have hcopy : (Lua.Stat.action (.assign
        (.index (Program.script r.script) (.name "name")) (.name "fn"))).Fits :=
      .action (.assign rfl hown (.name rfl))
    refine ⟨.forPairs rfl rfl (hscript _) ?_ (by simp), rfl⟩
    rw [List.forall_mem_singleton]
    refine .branch ?_ ?_ (by simp)
    . exact .binary rfl (Nat.lt_succ_self _) (by decide) (.negation (Nat.lt_succ_self _) hown)
        isFunction_fits
    . rwa [List.forall_mem_singleton]
  . have hfield (s e : String) : (Lua.Expr.field (Program.script s) e).Fits :=
      .field rfl (hscript s)
    have hreach : Lua.Expr.reach "or" < Lua.unaryPriority + 1 := by decide
    refine ⟨.action (.assign rfl (hfield _ _) ?_), rfl⟩
    exact .binary rfl (Nat.lt_succ_self _) hreach (hfield _ _) (hfield _ _)

theorem plan_resolve_fits (p : Plan) (passes : Nat)
    : ∀ st ∈ p.resolve passes, st.Fits ∧ st.isLast = false := by
  have hrequests (rs : List Request)
      : ∀ st ∈ rs.map Request.resolve, st.Fits ∧ st.isLast = false := by
    intro st hst
    obtain ⟨r, -, rfl⟩ := List.mem_map.mp hst
    exact resolve_fits r
  unfold Plan.resolve
  rw [List.forall_mem_append]
  refine ⟨hrequests _, ?_⟩
  split
  . simp
  . rw [List.forall_mem_singleton]
    refine ⟨.forCount rfl (.numeral (.plain (Lua.isDecimal_nat passes))) ?_ ?_, rfl⟩
    . exact fun st hst => (hrequests _ st hst).1
    . intro st hst
      simp [(hrequests _ st (List.dropLast_subset _ hst)).2]

theorem spells_code (p : Plan) (passes : Nat)
    : Lua.Spells Lua.anyChar (p.code passes) (Lua.Stat.tokensAll (p.resolve passes)) := by
  have hfits := plan_resolve_fits p passes
  unfold Plan.code
  generalize p.resolve passes = body at hfits
  cases body with
  | nil => exact Lua.Spells.empty
  | cons st body =>
    have hcomment : (Lua.Stat.comment "mimics").Fits := .comment rfl
    exact Lua.spells_break.append_anyChar (Lua.spells_chunk
      (List.forall_mem_cons.mpr ⟨hcomment, fun s hs => (hfits s hs).1⟩))

theorem parse_code (p : Plan) (passes : Nat)
    : Lua.parse (p.code passes) = some (Lua.Stat.statementsAll (p.resolve passes)) := by
  have hfits := plan_resolve_fits p passes
  apply Lua.parse_spelled (spells_code p passes)
  . exact fun s hs => (hfits s hs).1
  . intro s hs
    simp [(hfits s (List.dropLast_subset _ hs)).2]

namespace Handlers

variable (σ : Handlers) (a b c : Nat) (n m : String)

def fill : Handlers where
  get c n := if c = a then (σ.get a n).or (σ.get b n) else σ.get c n
  finite c := by
    apply ((σ.finite c).union ((σ.finite a).union (σ.finite b))).subset
    intro n hn
    by_cases h : c = a
    . exact .inr (by simpa [h] using hn)
    . exact .inl (by simpa [h] using hn)

def fillOne : Handlers := σ.set a n ((σ.get a n).or (σ.get b n))

theorem get_set (f : Option Nat)
    : (σ.set a n f).get c m = if c = a ∧ m = n then f else σ.get c m := rfl

theorem get_fill
    : (σ.fill a b).get c n = if c = a then (σ.get a n).or (σ.get b n) else σ.get c n := rfl

theorem get_fillOne
    : (σ.fillOne a b n).get c m =
        if c = a ∧ m = n then (σ.get a m).or (σ.get b m) else σ.get c m := by
  rw [fillOne, get_set]
  split
  . next h => rw [h.2]
  . rfl

theorem get_fillOne_source : (σ.fillOne a b n).get b m = σ.get b m := by
  rw [get_fillOne]
  split
  . next h => simp [h.1]
  . rfl

theorem get_foldl_fillOne (names : List String)
    : (names.foldl (fun σ n => σ.fillOne a b n) σ).get c m =
        if c = a ∧ m ∈ names then (σ.get a m).or (σ.get b m) else σ.get c m := by
  induction names generalizing σ with
  | nil => simp
  | cons n names ih =>
    rw [List.foldl_cons, ih, get_fillOne_source]
    simp only [get_fillOne, List.mem_cons, true_and]
    by_cases hc : c = a
    . by_cases hm : m = n
      . simp [hc, hm, Option.or_assoc]
      . simp [hc, hm]
    . simp [hc]

theorem exists_enumerates : ∃ names, σ.Enumerates a names := by
  refine ⟨(σ.finite a).toFinset.toList, Finset.nodup_toList _, ?_⟩
  simp

theorem foldl_fillOne {names : List String} (h : σ.Enumerates b names)
    : names.foldl (fun σ n => σ.fillOne a b n) σ = σ.fill a b := by
  apply Handlers.ext
  funext c m
  rw [get_foldl_fillOne, get_fill]
  by_cases hc : c = a
  . by_cases hm : m ∈ names
    . simp [hc, hm]
    . have hnone : σ.get b m = none := by
        rw [← Option.not_isSome_iff_eq_none, ← h.2]
        exact hm
      simp [hc, hm, hnone]
  . simp [hc]

end Handlers

def Request.apply (rt : Runtime) (r : Request) (σ : Handlers) : Handlers :=
  let script := rt.table r.script
  let target := rt.table r.target
  if r.isWildcard then σ.fill script target
  else σ.set script r.event ((σ.get target r.event).or (σ.get target anyEvent))

theorem handler?_elim (f : Option Nat) : handler? (f.elim .nil .function) = some f := by
  cases f <;> rfl

theorem followedBy_singleton (σ : Handlers) (f : Handlers → Outcomes)
    : Outcomes.followedBy {some σ} f = f σ := by
  simp [Outcomes.followedBy]

theorem followedBy_pure (os : Outcomes) : os.followedBy (fun σ => {some σ}) = os := by
  ext o
  cases o <;> simp [Outcomes.followedBy]

theorem followedBy_assoc (os : Outcomes) (f g : Handlers → Outcomes)
    : (os.followedBy f).followedBy g = os.followedBy fun σ => (f σ).followedBy g := by
  ext o
  simp only [Outcomes.followedBy, Set.mem_ofPred_eq]
  constructor
  . rintro (⟨⟨hnone, -⟩ | ⟨σ, hσ, hnone⟩, rfl⟩ | ⟨τ, ⟨-, hτ⟩ | ⟨σ, hσ, hτ⟩, ho⟩)
    . exact .inl ⟨hnone, rfl⟩
    . exact .inr ⟨σ, hσ, .inl ⟨hnone, rfl⟩⟩
    . cases hτ
    . exact .inr ⟨σ, hσ, .inr ⟨τ, hτ, ho⟩⟩
  . rintro (⟨hnone, rfl⟩ | ⟨σ, hσ, ⟨hnone, rfl⟩ | ⟨τ, hτ, ho⟩⟩)
    . exact .inl ⟨.inl ⟨hnone, trivial⟩, rfl⟩
    . exact .inl ⟨.inr ⟨σ, hσ, hnone⟩, rfl⟩
    . exact .inr ⟨τ, .inr ⟨σ, hσ, hτ⟩, ho⟩

section

-- The equations are made here, once, and not by all the proofs below at the same time.
attribute [local simp] evaluate outcomes outcomesAll

theorem evaluate_script (s : String)
    : evaluate rt locals σ (Program.script s).term = some (.table (rt.table s)) := by
  simp [Program.script, Program.runtime, Lua.Expr.term, Lua.Expr.terms]

theorem evaluate_field (s e : String)
    : evaluate rt locals σ (Lua.Expr.field (Program.script s) e).term =
        some ((σ.get (rt.table s) e).elim .nil .function) := by
  simp [Lua.Expr.term, evaluate_script, Handlers.field?]

theorem outcomesAll_singleton (s : Statement)
    : outcomesAll rt locals σ [s] = outcomes rt locals σ s := by
  simp [followedBy_pure]

end

theorem outcomes_take (s t e : String)
    : outcomes rt locals σ (.assign [(Lua.Expr.field (Program.script s) e).term]
        [.binary "or" (Lua.Expr.field (Program.script t) e).term
          (Lua.Expr.field (Program.script t) anyEvent).term]) =
      {some (σ.set (rt.table s) e ((σ.get (rt.table t) e).or (σ.get (rt.table t) anyEvent)))} := by
  have hvalue : evaluate rt locals σ (.binary "or" (Lua.Expr.field (Program.script t) e).term
      (Lua.Expr.field (Program.script t) anyEvent).term) =
        some (((σ.get (rt.table t) e).or (σ.get (rt.table t) anyEvent)).elim .nil .function) := by
    rw [evaluate, evaluate_field, evaluate_field]
    cases σ.get (rt.table t) e with
    | none => simp [Lua.Value.isTrue]
    | some f => simp [Lua.Value.isTrue]
  rw [Lua.Expr.term, outcomes, hvalue, evaluate_script]
  simp [evaluate, handler?_elim]

theorem fillOne_eq_self {a b : Nat} {n : String} (h : (σ.get a n).isSome ∨ σ.get b n = none)
    : σ.fillOne a b n = σ := by
  apply Handlers.ext
  funext c m
  rw [Handlers.get_fillOne]
  split
  . next heq =>
    obtain ⟨rfl, rfl⟩ := heq
    rcases h with h | h
    . exact Option.or_of_isSome h
    . rw [h, Option.or_none]
  . rfl

def copying (s : String) : Statement :=
  .choose (.binary "and" (.unary "not" (.index (Program.script s).term (.name "name")))
      (.binary "==" (.call (.name "type") [.name "fn"]) (.string "function")))
    [.assign [.index (Program.script s).term (.name "name")] [.name "fn"]] []

theorem outcomes_copying {s n : String} {b f : Nat} (hf : σ.get b n = some f) {inner : Locals}
    (hname : inner.lookup "name" = some (.string n)) (hfn : inner.lookup "fn" = some (.function f))
    : outcomesAll rt inner σ [copying s] = {some (σ.fillOne (rt.table s) b n)} := by
  have hown : evaluate rt inner σ (.index (Program.script s).term (.name "name")) =
      some ((σ.get (rt.table s) n).elim .nil .function) := by
    simp [evaluate, evaluate_script, hname, Handlers.field?]
  have hfunction : evaluate rt inner σ (.binary "==" (.call (.name "type") [.name "fn"])
      (.string "function")) = some (.boolean true) := by
    simp [evaluate, hfn, typeName, Lua.binary?]
  have hcondition : evaluate rt inner σ
      (.binary "and" (.unary "not" (.index (Program.script s).term (.name "name")))
        (.binary "==" (.call (.name "type") [.name "fn"]) (.string "function"))) =
      some (.boolean (σ.get (rt.table s) n).isNone) := by
    rw [evaluate, evaluate, hown, hfunction]
    cases σ.get (rt.table s) n <;> simp [Lua.unaryValue?, Lua.Value.isTrue]
  rw [outcomesAll_singleton, copying, outcomes, hcondition]
  cases hold : σ.get (rt.table s) n with
  | some g =>
    rw [fillOne_eq_self (.inl (by simp [hold]))]
    simp [Lua.Value.isTrue, outcomesAll]
  | none =>
    simp only [Option.isNone_none, Lua.Value.isTrue, if_true, outcomesAll_singleton]
    rw [outcomes, evaluate_script]
    simp [evaluate, hname, hfn, handler?, Handlers.fillOne, hold, hf]

theorem traverse_copying (s : String) (b : Nat) (names : List String)
    : traverse b (fun n f σ =>
        outcomesAll rt (("fn", .function f) :: ("name", .string n) :: locals) σ [copying s]) names σ =
        {some (names.foldl (fun σ n => σ.fillOne (rt.table s) b n) σ)} := by
  induction names generalizing σ with
  | nil => rfl
  | cons n names ih =>
    rw [traverse, List.foldl_cons]
    split
    . next hnone =>
      rw [ih, fillOne_eq_self (.inr hnone)]
    . next f hf =>
      have hold : ¬σ.HasNew (σ.fillOne (rt.table s) b n) b := by
        rintro ⟨m, hnone, hsome⟩
        rw [Handlers.get_fillOne_source, hnone] at hsome
        cases hsome
      rw [outcomes_copying hf rfl rfl, followedBy_singleton, if_neg hold, ih]

theorem outcomes_forEach (s t : String)
    : outcomes rt locals σ (.forEach ["name", "fn"]
        [.call (.name "pairs") [(Program.script t).term]] [copying s]) =
        {some (σ.fill (rt.table s) (rt.table t))} := by
  obtain ⟨names, hnames⟩ := σ.exists_enumerates (rt.table t)
  rw [outcomes, evaluate_script]
  ext o
  simp only [traverse_copying, Set.mem_ofPred_eq, Set.mem_singleton_iff]
  constructor
  . rintro ⟨names, hnames, rfl⟩
    rw [Handlers.foldl_fillOne _ _ _ hnames]
  . rintro rfl
    exact ⟨names, hnames, by rw [Handlers.foldl_fillOne _ _ _ hnames]⟩

theorem outcomes_resolve (r : Request)
    : outcomesAll rt locals σ r.resolve.statements = {some (r.apply rt σ)} := by
  unfold Request.resolve Request.apply
  dsimp only
  split
  . exact (outcomesAll_singleton _).trans (outcomes_forEach _ _)
  . exact (outcomesAll_singleton _).trans (outcomes_take _ _ _)

def applyAll (rt : Runtime) (rs : List Request) (σ : Handlers) : Handlers :=
  rs.foldl (fun σ r => r.apply rt σ) σ

def Plan.apply (rt : Runtime) (p : Plan) (passes : Nat) (σ : Handlers) : Handlers :=
  (applyAll rt p.cyclicRequests)^[passes] (applyAll rt p.orderedRequests σ)

theorem applyAll_append (rs qs : List Request)
    : applyAll rt (rs ++ qs) σ = applyAll rt qs (applyAll rt rs σ) :=
  List.foldl_append

theorem outcomesAll_append (ss ts : List Statement)
    : outcomesAll rt locals σ (ss ++ ts) =
        (outcomesAll rt locals σ ss).followedBy fun σ => outcomesAll rt locals σ ts := by
  induction ss generalizing σ with
  | nil => simp [outcomesAll, followedBy_singleton]
  | cons s ss ih =>
    rw [List.cons_append, outcomesAll, outcomesAll, followedBy_assoc]
    simp only [ih]

theorem outcomes_requests (rs : List Request)
    : outcomesAll rt locals σ (Lua.Stat.statementsAll (rs.map Request.resolve)) =
        {some (applyAll rt rs σ)} := by
  induction rs generalizing σ with
  | nil => simp [Lua.Stat.statementsAll, outcomesAll, applyAll]
  | cons r rs ih =>
    rw [List.map_cons, Lua.Stat.statementsAll, outcomesAll_append, outcomes_resolve,
      followedBy_singleton, ih]
    rfl

theorem count_singleton (f : Handlers → Handlers) (n : Nat)
    : count (fun _ σ => {some (f σ)}) n σ = {some (f^[n] σ)} := by
  induction n with
  | zero => rfl
  | succ n ih => rw [count, ih, followedBy_singleton, Function.iterate_succ_apply']

theorem outcomes_section (p : Plan) (passes : Nat)
    : outcomesAll rt locals σ (Lua.Stat.statementsAll (p.resolve passes)) =
        {some (p.apply rt passes σ)} := by
  unfold Plan.resolve
  rw [Lua.Stat.statementsAll_eq, List.flatMap_append, ← Lua.Stat.statementsAll_eq,
    ← Lua.Stat.statementsAll_eq, outcomesAll_append, outcomes_requests, followedBy_singleton]
  unfold Plan.apply
  split
  . next hnone =>
    have hcyclic : p.cyclicRequests = [] := by
      rw [List.isEmpty_iff] at hnone
      simp [Plan.cyclicRequests, hnone]
    have hid : applyAll rt [] = id := rfl
    simp [hcyclic, hid, Lua.Stat.statementsAll, outcomesAll]
  . have hlast : (Lua.Expr.numeral (toString passes)).term = .numeral (toString passes) :=
      Lua.numeralTerm_of_isDecimal (Lua.isDecimal_nat passes)
    have hcount : (toString passes).toNat? = some passes := Nat.toNat?_repr passes
    rw [Lua.Stat.statementsAll, Lua.Stat.statementsAll, List.append_nil, Lua.Stat.statements,
      outcomesAll_singleton, hlast, outcomes, hcount]
    simp only [outcomes_requests, count_singleton]

end PulpGame.Mimic
