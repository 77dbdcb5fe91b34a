import PulpGame.Proofs.Mimic.Closure
/-!
When mimics leave scripts the handlers that they had.

A request for one event stores what it finds, and if it finds nothing, the script is left without a
handler. What the section does is compared with requests that only add handlers.
-/

namespace PulpGame.Mimic

abbrev Holdings := Set (String × String)

variable {r : Request} {rs : List Request} {xs ys : Holdings} {p : String × String}

def Request.Gives (r : Request) (xs : Holdings) (e : String) : Prop :=
  if r.isWildcard then (r.target, e) ∈ xs
  else e = r.event ∧ ((r.target, r.event) ∈ xs ∨ (r.target, anyEvent) ∈ xs)

def Request.IsVain (r : Request) (xs : Holdings) : Prop :=
  r.isWildcard = false ∧ (r.target, r.event) ∉ xs ∧ (r.target, anyEvent) ∉ xs

def Request.extend (r : Request) (xs : Holdings) : Holdings :=
  {p | p ∈ xs ∨ p.1 = r.script ∧ r.Gives xs p.2}

/-- The request stores what it finds, also if this is nothing. -/
def Request.store (r : Request) (xs : Holdings) : Holdings :=
  {p | p ∈ r.extend xs ∧ ¬(r.IsVain xs ∧ p = (r.script, r.event))}

theorem Request.IsVain.not_gives (h : r.IsVain xs) (e : String) : ¬r.Gives xs e := by
  obtain ⟨hwildcard, hevent, hany⟩ := h
  simp [Gives, hwildcard, hevent, hany]

theorem Request.IsVain.anti (hsub : xs ⊆ ys) (h : r.IsVain ys) : r.IsVain xs :=
  ⟨h.1, fun hmem => h.2.1 (hsub hmem), fun hmem => h.2.2 (hsub hmem)⟩

theorem Request.subset_extend (r : Request) (xs : Holdings) : xs ⊆ r.extend xs :=
  fun _ hp => .inl hp

theorem Request.store_eq_extend (h : ¬r.IsVain xs) : r.store xs = r.extend xs := by
  ext p
  simp [store, h]

theorem Request.not_mem_store (h : r.IsVain xs) : (r.script, r.event) ∉ r.store xs :=
  fun hp => hp.2 ⟨h, rfl⟩

def extendAll (rs : List Request) (xs : Holdings) : Holdings :=
  rs.foldl (fun xs r => r.extend xs) xs

def storeAll (rs : List Request) (xs : Holdings) : Holdings :=
  rs.foldl (fun xs r => r.store xs) xs

theorem extendAll_append (rs qs : List Request) (xs : Holdings)
    : extendAll (rs ++ qs) xs = extendAll qs (extendAll rs xs) :=
  List.foldl_append

theorem storeAll_append (rs qs : List Request) (xs : Holdings)
    : storeAll (rs ++ qs) xs = storeAll qs (storeAll rs xs) :=
  List.foldl_append

theorem subset_extendAll (rs : List Request) (xs : Holdings) : xs ⊆ extendAll rs xs := by
  induction rs generalizing xs with
  | nil => exact subset_rfl
  | cons r rs ih => exact (r.subset_extend xs).trans (ih _)

theorem storeAll_eq_extendAll (h : ∀ r ∈ rs, ¬r.IsVain xs) : storeAll rs xs = extendAll rs xs := by
  induction rs generalizing xs with
  | nil => rfl
  | cons r rs ih =>
    rw [List.forall_mem_cons] at h
    have hstore : r.store xs = r.extend xs := Request.store_eq_extend h.1
    -- Nothing is lost on the way, so later requests find what they would find in the beginning.
    have hrest : storeAll rs (r.extend xs) = extendAll rs (r.extend xs) :=
      ih fun q hq hvain => h.2 q hq (hvain.anti (r.subset_extend xs))
    rw [← hstore] at hrest
    rw [storeAll, List.foldl_cons, ← storeAll, hrest, hstore]
    rfl

theorem storeAll_eq_extendAll_iff (hown : ∀ r ∈ rs, (r.script, r.event) ∈ xs)
    : (∀ done, done <+: rs → storeAll done xs = extendAll done xs) ↔
        ∀ done r, done ++ [r] <+: rs → ¬r.IsVain (storeAll done xs) := by
  constructor
  . intro h done r hdone hvain
    -- Adding keeps the handler that the request is for, and a request in vain takes it away.
    have hmem : (r.script, r.event) ∈ storeAll (done ++ [r]) xs := by
      rw [h _ hdone]
      exact subset_extendAll _ _ (hown r (hdone.subset (by simp)))
    rw [storeAll_append] at hmem
    exact Request.not_mem_store hvain hmem
  . intro h done hdone
    induction done using List.reverseRecOn with
    | nil => rfl
    | append_singleton done r ih =>
      have hstore := Request.store_eq_extend (h done r hdone)
      rw [ih ((List.prefix_append done [r]).trans hdone)] at hstore
      rw [storeAll_append, extendAll_append, ih ((List.prefix_append done [r]).trans hdone)]
      exact hstore

def IsGiven : List Request → Holdings → String × String → Prop
  | [], _, _ => False
  | r :: rs, xs, p => p.1 = r.script ∧ r.Gives xs p.2 ∨ IsGiven rs (r.store xs) p

/-- Whenever a request takes the handler of the script for the event away, a later one finds one. -/
def IsRestored : List Request → Holdings → String × String → Prop
  | [], _, _ => True
  | r :: rs, xs, p =>
    (r.IsVain xs → p = (r.script, r.event) → IsGiven rs (r.store xs) p) ∧
      IsRestored rs (r.store xs) p

theorem mem_storeAll_iff
    : p ∈ storeAll rs xs ↔ (p ∈ xs ∨ IsGiven rs xs p) ∧ IsRestored rs xs p := by
  induction rs generalizing xs with
  | nil => simp [storeAll, IsGiven, IsRestored]
  | cons r rs ih =>
    have hstore : p ∈ r.store xs ↔ (p ∈ xs ∨ p.1 = r.script ∧ r.Gives xs p.2) ∧
        ¬(r.IsVain xs ∧ p = (r.script, r.event)) := .rfl
    rw [storeAll, List.foldl_cons, ← storeAll, ih, hstore, IsGiven, IsRestored]
    -- A request in vain gives nothing, so it only matters what comes behind it.
    have hnot : r.IsVain xs → ¬r.Gives xs p.2 := fun hvain => hvain.not_gives p.2
    grind

theorem isRestored_of_ne (h : ∀ r ∈ rs, p ≠ (r.script, r.event)) : IsRestored rs xs p := by
  induction rs generalizing xs with
  | nil => trivial
  | cons r rs ih =>
    rw [List.forall_mem_cons] at h
    exact ⟨fun _ heq => absurd heq h.1, ih h.2⟩

variable {rt : Runtime} {σ : Handlers}

def holdings (rt : Runtime) (σ : Handlers) : Holdings :=
  {p | (σ.get (rt.table p.1) p.2).isSome}

theorem holdings_apply (r : Request) : holdings rt (r.apply rt σ) = r.store (holdings rt σ) := by
  ext ⟨s, e⟩
  cases hwildcard : r.isWildcard with
  | true =>
    have hvain : ¬r.IsVain (holdings rt σ) := by simp [Request.IsVain, hwildcard]
    rw [Request.store_eq_extend hvain]
    simp only [holdings, Request.extend, Request.Gives, Request.apply, hwildcard, if_true,
      Set.mem_ofPred_eq, Handlers.get_fill, rt.injective.eq_iff]
    split
    . next hs => simp [hs]
    . next hs => simp [hs]
  | false =>
    simp only [holdings, Request.store, Request.extend, Request.Gives, Request.IsVain,
      Request.apply, hwildcard, Bool.false_eq_true, if_false, Set.mem_ofPred_eq, Handlers.get_set,
      rt.injective.eq_iff, Prod.mk.injEq]
    split
    . next h =>
      obtain ⟨rfl, rfl⟩ := h
      rw [Option.isSome_or, Bool.or_eq_true]
      tauto
    . next h => tauto

theorem holdings_applyAll (rs : List Request)
    : holdings rt (applyAll rt rs σ) = storeAll rs (holdings rt σ) := by
  induction rs generalizing σ with
  | nil => rfl
  | cons r rs ih =>
    rw [storeAll, List.foldl_cons, ← storeAll, ← holdings_apply, ← ih]
    rfl

def Plan.turns (p : Plan) (passes : Nat) : List Request :=
  p.orderedRequests ++ (List.replicate passes p.cyclicRequests).flatten

theorem Plan.apply_eq (p : Plan) (passes : Nat)
    : p.apply rt passes σ = applyAll rt (p.turns passes) σ := by
  rw [apply, turns, applyAll_append]
  generalize applyAll rt p.orderedRequests σ = τ
  induction passes generalizing τ with
  | zero => rfl
  | succ n ih =>
    rw [Function.iterate_succ_apply, ih, List.replicate_succ, List.flatten_cons, applyAll_append]

theorem Plan.Resolves.mem_of_turns {requests : List Request} {p : Plan} (h : p.Resolves requests)
    {passes : Nat} (hr : r ∈ p.turns passes) : r ∈ requests := by
  apply h.perm.subset
  rw [Plan.turns, List.mem_append, List.mem_flatten] at hr
  rw [List.mem_append]
  apply hr.imp_right
  rintro ⟨rs, hrs, hmem⟩
  rwa [List.eq_of_mem_replicate hrs] at hmem

/-- If scripts have the handlers that their requests are for, the section leaves all scripts all
handlers if and only if each one that is taken away, by a request that is in vain, is given back by
a later request. It does the same as requests that only add handlers, request by request, if and
only if none is in vain when its turn comes; for this it is enough that none is in the beginning. -/
theorem section_retains (rt : Runtime) {requests : List Request} (passes : Nat) {σ : Handlers}
    (hown : ∀ r ∈ requests, (σ.get (rt.table r.script) r.event).isSome)
    : let held := holdings rt σ
      let turns := (plan requests).turns passes
      ∃ statements σ', Lua.parse ((plan requests).code passes) = some statements ∧
        outcomesAll rt [] σ statements = {some σ'} ∧
        (∀ done, done <+: turns → ∃ τ,
          outcomesAll rt [] σ (Lua.Stat.statementsAll (done.map Request.resolve)) = {some τ} ∧
            holdings rt τ = storeAll done held) ∧
        holdings rt σ' = storeAll turns held ∧
        (held ⊆ holdings rt σ' ↔ ∀ r ∈ requests, IsRestored turns held (r.script, r.event)) ∧
        ((∀ done, done <+: turns → storeAll done held = extendAll done held) ↔
          ∀ done r, done ++ [r] <+: turns → ¬r.IsVain (storeAll done held)) ∧
        ((∀ r ∈ requests, ¬r.IsVain held) →
          held ⊆ holdings rt σ' ∧ holdings rt σ' = extendAll turns held) := by
  intro held turns
  have hturns : ∀ r ∈ turns, r ∈ requests := fun r hr => (plan_resolves requests).mem_of_turns hr
  have hfinal : holdings rt ((plan requests).apply rt passes σ) = storeAll turns held := by
    rw [Plan.apply_eq, holdings_applyAll]
  refine ⟨_, _, parse_code _ passes, outcomes_section _ passes, ?_, hfinal, ?_, ?_, ?_⟩
  . intro done _
    exact ⟨_, outcomes_requests done, holdings_applyAll done⟩
  . rw [hfinal]
    constructor
    . intro hsub r hr
      exact (mem_storeAll_iff.mp (hsub (hown r hr))).2
    . intro hrestored p hp
      rw [mem_storeAll_iff]
      refine ⟨.inl hp, ?_⟩
      by_cases hrequest : ∃ r ∈ requests, p = (r.script, r.event)
      . obtain ⟨r, hr, rfl⟩ := hrequest
        exact hrestored r hr
      -- a handler that no request is about is never stored over
      . exact isRestored_of_ne fun r hr heq => hrequest ⟨r, hturns r hr, heq⟩
  . exact storeAll_eq_extendAll_iff fun r hr => hown r (hturns r hr)
  . intro hnone
    rw [hfinal, storeAll_eq_extendAll fun r hr => hnone r (hturns r hr)]
    exact ⟨subset_extendAll turns held, rfl⟩

theorem section_retains_door
    : let requests : List Request := [⟨"door", "interact", "wall"⟩, ⟨"door", "interact", "gate"⟩]
      let σ := (oneHandler spellingRuntime "door" "interact" 3).set
        (spellingRuntime.table "gate") "any" (some 7)
      (∀ r ∈ requests, (σ.get (spellingRuntime.table r.script) r.event).isSome) ∧
        ∃ statements σ', Lua.parse ((plan requests).code 0) = some statements ∧
          outcomesAll spellingRuntime [] σ statements = {some σ'} ∧
          holdings spellingRuntime σ ⊆ holdings spellingRuntime σ' := by
  intro requests σ
  have hheld (s e : String) : (σ.get (spellingRuntime.table s) e).isSome ↔
      s = "gate" ∧ e = "any" ∨ s = "door" ∧ e = "interact" := by
    simp only [σ, Handlers.get_set, oneHandler, spellingRuntime.injective.eq_iff]
    split <;> simp_all
  have hown : ∀ r ∈ requests, (σ.get (spellingRuntime.table r.script) r.event).isSome := by
    simp only [hheld]
    decide
  have hturns : (plan requests).turns 0 = requests := by decide +kernel
  obtain ⟨statements, σ', hparse, hrun, -, -, hiff, -⟩ := section_retains spellingRuntime 0 hown
  refine ⟨hown, statements, σ', hparse, hrun, hiff.mpr ?_⟩
  have hgate : ("gate", "any") ∈ Request.store ⟨"door", "interact", "wall"⟩
      (holdings spellingRuntime σ) := ⟨.inl ((hheld _ _).mpr (by decide)), by simp⟩
  have hrestored : IsRestored requests (holdings spellingRuntime σ) ("door", "interact") := by
    refine ⟨fun _ _ => .inl ⟨rfl, ?_⟩, fun hvain => absurd hgate hvain.2.2, trivial⟩
    exact ⟨rfl, .inr hgate⟩
  rw [hturns]
  simpa [requests] using hrestored

theorem handler_taken_away
    : let requests : List Request := [⟨"door", "interact", "wall"⟩]
      let σ := oneHandler spellingRuntime "door" "interact" 7
      (∀ r ∈ requests, (σ.get (spellingRuntime.table r.script) r.event).isSome) ∧
        ∃ statements σ', Lua.parse ((plan requests).code passesDefault) = some statements ∧
          outcomesAll spellingRuntime [] σ statements = {some σ'} ∧
          ("door", "interact") ∈ holdings spellingRuntime σ ∧
          ("door", "interact") ∉ holdings spellingRuntime σ' ∧
          ("door", "interact") ∈ extendAll ((plan requests).turns passesDefault)
            (holdings spellingRuntime σ) := by
  intro requests σ
  have hturns : (plan requests).turns passesDefault = requests := by decide +kernel
  have hdoor : ("door", "interact") ∈ holdings spellingRuntime σ := by
    simp [holdings, σ, oneHandler]
  have hvain : Request.IsVain ⟨"door", "interact", "wall"⟩ (holdings spellingRuntime σ) := by
    refine ⟨rfl, ?_, ?_⟩
    . simp [holdings, σ, oneHandler, spellingRuntime.injective.eq_iff]
    . simp [holdings, σ, oneHandler, anyEvent]
  refine ⟨?_, _, _, parse_code _ _, outcomes_section _ _, hdoor, ?_, subset_extendAll _ _ hdoor⟩
  . rw [List.forall_mem_singleton]
    exact hdoor
  . rw [Plan.apply_eq, hturns, holdings_applyAll]
    exact Request.not_mem_store hvain

end PulpGame.Mimic
