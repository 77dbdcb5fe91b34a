import PulpGame.Proofs.Mimic.Closure

namespace PulpGame.Mimic

open Relation (ReflTransGen TransGen)

abbrev Table := String → Option Nat

def Request.step (r : Request) (target own : Table) : Table := fun n =>
  if r.isWildcard then (own n).or (target n)
  else if n = r.event then (target r.event).or (target anyEvent) else own n

def stepAll (targets : String → Table) (rs : List Request) (own : Table) : Table :=
  rs.foldl (fun own r => r.step (targets r.target) own) own

variable {targets : String → Table}

theorem stepAll_cons (r : Request) (rs : List Request) (own : Table)
    : stepAll targets (r :: rs) own = stepAll targets rs (r.step (targets r.target) own) := rfl

theorem stepAll_append (rs qs : List Request) (own : Table)
    : stepAll targets (rs ++ qs) own = stepAll targets qs (stepAll targets rs own) :=
  List.foldl_append

theorem stepAll_congr {targets' : String → Table} {rs : List Request}
    (h : ∀ r ∈ rs, targets r.target = targets' r.target) (own : Table)
    : stepAll targets rs own = stepAll targets' rs own := by
  induction rs generalizing own with
  | nil => rfl
  | cons r rs ih =>
    rw [List.forall_mem_cons] at h
    rw [stepAll_cons, stepAll_cons, h.1, ih h.2]

theorem stepAll_eq_or (targets : String → Table) {rs : List Request} {e : String}
    (h : ∀ r ∈ rs, r.isWildcard = false → r.event ≠ e)
    : ∃ f, ∀ own, stepAll targets rs own e = (own e).or f := by
  induction rs with
  | nil => exact ⟨none, fun own => (Option.or_none).symm⟩
  | cons r rs ih =>
    rw [List.forall_mem_cons] at h
    obtain ⟨f, hf⟩ := ih h.2
    cases hr : r.isWildcard with
    | true =>
      refine ⟨(targets r.target e).or f, ?_⟩
      intro own
      rw [stepAll_cons, hf, Request.step, if_pos hr, Option.or_assoc]
    | false =>
      refine ⟨f, ?_⟩
      intro own
      rw [stepAll_cons, hf, Request.step, if_neg (by simp [hr]), if_neg (h.1 hr).symm]

theorem stepAll_of_last (targets : String → Table) {before behind : List Request} {r : Request}
    (hr : r.isWildcard = false)
    (h : ∀ q ∈ behind, q.isWildcard = false → q.event ≠ r.event)
    : ∃ f, ∀ own, stepAll targets (before ++ r :: behind) own r.event =
        ((targets r.target r.event).or (targets r.target anyEvent)).or f := by
  obtain ⟨f, hf⟩ := stepAll_eq_or targets h
  refine ⟨f, ?_⟩
  intro own
  rw [stepAll_append, stepAll_cons, hf, Request.step, if_neg (by simp [hr]), if_pos rfl]

theorem stepAll_cases (targets : String → Table) (rs : List Request) (e : String)
    : ∃ f, (∀ own, stepAll targets rs own e = (own e).or f) ∨
        ∀ own, stepAll targets rs own e = f := by
  induction rs with
  | nil => exact ⟨none, .inl fun own => (Option.or_none).symm⟩
  | cons r rs ih =>
    obtain ⟨f, hfill | hset⟩ := ih
    . by_cases hr : r.isWildcard
      . refine ⟨(targets r.target e).or f, .inl fun own => ?_⟩
        rw [stepAll_cons, hfill, Request.step, if_pos hr, Option.or_assoc]
      . by_cases he : e = r.event
        . refine ⟨((targets r.target r.event).or (targets r.target anyEvent)).or f,
            .inr fun own => ?_⟩
          rw [stepAll_cons, hfill, Request.step, if_neg hr, if_pos he]
        . refine ⟨f, .inl fun own => ?_⟩
          rw [stepAll_cons, hfill, Request.step, if_neg hr, if_neg he]
    . exact ⟨f, .inr fun own => by rw [stepAll_cons, hset]⟩

theorem stepAll_stepAll (rs : List Request) (own : Table)
    : stepAll targets rs (stepAll targets rs own) = stepAll targets rs own := by
  funext e
  obtain ⟨f, hfill | hset⟩ := stepAll_cases targets rs e
  . rw [hfill, hfill, Option.or_assoc, Option.or_self]
  . rw [hset, hset]

variable {rt : Runtime} {σ : Handlers} {rs : List Request}

def tables (rt : Runtime) (σ : Handlers) (s : String) : Table := σ.get (rt.table s)

theorem get_apply_of_ne {r : Request} {a : Nat} (h : a ≠ rt.table r.script)
    : (r.apply rt σ).get a = σ.get a := by
  funext n
  unfold Request.apply
  split
  . rw [Handlers.get_fill, if_neg h]
  . rw [Handlers.get_set, if_neg (by simp [h])]

theorem get_apply_self (r : Request)
    : (r.apply rt σ).get (rt.table r.script) =
        r.step (σ.get (rt.table r.target)) (σ.get (rt.table r.script)) := by
  funext n
  unfold Request.apply Request.step
  split
  . rw [Handlers.get_fill, if_pos rfl]
  . rw [Handlers.get_set]
    simp only [true_and]

theorem get_applyAll_of_ne {a : Nat} (h : ∀ r ∈ rs, a ≠ rt.table r.script)
    : (applyAll rt rs σ).get a = σ.get a := by
  induction rs generalizing σ with
  | nil => rfl
  | cons r rs ih =>
    rw [List.forall_mem_cons] at h
    exact (ih h.2).trans (get_apply_of_ne h.1)

/-- No request borrows from a script that is changed by it or by a later one. -/
def IsSettled (rs : List Request) : Prop :=
  (∀ r ∈ rs, r.target ≠ r.script) ∧ rs.Pairwise fun r q => q.script ≠ r.target

theorem get_applyAll (h : IsSettled rs) (s : String)
    : tables rt (applyAll rt rs σ) s =
        stepAll (tables rt (applyAll rt rs σ)) (requestsOf rs s) (tables rt σ s) := by
  induction rs generalizing σ with
  | nil => rfl
  | cons r rs ih =>
    obtain ⟨hself, hlater⟩ := h
    rw [List.forall_mem_cons] at hself
    rw [List.pairwise_cons] at hlater
    -- Neither this request nor a later one changes the table that this one borrows from.
    have htarget : tables rt (applyAll rt (r :: rs) σ) r.target = tables rt σ r.target := by
      apply get_applyAll_of_ne
      rw [List.forall_mem_cons]
      refine ⟨fun heq => hself.1 (rt.injective heq), ?_⟩
      exact fun q hq heq => hlater.1 q hq (rt.injective heq).symm
    have hrest := ih (σ := r.apply rt σ) ⟨hself.2, hlater.2⟩
    change tables rt (applyAll rt (r :: rs) σ) s = stepAll (tables rt (applyAll rt (r :: rs) σ))
      (requestsOf rs s) ((r.apply rt σ).get (rt.table s)) at hrest
    rw [hrest]
    by_cases hs : s = r.script
    . have hcons : requestsOf (r :: rs) s = r :: requestsOf rs s :=
        List.filter_cons_of_pos (by simp [hs])
      rw [hcons, stepAll_cons, htarget, hs, get_apply_self]
      rfl
    . have hcons : requestsOf (r :: rs) s = requestsOf rs s :=
        List.filter_cons_of_neg (by simp [Ne.symm hs])
      rw [hcons, get_apply_of_ne fun heq => hs (rt.injective heq)]
      rfl

variable {requests : List Request} {p : Plan}

theorem waits_borrows {s t : String} (h : Waits requests s t) : Borrows requests s t := h.2.2

theorem Plan.Resolves.isSettled (h : p.Resolves requests)
    (hnodup : (p.ordered.map Group.script).Nodup)
    (hacyclic : ∀ s, ¬TransGen (Borrows requests) s s)
    : IsSettled p.orderedRequests ∧ p.cyclicRequests = [] := by
  have hmem : ∀ r ∈ p.orderedRequests, r ∈ requests :=
    fun r hr => h.perm.subset (List.mem_append_left _ hr)
  have hself : ∀ r ∈ requests, r.target ≠ r.script := by
    intro r hr heq
    exact hacyclic r.script (.single ⟨r, hr, rfl, heq⟩)
  refine ⟨⟨fun r hr => hself r (hmem r hr), ?_⟩, ?_⟩
  . have hpairwise := h.respects.pairwise_requests hnodup
    rw [← h.ordered_eq] at hpairwise
    apply hpairwise.imp_of_mem
    intro r q hr hq hnot heq
    apply hnot
    rw [heq]
    have htarget : r.target ∈ scripts requests := mem_scripts.mpr ⟨q, hmem q hq, heq⟩
    exact waits_of_mem (hmem r hr) (hself r (hmem r hr)) htarget
  . apply h.cyclicRequests_eq_nil
    intro s hs
    exact hacyclic s (TransGen.mono (fun _ _ h => waits_borrows h) _ _ hs)

theorem applyAll_applyAll {order : List String} (hrespects : Respects requests order)
    (hrs : rs = order.flatMap (requestsOf requests)) (h : IsSettled rs)
    : applyAll rt rs (applyAll rt rs σ) = applyAll rt rs σ := by
  -- What a script borrows from comes before it, and is the same again.
  have htables (s : String) : tables rt (applyAll rt rs (applyAll rt rs σ)) s =
      tables rt (applyAll rt rs σ) s := by
    induction hidx : order.idxOf s using Nat.strongRecOn generalizing s with
    | ind n ih =>
      have htargets : ∀ r ∈ requestsOf rs s,
          tables rt (applyAll rt rs (applyAll rt rs σ)) r.target =
            tables rt (applyAll rt rs σ) r.target := by
        intro r hr
        simp only [requestsOf, List.mem_filter, beq_iff_eq] at hr
        obtain ⟨hr, rfl⟩ := hr
        by_cases htarget : ∃ q ∈ rs, q.script = r.target
        . obtain ⟨q, hq, hscript⟩ := htarget
          rw [hrs, mem_flatMap_requestsOf] at hr hq
          have hwaits := waits_of_mem hr.1 (h.1 r (hrs ▸ mem_flatMap_requestsOf.mpr hr))
            (mem_scripts.mpr ⟨q, hq.1, hscript⟩)
          exact ih _ (hidx ▸ (hrespects.idxOf_lt hr.2 hwaits).2) _ rfl
        . apply get_applyAll_of_ne
          intro q hq heq
          exact htarget ⟨q, hq, (rt.injective heq).symm⟩
      rw [get_applyAll h, stepAll_congr htargets, get_applyAll h s, stepAll_stepAll]
  apply Handlers.ext
  funext a
  by_cases ha : ∃ r ∈ rs, a = rt.table r.script
  . obtain ⟨r, -, rfl⟩ := ha
    exact htables r.script
  . apply get_applyAll_of_ne
    exact fun r hr heq => ha ⟨r, hr, heq⟩

/-- If no script borrows from itself, maybe through others, a second run of the section changes
nothing. The handler of a script for an event is then that of the target of its last request for
this event, or the handler of the target for any event, if the target has one of them. -/
theorem section_settles (rt : Runtime) {requests : List Request}
    (hacyclic : ∀ s, ¬TransGen (Borrows requests) s s) (passes : Nat) (σ : Handlers)
    : ∃ statements σ', Lua.parse ((plan requests).code passes) = some statements ∧
        outcomesAll rt [] σ statements = {some σ'} ∧
        outcomesAll rt [] σ' statements = {some σ'} ∧
        ∀ before r behind, requests = before ++ r :: behind → r.isWildcard = false →
          (∀ q ∈ behind, q.script = r.script → q.event ≠ r.event) →
            let found := (σ'.get (rt.table r.target) r.event).or
              (σ'.get (rt.table r.target) anyEvent)
            found.isSome → σ'.get (rt.table r.script) r.event = found := by
  have horder := isOrder_plan requests
  have hresolves := horder.resolves
  have hnodup := (List.nodup_append.mp horder.nodup_scripts).1
  generalize plan requests = p at hresolves hnodup ⊢
  obtain ⟨hsettled, hcyclic⟩ := hresolves.isSettled hnodup hacyclic
  have hsection (σ : Handlers) : p.apply rt passes σ = applyAll rt p.orderedRequests σ := by
    have hid : applyAll rt [] = id := rfl
    rw [Plan.apply, hcyclic, hid, Function.iterate_id, id]
  have hrun (σ : Handlers) : outcomesAll rt [] σ (Lua.Stat.statementsAll (p.resolve passes)) =
      {some (p.apply rt passes σ)} := outcomes_section p passes
  refine ⟨_, _, parse_code p passes, hrun σ, ?_, ?_⟩
  . rw [hrun]
    rw [hsection, hsection, applyAll_applyAll hresolves.respects hresolves.ordered_eq hsettled]
  . intro before r behind hrequests hr hbehind found hfound
    have hmem : r ∈ p.orderedRequests := by
      have hall := hresolves.perm.symm.subset (by simp [hrequests] : r ∈ requests)
      simpa [hcyclic] using hall
    -- Ordering keeps the requests of one script in the order in which they were made.
    have hown : requestsOf p.orderedRequests r.script =
        requestsOf before r.script ++ r :: requestsOf behind r.script := by
      rw [hresolves.ordered_eq] at hmem ⊢
      rw [requestsOf_flatMap hnodup (mem_flatMap_requestsOf.mp hmem).2, hrequests,
        requestsOf_append]
      congr 1
      exact List.filter_cons_of_pos (by simp)
    have hlater : ∀ q ∈ requestsOf behind r.script, q.isWildcard = false → q.event ≠ r.event := by
      intro q hq _
      simp only [requestsOf, List.mem_filter, beq_iff_eq] at hq
      exact hbehind q hq.1 hq.2
    obtain ⟨f, hf⟩ := stepAll_of_last (tables rt (p.apply rt passes σ)) hr hlater
    have htable : tables rt (p.apply rt passes σ) r.script =
        stepAll (tables rt (p.apply rt passes σ))
          (requestsOf before r.script ++ r :: requestsOf behind r.script)
          (tables rt σ r.script) := by
      rw [← hown, hsection]
      exact get_applyAll hsettled r.script
    exact (congrFun htable r.event).trans ((hf _).trans (Option.or_of_isSome hfound))

theorem acyclic_of_rank {requests : List Request} (rank : String → Nat)
    (h : ∀ r ∈ requests, rank r.target < rank r.script) (s : String)
    : ¬TransGen (Borrows requests) s s := by
  have hlt {s t : String} (hst : TransGen (Borrows requests) s t) : rank t < rank s := by
    induction hst with
    | single hedge =>
      obtain ⟨r, hr, rfl, rfl⟩ := hedge
      exact h r hr
    | tail _ hedge ih =>
      obtain ⟨r, hr, rfl, rfl⟩ := hedge
      exact (h r hr).trans ih
  exact fun hs => Nat.lt_irrefl _ (hlt hs)

theorem section_settles_chain
    : let requests : List Request := [⟨"west", "enter", "north"⟩, ⟨"west", "enter", "south"⟩,
        ⟨"west", "any", "north"⟩, ⟨"north", "any", "south"⟩]
      let σ := oneHandler spellingRuntime "south" "any" 7
      (∀ s, ¬TransGen (Borrows requests) s s) ∧
        ∃ statements σ', Lua.parse ((plan requests).code 0) = some statements ∧
          outcomesAll spellingRuntime [] σ statements = {some σ'} ∧
          outcomesAll spellingRuntime [] σ' statements = {some σ'} ∧
          σ'.get (spellingRuntime.table "west") "enter" = some 7 := by
  intro requests σ
  have hacyclic : ∀ s, ¬TransGen (Borrows requests) s s :=
    acyclic_of_rank ["south", "north", "west"].idxOf (by decide)
  obtain ⟨statements, σ', hparse, hrun, hagain, hlast⟩ :=
    section_settles spellingRuntime hacyclic 0 σ
  have hsouth : σ'.get (spellingRuntime.table "south") = σ.get (spellingRuntime.table "south") := by
    rw [parse_code, Option.some.injEq] at hparse
    rw [← hparse, outcomes_section, Set.singleton_eq_singleton_iff, Option.some.injEq] at hrun
    rw [← hrun]
    apply get_applyAll_of_ne
    intro r hr heq
    have hmem := (isOrder_plan requests).resolves.perm.subset (List.mem_append_left _ hr)
    have hscripts : ∀ r ∈ requests, r.script ≠ "south" := by decide
    exact hscripts r hmem (spellingRuntime.injective heq).symm
  refine ⟨hacyclic, statements, σ', hparse, hrun, hagain, ?_⟩
  have hvalue := hlast [⟨"west", "enter", "north"⟩] ⟨"west", "enter", "south"⟩ _ rfl rfl (by simp)
  simp only [hsouth] at hvalue
  simpa [σ, oneHandler, anyEvent] using hvalue

end PulpGame.Mimic
