import PulpGame.Proofs.Mimic.Plan
import PulpGame.Proofs.Mimic.Section

namespace PulpGame.Mimic

open Relation (ReflTransGen TransGen)

def grow (r : Request) (xs : Set String) : Set String := {s | s ∈ xs ∨ s = r.script ∧ r.target ∈ xs}

def growAll (rs : List Request) (xs : Set String) : Set String :=
  rs.foldl (fun xs r => grow r xs) xs

theorem subset_grow (r : Request) (xs : Set String) : xs ⊆ grow r xs := fun _ hs => .inl hs

theorem growAll_append (rs qs : List Request) (xs : Set String)
    : growAll (rs ++ qs) xs = growAll qs (growAll rs xs) :=
  List.foldl_append

theorem growAll_cons (r : Request) (rs : List Request) (xs : Set String)
    : growAll (r :: rs) xs = growAll rs (grow r xs) := rfl

theorem subset_growAll (rs : List Request) (xs : Set String) : xs ⊆ growAll rs xs := by
  induction rs generalizing xs with
  | nil => exact subset_rfl
  | cons r rs ih => exact (subset_grow r xs).trans (ih _)

theorem script_of_mem_growAll {rs : List Request} {xs : Set String} {s : String}
    (h : s ∈ growAll rs xs) : s ∈ xs ∨ s ∈ scripts rs := by
  induction rs generalizing xs with
  | nil => exact .inl h
  | cons r rs ih =>
    rw [mem_scripts]
    rcases ih h with (hs | ⟨rfl, -⟩) | hs
    . exact .inl hs
    . exact .inr ⟨r, by simp, rfl⟩
    . obtain ⟨q, hq, rfl⟩ := mem_scripts.mp hs
      exact .inr ⟨q, by simp [hq], rfl⟩

/-- The scripts allow no request to add one. -/
def IsClosed (rs : List Request) (xs : Set String) : Prop := ∀ r ∈ rs, r.target ∈ xs → r.script ∈ xs

theorem isClosed_of_growAll_subset {rs : List Request} {xs : Set String} (h : growAll rs xs ⊆ xs)
    : IsClosed rs xs := by
  intro r hr htarget
  obtain ⟨before, behind, rfl⟩ := List.append_of_mem hr
  apply h
  rw [growAll_append, growAll_cons]
  exact subset_growAll behind _ (.inr ⟨rfl, subset_growAll before xs htarget⟩)

def Borrows (requests : List Request) (s t : String) : Prop :=
  ∃ r ∈ requests, r.script = s ∧ r.target = t

theorem IsClosed.mem {rs : List Request} {xs : Set String} (h : IsClosed rs xs) {s t : String}
    (hreach : ReflTransGen (Borrows rs) s t) (ht : t ∈ xs) : s ∈ xs := by
  induction hreach using ReflTransGen.head_induction_on with
  | refl => exact ht
  | head hedge _ ih =>
    obtain ⟨r, hr, rfl, rfl⟩ := hedge
    exact h r hr ih

open Classical in
noncomputable def size (rs : List Request) (xs : Set String) : Nat :=
  ((scripts rs).toFinset.filter (· ∈ xs)).card

open Classical in
theorem size_le (rs : List Request) (xs : Set String) : size rs xs ≤ (scripts rs).length :=
  (Finset.card_filter_le _ _).trans (List.toFinset_card_le _)

open Classical in
theorem size_lt {rs : List Request} {xs : Set String} (h : ¬growAll rs xs ⊆ xs)
    : size rs xs < size rs (growAll rs xs) := by
  obtain ⟨s, hs, hnot⟩ := Set.not_subset.mp h
  have hscript := (script_of_mem_growAll hs).resolve_left hnot
  apply Finset.card_lt_card
  rw [Finset.ssubset_iff_of_subset]
  . exact ⟨s, by simp [hscript, hs], by simp [hnot]⟩
  . exact Finset.monotone_filter_right _ fun t _ ht => subset_growAll rs xs ht

theorem subset_iterate (rs : List Request) (n : Nat) (xs : Set String)
    : xs ⊆ (growAll rs)^[n] xs := by
  induction n with
  | zero => exact subset_rfl
  | succ n ih =>
    rw [Function.iterate_succ_apply']
    exact ih.trans (subset_growAll rs _)

theorem script_of_mem_iterate {rs : List Request} {n : Nat} {xs : Set String} {s : String}
    (h : s ∈ (growAll rs)^[n] xs) : s ∈ xs ∨ s ∈ scripts rs := by
  induction n with
  | zero => exact .inl h
  | succ n ih =>
    rw [Function.iterate_succ_apply'] at h
    rcases script_of_mem_growAll h with h | h
    . exact ih h
    . exact .inr h

theorem isClosed_iterate {rs : List Request} {n : Nat} (hn : (scripts rs).length ≤ n)
    (xs : Set String) : IsClosed rs ((growAll rs)^[n] xs) := by
  -- As long as the set is not closed, each round adds a script that makes requests.
  have hgrowth (k : Nat) : k ≤ size rs ((growAll rs)^[k] xs) ∨
      growAll rs ((growAll rs)^[k] xs) ⊆ (growAll rs)^[k] xs := by
    induction k with
    | zero => exact .inl (Nat.zero_le _)
    | succ k ih =>
      rw [Function.iterate_succ_apply']
      by_cases hclosed : growAll rs ((growAll rs)^[k] xs) ⊆ (growAll rs)^[k] xs
      . right
        have heq := hclosed.antisymm (subset_growAll rs _)
        rw [heq, heq]
      . left
        have := ih.resolve_right hclosed
        have := size_lt hclosed
        omega
  apply isClosed_of_growAll_subset
  rcases hgrowth n with hlarge | hclosed
  . by_contra hnot
    have := size_lt hnot
    have := size_le rs (growAll rs ((growAll rs)^[n] xs))
    omega
  . exact hclosed

variable {requests : List Request} {p : Plan}

theorem isClosed_ordered {order : List String} (h : Respects requests order) (horder : order.Nodup)
    (xs : Set String)
    : IsClosed (order.flatMap (requestsOf requests))
        (growAll (order.flatMap (requestsOf requests)) xs) := by
  intro r hr htarget
  obtain ⟨before, behind, heq⟩ := List.append_of_mem hr
  rw [heq, growAll_append, growAll_cons] at htarget ⊢
  by_cases hself : r.target = r.script
  . exact hself ▸ htarget
  . have hnot : r.target ∉ scripts behind := by
      intro hmem
      obtain ⟨q, hq, hscript⟩ := mem_scripts.mp hmem
      exact h.not_behind horder heq hself hq hscript
    have hmem := (script_of_mem_growAll htarget).resolve_right hnot
    apply subset_growAll behind
    rcases hmem with hmem | ⟨hsame, -⟩
    . exact .inr ⟨rfl, hmem⟩
    . exact absurd hsame hself

theorem Plan.Resolves.target_not_cyclic (h : p.Resolves requests) {r : Request}
    (hr : r ∈ p.orderedRequests) (hself : r.target ≠ r.script)
    : r.target ∉ scripts p.cyclicRequests := by
  have hmem : r ∈ requests := h.perm.subset (List.mem_append_left _ hr)
  have hnot := (h.ordered_iff r hmem).mp hr
  intro htarget
  obtain ⟨q, hq, hscript⟩ := mem_scripts.mp htarget
  have hqmem : q ∈ requests := h.perm.subset (List.mem_append_right _ hq)
  obtain ⟨t, hreach, hcycle⟩ := (h.cyclic_iff q hqmem).mp hq
  rw [hscript] at hreach
  have hwaits := waits_of_mem hmem hself (mem_scripts.mpr ⟨q, hqmem, hscript⟩)
  exact hnot ⟨t, hreach.head hwaits, hcycle⟩

theorem Plan.Resolves.isClosed (h : p.Resolves requests)
    (hnodup : (p.ordered.map Group.script).Nodup) {n : Nat}
    (hn : (scripts p.cyclicRequests).length ≤ n) (xs : Set String)
    : IsClosed requests ((growAll p.cyclicRequests)^[n] (growAll p.orderedRequests xs)) := by
  intro r hr htarget
  rcases List.mem_append.mp (h.perm.symm.subset hr) with hordered | hcyclic
  . by_cases hself : r.target = r.script
    . exact hself ▸ htarget
    . have hmem := (script_of_mem_iterate htarget).resolve_right
        (h.target_not_cyclic hordered hself)
      apply subset_iterate
      rw [h.ordered_eq] at hordered hmem ⊢
      exact isClosed_ordered h.respects hnodup xs r hordered hmem
  . exact isClosed_iterate hn _ r hcyclic htarget

variable {rt : Runtime} {σ : Handlers} {e : String}

def holders (rt : Runtime) (σ : Handlers) (e : String) : Set String :=
  {s | (σ.get (rt.table s) e).isSome}

theorem holders_apply {r : Request} (h : r.isWildcard)
    : holders rt (r.apply rt σ) e = grow r (holders rt σ e) := by
  ext s
  simp only [holders, grow, Request.apply, h, if_true, Handlers.get_fill, Set.mem_ofPred_eq,
    rt.injective.eq_iff]
  split
  . next hs => simp [hs]
  . next hs => simp [hs]

theorem holders_applyAll {rs : List Request} (h : ∀ r ∈ rs, r.isWildcard)
    : holders rt (applyAll rt rs σ) e = growAll rs (holders rt σ e) := by
  induction rs generalizing σ with
  | nil => rfl
  | cons r rs ih =>
    rw [List.forall_mem_cons] at h
    rw [growAll_cons, ← holders_apply h.1, ← ih h.2]
    rfl

theorem holders_section {passes : Nat}
    (h : ∀ r ∈ p.orderedRequests ++ p.cyclicRequests, r.isWildcard)
    : holders rt (p.apply rt passes σ) e =
        (growAll p.cyclicRequests)^[passes] (growAll p.orderedRequests (holders rt σ e)) := by
  rw [List.forall_mem_append] at h
  unfold Plan.apply
  rw [← holders_applyAll h.1]
  induction passes with
  | zero => rfl
  | succ n ih =>
    rw [Function.iterate_succ_apply', Function.iterate_succ_apply', holders_applyAll h.2, ih]

def Keeps (σ σ' : Handlers) : Prop := ∀ a n f, σ.get a n = some f → σ'.get a n = some f

theorem Keeps.trans {σ τ υ : Handlers} (h : Keeps σ τ) (h' : Keeps τ υ) : Keeps σ υ :=
  fun a n f hf => h' a n f (h a n f hf)

theorem keeps_apply {r : Request} (h : r.isWildcard) : Keeps σ (r.apply rt σ) := by
  intro a n f hf
  rw [Request.apply, if_pos h, Handlers.get_fill]
  split
  . next ha => rw [← ha, hf, Option.some_or]
  . exact hf

theorem keeps_applyAll {rs : List Request} (h : ∀ r ∈ rs, r.isWildcard)
    : Keeps σ (applyAll rt rs σ) := by
  induction rs generalizing σ with
  | nil => exact fun _ _ _ hf => hf
  | cons r rs ih =>
    rw [List.forall_mem_cons] at h
    exact (keeps_apply h.1).trans (ih h.2)

theorem keeps_section {passes : Nat} (h : ∀ r ∈ p.orderedRequests ++ p.cyclicRequests, r.isWildcard)
    : Keeps σ (p.apply rt passes σ) := by
  rw [List.forall_mem_append] at h
  unfold Plan.apply
  induction passes with
  | zero => exact keeps_applyAll h.1
  | succ n ih =>
    rw [Function.iterate_succ_apply']
    exact ih.trans (keeps_applyAll h.2)

theorem reaches_of_mem_growAll {rs : List Request} (hrs : rs ⊆ requests) {xs ys : Set String}
    (h : ∀ s ∈ ys, ∃ t ∈ xs, ReflTransGen (Borrows requests) s t)
    : ∀ s ∈ growAll rs ys, ∃ t ∈ xs, ReflTransGen (Borrows requests) s t := by
  induction rs generalizing ys with
  | nil => exact h
  | cons r rs ih =>
    rw [List.cons_subset] at hrs
    apply ih hrs.2
    rintro s (hs | ⟨rfl, htarget⟩)
    . exact h s hs
    . obtain ⟨t, ht, hreach⟩ := h _ htarget
      exact ⟨t, ht, hreach.head ⟨r, hrs.1, rfl, rfl⟩⟩

theorem reaches_of_mem_section (h : p.Resolves requests) {passes : Nat} {xs : Set String}
    : ∀ s ∈ (growAll p.cyclicRequests)^[passes] (growAll p.orderedRequests xs),
        ∃ t ∈ xs, ReflTransGen (Borrows requests) s t := by
  have hordered : p.orderedRequests ⊆ requests :=
    fun r hr => h.perm.subset (List.mem_append_left _ hr)
  have hcyclic : p.cyclicRequests ⊆ requests :=
    fun r hr => h.perm.subset (List.mem_append_right _ hr)
  induction passes with
  | zero => exact reaches_of_mem_growAll hordered fun s hs => ⟨s, hs, .refl⟩
  | succ n ih =>
    rw [Function.iterate_succ_apply']
    exact reaches_of_mem_growAll hcyclic ih

theorem Plan.Resolves.cyclicRequests_eq_nil (h : p.Resolves requests)
    (hnone : ∀ s, ¬TransGen (Waits requests) s s) : p.cyclicRequests = [] := by
  apply List.eq_nil_iff_forall_not_mem.mpr
  intro r hr
  obtain ⟨t, -, hcycle⟩ :=
    (h.cyclic_iff r (h.perm.subset (List.mem_append_right _ hr))).mp hr
  exact hnone t hcycle

/-- If all requests are for all events, and cyclic ones are repeated as often as there are scripts
that make them, every script ends up with handlers for the events for which a script that it reaches
by requests had one. It keeps the ones that it had. -/
theorem section_closes (rt : Runtime) {requests : List Request} (hall : ∀ r ∈ requests, r.isWildcard)
    {passes : Nat} (hpasses : (scripts (plan requests).cyclicRequests).length ≤ passes ∨
      ∀ s, ¬TransGen (Waits requests) s s)
    (σ : Handlers)
    : ∃ statements σ', Lua.parse ((plan requests).code passes) = some statements ∧
        outcomesAll rt [] σ statements = {some σ'} ∧
        ∀ s e, ((σ'.get (rt.table s) e).isSome ↔
            ∃ t, ReflTransGen (Borrows requests) s t ∧ (σ.get (rt.table t) e).isSome) ∧
          ∀ f, σ.get (rt.table s) e = some f → σ'.get (rt.table s) e = some f := by
  have horder := isOrder_plan requests
  have hresolves := horder.resolves
  have hnodup := (List.nodup_append.mp horder.nodup_scripts).1
  generalize plan requests = p at hpasses hresolves hnodup ⊢
  have hwildcard : ∀ r ∈ p.orderedRequests ++ p.cyclicRequests, r.isWildcard :=
    fun r hr => hall r (hresolves.perm.subset hr)
  have hlength : (scripts p.cyclicRequests).length ≤ passes := by
    rcases hpasses with hlength | hnone
    . exact hlength
    -- without a cycle no request is left to the passes, so none are needed
    . simp [hresolves.cyclicRequests_eq_nil hnone, scripts]
  refine ⟨_, _, parse_code p passes, outcomes_section p passes, ?_⟩
  intro s e
  have hholders : holders rt (p.apply rt passes σ) e = _ := holders_section hwildcard
  have hiff (σ : Handlers) (s : String) : (σ.get (rt.table s) e).isSome ↔ s ∈ holders rt σ e := .rfl
  refine ⟨?_, fun f hf => keeps_section hwildcard _ _ f hf⟩
  simp only [hiff]
  rw [hholders]
  constructor
  . intro hs
    obtain ⟨t, ht, hreach⟩ := reaches_of_mem_section hresolves s hs
    exact ⟨t, hreach, ht⟩
  . rintro ⟨t, hreach, ht⟩
    apply (hresolves.isClosed hnodup hlength _).mem hreach
    exact subset_iterate _ _ _ (subset_growAll _ _ ht)

def spellingRuntime : Runtime where
  table s := Encodable.encode (s.toList.map Char.toNat)
  injective := by
    intro s t h
    have hchars := Encodable.encode_injective h
    rw [List.map_inj_right fun c d => Char.toNat_inj.mp] at hchars
    exact String.toList_inj.mp hchars

def oneHandler (rt : Runtime) (s e : String) (f : Nat) : Handlers where
  get a n := if a = rt.table s ∧ n = e then some f else none
  finite a := by
    apply (Set.finite_singleton e).subset
    intro n hn
    by_contra hne
    have : n ≠ e := hne
    simp [this] at hn

theorem section_closes_pair
    : let requests : List Request := [⟨"north", "any", "south"⟩, ⟨"south", "any", "north"⟩,
        ⟨"west", "any", "north"⟩]
      let σ := oneHandler spellingRuntime "south" "enter" 7
      (∀ r ∈ requests, r.isWildcard) ∧
        (scripts (plan requests).cyclicRequests).length ≤ 3 ∧
        ∃ statements σ', Lua.parse ((plan requests).code 3) = some statements ∧
          outcomesAll spellingRuntime [] σ statements = {some σ'} ∧
          (σ'.get (spellingRuntime.table "west") "enter").isSome ∧
          σ'.get (spellingRuntime.table "west") "exit" = none ∧
          σ'.get (spellingRuntime.table "south") "enter" = some 7 := by
  intro requests σ
  have hall : ∀ r ∈ requests, r.isWildcard := by decide
  have hlength : (scripts (plan requests).cyclicRequests).length ≤ 3 := by decide +kernel
  obtain ⟨statements, σ', hparse, hrun, hhandlers⟩ :=
    section_closes spellingRuntime hall (.inl hlength) σ
  refine ⟨hall, hlength, statements, σ', hparse, hrun, ?_, ?_, ?_⟩
  . apply (hhandlers "west" "enter").1.mpr
    refine ⟨"south", .head (b := "north") ?_ (.single ?_), by simp [σ, oneHandler]⟩
    . exact ⟨⟨"west", "any", "north"⟩, by simp [requests], rfl, rfl⟩
    . exact ⟨⟨"north", "any", "south"⟩, by simp [requests], rfl, rfl⟩
  . rw [← Option.not_isSome_iff_eq_none, (hhandlers "west" "exit").1]
    simp [σ, oneHandler]
  . exact (hhandlers "south" "enter").2 7 (by simp [σ, oneHandler])

end PulpGame.Mimic
