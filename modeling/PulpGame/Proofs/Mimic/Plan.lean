import Mathlib
import PulpGame.Mimic.Plan
import PulpGame.Proofs.Ledger

namespace PulpGame.Mimic

open Relation (ReflTransGen TransGen)

def scripts (requests : List Request) : List String := (requests.map Request.script).eraseDups

def requestsOf (requests : List Request) (s : String) : List Request :=
  requests.filter fun r => r.script == s

def Waits (requests : List Request) (s t : String) : Prop :=
  t ≠ s ∧ t ∈ scripts requests ∧ ∃ r ∈ requests, r.script = s ∧ r.target = t

/-- The script waits, maybe through others, for one that waits for itself. -/
def IsCyclic (requests : List Request) (s : String) : Prop :=
  ∃ t, ReflTransGen (Waits requests) s t ∧ TransGen (Waits requests) t t

def Respects (requests : List Request) (order : List String) : Prop :=
  ∀ before s behind, order = before ++ s :: behind → ∀ t, Waits requests s t → t ∈ before

def ranks (requests : List Request) (order : List String) : List Nat :=
  order.map (scripts requests).idxOf

theorem mem_scripts {requests : List Request} {s : String}
    : s ∈ scripts requests ↔ ∃ r ∈ requests, r.script = s := by
  simp [scripts]

theorem nodup_scripts (requests : List Request) : (scripts requests).Nodup := nodup_eraseDups _

structure AreGroups (requests : List Request) (gs : List Group) : Prop where
  requests_eq : ∀ g ∈ gs, g.requests = requestsOf requests g.script
  sublist : (gs.map Group.script).Sublist (scripts requests)

theorem groups_eq (requests : List Request)
    : groups requests = (scripts requests).map fun s => ⟨s, requestsOf requests s⟩ := rfl

theorem areGroups_groups (requests : List Request) : AreGroups requests (groups requests) where
  requests_eq := by simp [groups_eq]
  sublist := by simp [groups_eq, Function.comp_def]

variable {requests : List Request} {resolved : List String} {pending : List Group}

theorem AreGroups.sublist_of {gs : List Group} (h : AreGroups requests pending)
    (hgs : gs.Sublist pending) : AreGroups requests gs where
  requests_eq := fun g hg => h.requests_eq g (hgs.subset hg)
  sublist := (hgs.map _).trans h.sublist

theorem AreGroups.isReady_iff (h : AreGroups requests pending) {g : Group} (hg : g ∈ pending)
    : g.isReady (scripts requests) resolved ↔ ∀ t, Waits requests g.script t → t ∈ resolved := by
  rw [Group.isReady, h.requests_eq g hg, requestsOf, List.all_eq_true]
  simp only [List.mem_filter, beq_iff_eq, Bool.or_eq_true, Bool.not_eq_true', List.contains_eq_mem,
    decide_eq_false_iff_not, decide_eq_true_eq, Waits]
  constructor
  . rintro hall t ⟨hne, hscript, r, hr, hs, rfl⟩
    rcases hall r ⟨hr, hs⟩ with (hself | hnone) | hresolved
    . exact absurd hself hne
    . exact absurd hscript hnone
    . exact hresolved
  . rintro hall r ⟨hr, hs⟩
    by_cases hself : r.target = g.script
    . exact .inl (.inl hself)
    . by_cases hscript : r.target ∈ scripts requests
      . exact .inr (hall _ ⟨hself, hscript, r, hr, hs, rfl⟩)
      . exact .inl (.inr hscript)

def Follows (requests : List Request) : List String → List String → Prop
  | _, [] => True
  | resolved, s :: ss =>
    (∀ t, Waits requests s t → t ∈ resolved) ∧ Follows requests (s :: resolved) ss

/-- The groups in the order in which they are taken, and those that are left. -/
structure IsOrder (requests : List Request) (resolved : List String)
    (pending ordered cyclic : List Group) : Prop where
  perm : (ordered ++ cyclic).Perm pending
  sublist : cyclic.Sublist pending
  follows : Follows requests resolved (ordered.map Group.script)
  stuck : ∀ g ∈ cyclic, ∃ t, Waits requests g.script t ∧ t ∉ ordered.map Group.script ∧ t ∉ resolved
  least : ∀ other, other.Perm (ordered.map Group.script) → Follows requests resolved other →
    other = ordered.map Group.script ∨
      List.Lex (· < ·) (ranks requests (ordered.map Group.script)) (ranks requests other)

theorem isOrder_nil (h : AreGroups requests pending)
    (hnone : ∀ g ∈ pending, ¬g.isReady (scripts requests) resolved)
    : IsOrder requests resolved pending [] pending where
  perm := .refl _
  sublist := .refl _
  follows := trivial
  stuck := by
    intro g hg
    have := hnone g hg
    rw [h.isReady_iff hg] at this
    simpa using this
  least := by
    intro other hperm _
    exact .inl (List.Perm.eq_nil hperm)

theorem pairwise_idxOf {l : List String} (h : l.Nodup)
    : l.Pairwise fun a b => l.idxOf a < l.idxOf b := by
  rw [List.pairwise_iff_getElem]
  intro i j hi hj hij
  rwa [h.idxOf_getElem, h.idxOf_getElem]

theorem AreGroups.idxOf_lt {before behind : List Group} {g b : Group}
    (h : AreGroups requests (before ++ g :: behind)) (hb : b ∈ behind)
    : (scripts requests).idxOf g.script < (scripts requests).idxOf b.script := by
  have hpairwise := (pairwise_idxOf (nodup_scripts requests)).sublist h.sublist
  rw [List.map_append, List.map_cons, List.pairwise_append, List.pairwise_cons] at hpairwise
  exact hpairwise.2.1.1 _ (List.mem_map_of_mem hb)

theorem isOrder_cons {before behind ordered cyclic : List Group} {g : Group}
    (h : AreGroups requests (before ++ g :: behind))
    (hready : g.isReady (scripts requests) resolved)
    (hbefore : ∀ b ∈ before, ¬b.isReady (scripts requests) resolved)
    (ih : IsOrder requests (g.script :: resolved) (before ++ behind) ordered cyclic)
    : IsOrder requests resolved (before ++ g :: behind) (g :: ordered) cyclic where
  perm := (ih.perm.cons g).trans List.perm_middle.symm
  sublist := ih.sublist.trans (List.Sublist.append_left (List.sublist_cons_self _ _) _)
  follows := ⟨(h.isReady_iff (by simp)).mp hready, ih.follows⟩
  stuck := by
    intro c hc
    obtain ⟨t, ht, hordered, hresolved⟩ := ih.stuck c hc
    rw [List.mem_cons, not_or] at hresolved
    refine ⟨t, ht, ?_, hresolved.2⟩
    rw [List.map_cons, List.mem_cons, not_or]
    exact ⟨hresolved.1, hordered⟩
  least := by
    intro other hperm hfollows
    cases other with
    | nil => exact absurd hperm.symm.eq_nil (by simp)
    | cons s others =>
      rw [List.map_cons] at hperm ⊢
      by_cases hs : s = g.script
      . subst hs
        rcases ih.least others hperm.cons_inv hfollows.2 with rfl | hlex
        . exact .inl rfl
        . exact .inr (.cons hlex)
      . refine .inr (.rel ?_)
        -- Another script that is ready has its group behind, for no group before is ready.
        have hmem : s ∈ ordered.map Group.script := by
          have := hperm.subset (List.mem_cons_self : s ∈ s :: others)
          exact (List.mem_cons.mp this).resolve_left hs
        obtain ⟨b, hb, rfl⟩ := List.mem_map.mp hmem
        have hpending : b ∈ before ++ behind := ih.perm.subset (List.mem_append_left _ hb)
        rcases List.mem_append.mp hpending with hb | hb
        . exact absurd ((h.isReady_iff (by simp [hb])).mpr hfollows.1) (hbefore b hb)
        . exact h.idxOf_lt hb

theorem isOrder_order (h : AreGroups requests pending)
    : IsOrder requests resolved pending (order (scripts requests) resolved pending).1
      (order (scripts requests) resolved pending).2 := by
  fun_induction order (scripts requests) resolved pending with
  | case1 resolved pending hnone =>
    exact isOrder_nil h fun g hg => List.find?_eq_none.mp hnone g hg
  | case2 resolved pending g hfind ordered cyclic horder ih =>
    obtain ⟨hready, before, behind, rfl, hbefore⟩ := List.find?_eq_some_iff_append.mp hfind
    replace hbefore : ∀ b ∈ before, ¬b.isReady (scripts requests) resolved := by simpa using hbefore
    have herase : (before ++ g :: behind).eraseP (·.isReady (scripts requests) resolved) =
        before ++ behind := by
      rw [List.eraseP_append_right _ hbefore, List.eraseP_cons_of_pos hready]
    rw [herase] at horder ih
    rw [horder] at ih
    apply isOrder_cons h hready hbefore
    apply ih
    exact h.sublist_of (List.Sublist.append_left (List.sublist_cons_self _ _) _)

theorem isOrder_plan (requests : List Request)
    : IsOrder requests [] (groups requests) (plan requests).ordered (plan requests).cyclic := by
  have hscripts : (groups requests).map Group.script = scripts requests := by
    simp [groups_eq, Function.comp_def]
  rw [plan, hscripts]
  exact isOrder_order (areGroups_groups requests)

theorem Follows.mem {before behind : List String} {s t : String}
    (h : Follows requests resolved (before ++ s :: behind)) (hwaits : Waits requests s t)
    : t ∈ before ∨ t ∈ resolved := by
  induction before generalizing resolved with
  | nil => exact .inr (h.1 t hwaits)
  | cons b before ih =>
    rcases ih h.2 with ht | ht
    . exact .inl (List.mem_cons_of_mem b ht)
    . rcases List.mem_cons.mp ht with rfl | ht
      . exact .inl List.mem_cons_self
      . exact .inr ht

theorem respects_iff {order : List String}
    : Respects requests order ↔ Follows requests [] order := by
  -- This is about the rest of an order, with any scripts resolved in front of it.
  have hfollows (rest : List String) : ∀ resolved : List String,
      (∀ before s behind, rest = before ++ s :: behind →
        ∀ t, Waits requests s t → t ∈ before ∨ t ∈ resolved) → Follows requests resolved rest := by
    induction rest with
    | nil => exact fun _ _ => trivial
    | cons s rest ih =>
      intro resolved h
      refine ⟨fun t ht => (h [] s rest rfl t ht).resolve_left (by simp), ?_⟩
      apply ih
      rintro before u behind rfl t ht
      rcases h (s :: before) u behind rfl t ht with hmem | hmem
      . rcases List.mem_cons.mp hmem with rfl | hmem
        . exact .inr List.mem_cons_self
        . exact .inl hmem
      . exact .inr (List.mem_cons_of_mem s hmem)
  constructor
  . intro h
    exact hfollows order [] fun before s behind heq t ht => .inl (h before s behind heq t ht)
  . rintro h before s behind rfl t ht
    simpa using h.mem ht

theorem Respects.idxOf_lt {order : List String} (h : Respects requests order) {s t : String}
    (hs : s ∈ order) (hwaits : Waits requests s t)
    : t ∈ order ∧ order.idxOf t < order.idxOf s := by
  obtain ⟨before, behind, rfl, hnot⟩ := List.eq_append_cons_of_mem hs
  have ht : t ∈ before := h before s behind rfl t hwaits
  have hlt : before.idxOf t < before.length := List.idxOf_lt_length_iff.mpr ht
  refine ⟨List.mem_append_left _ ht, ?_⟩
  rw [List.idxOf_append_of_mem ht, List.idxOf_append_of_notMem hnot, List.idxOf_cons_self]
  omega

theorem Respects.not_isCyclic {order : List String} (h : Respects requests order) {s : String}
    (hs : s ∈ order) : ¬IsCyclic requests s := by
  rintro ⟨t, hreach, hcycle⟩
  have ht : t ∈ order := by
    clear hcycle
    induction hreach with
    | refl => exact hs
    | tail _ hwaits ih => exact (h.idxOf_lt ih hwaits).1
  have hlt {a b : String} (ha : a ∈ order) (hab : TransGen (Waits requests) a b)
      : b ∈ order ∧ order.idxOf b < order.idxOf a := by
    induction hab with
    | single hwaits => exact h.idxOf_lt ha hwaits
    | tail _ hwaits ih =>
      obtain ⟨hmem, hlt⟩ := h.idxOf_lt ih.1 hwaits
      exact ⟨hmem, hlt.trans ih.2⟩
  exact absurd (hlt ht hcycle).2 (Nat.lt_irrefl _)

theorem isCyclic_of_stuck {cs : List String}
    (h : ∀ s ∈ cs, ∃ t ∈ cs, Waits requests s t) {s : String} (hs : s ∈ cs)
    : IsCyclic requests s := by
  by_contra hnone
  -- Without a cycle, waiting would be well-founded on the scripts that can be reached.
  let reached := {t : String // t ∈ cs ∧ ReflTransGen (Waits requests) s t}
  let later (a b : reached) : Prop := TransGen (Waits requests) b.1 a.1
  have hinjective : Function.Injective fun t : reached => (⟨t.1, t.2.1⟩ : {t : String // t ∈ cs}) :=
    fun a b hab => Subtype.ext (by simpa using hab)
  have hfinite : Finite reached := Finite.of_injective _ hinjective
  have htrans : IsTrans reached later := ⟨fun _ _ _ hab hbc => hbc.trans hab⟩
  have hirrefl : Std.Irrefl later := ⟨fun a ha => hnone ⟨a.1, a.2.2, ha⟩⟩
  have hwf : WellFounded later := Finite.wellFounded_of_trans_of_irrefl later
  obtain ⟨least, -, hleast⟩ := hwf.has_min Set.univ ⟨⟨s, hs, .refl⟩, trivial⟩
  obtain ⟨t, ht, hwaits⟩ := h least.1 least.2.1
  exact hleast ⟨t, ht, least.2.2.tail hwaits⟩ trivial (.single hwaits)

theorem flatMap_filter_perm {α : Type} (key : α → String) {ks : List String} (hks : ks.Nodup)
    {l : List α} (h : ∀ a ∈ l, key a ∈ ks)
    : (ks.flatMap fun k => l.filter fun a => key a == k).Perm l := by
  induction ks generalizing l with
  | nil =>
    have hnil : l = [] := List.eq_nil_iff_forall_not_mem.mpr fun a ha => by simpa using h a ha
    rw [hnil]
    exact .refl _
  | cons k ks ih =>
    rw [List.nodup_cons] at hks
    -- The other keys find the same without the elements that have the first one.
    let rest := l.filter fun a => !key a == k
    have hrest : ∀ a ∈ rest, key a ∈ ks := by
      intro a ha
      obtain ⟨ha, hne⟩ := List.mem_filter.mp ha
      exact (List.mem_cons.mp (h a ha)).resolve_left (by simpa using hne)
    have hsame : (ks.flatMap fun k => l.filter fun a => key a == k) =
        ks.flatMap fun k => rest.filter fun a => key a == k := by
      apply List.flatMap_congr
      intro j hj
      have hne : j ≠ k := by
        rintro rfl
        exact hks.1 hj
      rw [List.filter_filter]
      apply List.filter_congr
      intro a _
      by_cases ha : key a = j
      . simp [ha, hne]
      . simp [ha]
    rw [List.flatMap_cons, hsame]
    exact ((ih hks.2 hrest).append_left _).trans (List.filter_append_perm _ l)

theorem flatMap_requests {gs : List Group} (h : ∀ g ∈ gs, g.requests = requestsOf requests g.script)
    : gs.flatMap Group.requests = (gs.map Group.script).flatMap (requestsOf requests) := by
  rw [List.flatMap_map]
  exact List.flatMap_congr h

theorem mem_flatMap_requestsOf {ss : List String} {r : Request}
    : r ∈ ss.flatMap (requestsOf requests) ↔ r ∈ requests ∧ r.script ∈ ss := by
  simp only [List.mem_flatMap, requestsOf, List.mem_filter, beq_iff_eq]
  constructor
  . rintro ⟨s, hs, hr, rfl⟩
    exact ⟨hr, hs⟩
  . rintro ⟨hr, hs⟩
    exact ⟨_, hs, hr, rfl⟩

theorem together_of_mem (requests : List Request) {ss : List String} (hss : ss.Nodup) {s : String}
    (hs : s ∈ ss)
    : ∃ before behind, ss.flatMap (requestsOf requests) =
        before ++ requestsOf requests s ++ behind ∧ ∀ r ∈ before ++ behind, r.script ≠ s := by
  obtain ⟨front, back, rfl⟩ := List.append_of_mem hs
  have hnot : s ∉ front ++ back := (List.nodup_cons.mp (List.nodup_middle.mp hss)).1
  refine ⟨front.flatMap (requestsOf requests), back.flatMap (requestsOf requests), by simp, ?_⟩
  rw [← List.flatMap_append]
  rintro r hr rfl
  exact hnot (mem_flatMap_requestsOf.mp hr).2

theorem requestsOf_eq_nil {s : String}
    : requestsOf requests s = [] ↔ ∀ r ∈ requests, r.script ≠ s := by
  simp [requestsOf]

theorem requestsOf_append (rs qs : List Request) (s : String)
    : requestsOf (rs ++ qs) s = requestsOf rs s ++ requestsOf qs s :=
  List.filter_append _ _

theorem requestsOf_self (rs : List Request) (s : String)
    : requestsOf (requestsOf rs s) s = requestsOf rs s := by
  simp [requestsOf, List.filter_filter]

theorem requestsOf_flatMap {ss : List String} (hss : ss.Nodup) {s : String} (hs : s ∈ ss)
    : requestsOf (ss.flatMap (requestsOf requests)) s = requestsOf requests s := by
  obtain ⟨before, behind, heq, hothers⟩ := together_of_mem requests hss hs
  simp only [List.forall_mem_append, ← requestsOf_eq_nil] at hothers
  rw [heq, requestsOf_append, requestsOf_append, hothers.1, hothers.2, requestsOf_self]
  simp

theorem Respects.pairwise {order : List String} (h : Respects requests order) (horder : order.Nodup)
    : order.Pairwise fun a b => ¬Waits requests a b := by
  apply (pairwise_idxOf horder).imp_of_mem
  intro a b ha _ hlt hwaits
  exact absurd (h.idxOf_lt ha hwaits).2 (Nat.lt_asymm hlt)

theorem Respects.pairwise_requests {order : List String} (h : Respects requests order)
    (horder : order.Nodup)
    : (order.flatMap (requestsOf requests)).Pairwise fun a b =>
        ¬Waits requests a.script b.script := by
  rw [List.pairwise_flatMap]
  constructor
  . intro s _
    apply List.pairwise_of_forall_mem_list
    simp only [requestsOf, List.mem_filter, beq_iff_eq]
    rintro a ⟨-, rfl⟩ b ⟨-, hb⟩ hwaits
    exact hwaits.1 hb
  . apply (h.pairwise horder).imp
    simp only [requestsOf, List.mem_filter, beq_iff_eq]
    rintro s t hst a ⟨-, rfl⟩ b ⟨-, rfl⟩
    exact hst

theorem waits_of_mem {r : Request} (hr : r ∈ requests) (hne : r.target ≠ r.script)
    (htarget : r.target ∈ scripts requests) : Waits requests r.script r.target :=
  ⟨hne, htarget, r, hr, rfl, rfl⟩

theorem Respects.not_behind {order : List String} (h : Respects requests order)
    (horder : order.Nodup) {before behind : List Request} {r q : Request}
    (heq : order.flatMap (requestsOf requests) = before ++ r :: behind)
    (hne : r.target ≠ r.script) (hq : q ∈ behind) : q.script ≠ r.target := by
  intro htarget
  have hmem (a : Request) (ha : a ∈ r :: behind) : a ∈ requests := by
    have ha : a ∈ order.flatMap (requestsOf requests) := heq ▸ List.mem_append_right before ha
    exact (mem_flatMap_requestsOf.mp ha).1
  have hscript : r.target ∈ scripts requests :=
    mem_scripts.mpr ⟨q, hmem q (List.mem_cons_of_mem r hq), htarget⟩
  have hpairwise := h.pairwise_requests horder
  rw [heq, List.pairwise_append, List.pairwise_cons] at hpairwise
  apply hpairwise.2.1.1 q hq
  rw [htarget]
  exact waits_of_mem (hmem r List.mem_cons_self) hne hscript

theorem Respects.targets_first {order : List String} (h : Respects requests order)
    (horder : order.Nodup) {before behind : List Request} {r : Request}
    (heq : order.flatMap (requestsOf requests) = before ++ r :: behind)
    (hne : r.target ≠ r.script) (htarget : r.target ∈ scripts requests)
    : requestsOf before r.target = requestsOf requests r.target := by
  have hr : r ∈ order.flatMap (requestsOf requests) := by simp [heq]
  obtain ⟨hr, hscript⟩ := mem_flatMap_requestsOf.mp hr
  have hbehind : requestsOf (r :: behind) r.target = [] := by
    rw [requestsOf_eq_nil, List.forall_mem_cons]
    exact ⟨hne.symm, fun q hq => h.not_behind horder heq hne hq⟩
  have hall : requestsOf (order.flatMap (requestsOf requests)) r.target =
      requestsOf requests r.target :=
    requestsOf_flatMap horder (h.idxOf_lt hscript (waits_of_mem hr hne htarget)).1
  rwa [heq, requestsOf_append, hbehind, List.append_nil] at hall

namespace IsOrder

variable {ordered cyclic : List Group}

theorem perm_scripts (h : IsOrder requests [] (groups requests) ordered cyclic)
    : (ordered.map Group.script ++ cyclic.map Group.script).Perm (scripts requests) := by
  have hscripts : (groups requests).map Group.script = scripts requests := by
    simp [groups_eq, Function.comp_def]
  rw [← List.map_append, ← hscripts]
  exact h.perm.map _

theorem nodup_scripts (h : IsOrder requests [] (groups requests) ordered cyclic)
    : (ordered.map Group.script ++ cyclic.map Group.script).Nodup :=
  h.perm_scripts.nodup_iff.mpr (Mimic.nodup_scripts requests)

theorem mem_scripts (h : IsOrder requests [] (groups requests) ordered cyclic) {r : Request}
    (hr : r ∈ requests)
    : r.script ∈ ordered.map Group.script ∨ r.script ∈ cyclic.map Group.script := by
  rw [← List.mem_append]
  exact h.perm_scripts.symm.subset (Mimic.mem_scripts.mpr ⟨r, hr, rfl⟩)

theorem requests_eq (h : IsOrder requests [] (groups requests) ordered cyclic)
    : ∀ g ∈ ordered ++ cyclic, g.requests = requestsOf requests g.script :=
  fun g hg => (areGroups_groups requests).requests_eq g (h.perm.subset hg)

theorem respects (h : IsOrder requests [] (groups requests) ordered cyclic)
    : Respects requests (ordered.map Group.script) :=
  respects_iff.mpr h.follows

theorem isCyclic (h : IsOrder requests [] (groups requests) ordered cyclic) {s : String}
    (hs : s ∈ cyclic.map Group.script) : IsCyclic requests s := by
  apply isCyclic_of_stuck ?_ hs
  intro s hs
  obtain ⟨g, hg, rfl⟩ := List.mem_map.mp hs
  obtain ⟨t, hwaits, hordered, -⟩ := h.stuck g hg
  have ht := h.perm_scripts.symm.subset hwaits.2.1
  exact ⟨t, (List.mem_append.mp ht).resolve_left hordered, hwaits⟩

end IsOrder

structure Plan.Resolves (p : Plan) (requests : List Request) : Prop where
  perm : (p.orderedRequests ++ p.cyclicRequests).Perm requests
  together : ∀ s, ∃ before behind, p.orderedRequests ++ p.cyclicRequests =
      before ++ requestsOf requests s ++ behind ∧ ∀ r ∈ before ++ behind, r.script ≠ s
  cyclic_iff : ∀ r ∈ requests, r ∈ p.cyclicRequests ↔ IsCyclic requests r.script
  ordered_iff : ∀ r ∈ requests, r ∈ p.orderedRequests ↔ ¬IsCyclic requests r.script
  targets_first : ∀ before r behind, p.orderedRequests = before ++ r :: behind →
    r.target ≠ r.script → r.target ∈ scripts requests →
      requestsOf before r.target = requestsOf requests r.target
  /-- Scripts come in the order that is least by their first requests, of all that are possible. -/
  ordered_eq : p.orderedRequests =
    (p.ordered.map Group.script).flatMap (requestsOf requests)
  respects : Respects requests (p.ordered.map Group.script)
  least : ∀ other, other.Perm (p.ordered.map Group.script) → Respects requests other →
    other = p.ordered.map Group.script ∨
      List.Lex (· < ·) (ranks requests (p.ordered.map Group.script)) (ranks requests other)
  cyclic_eq : p.cyclicRequests = (p.cyclic.map Group.script).flatMap (requestsOf requests)
  cyclic_sublist : (p.cyclic.map Group.script).Sublist (scripts requests)

theorem IsOrder.resolves {p : Plan}
    (horder : IsOrder requests [] (groups requests) p.ordered p.cyclic) : p.Resolves requests := by
  have hordered : p.orderedRequests = (p.ordered.map Group.script).flatMap (requestsOf requests) :=
    flatMap_requests fun g hg => horder.requests_eq g (List.mem_append_left _ hg)
  have hcyclic : p.cyclicRequests = (p.cyclic.map Group.script).flatMap (requestsOf requests) :=
    flatMap_requests fun g hg => horder.requests_eq g (List.mem_append_right _ hg)
  constructor
  case perm =>
    rw [hordered, hcyclic, ← List.flatMap_append]
    apply flatMap_filter_perm Request.script horder.nodup_scripts
    exact fun r hr => List.mem_append.mpr (horder.mem_scripts hr)
  case together =>
    intro s
    rw [hordered, hcyclic, ← List.flatMap_append]
    by_cases hs : s ∈ p.ordered.map Group.script ++ p.cyclic.map Group.script
    . exact together_of_mem requests horder.nodup_scripts hs
    -- a script without requests stands between the requests of the others and nothing
    . have hnone : ∀ r ∈ requests, r.script ≠ s := by
        rintro r hr rfl
        exact hs (List.mem_append.mpr (horder.mem_scripts hr))
      refine ⟨_, [], by rw [requestsOf_eq_nil.mpr hnone, List.append_nil, List.append_nil], ?_⟩
      intro r hr
      rw [List.append_nil] at hr
      exact hnone r (mem_flatMap_requestsOf.mp hr).1
  case cyclic_iff =>
    -- what is left over depends on a cycle; what was ordered does not, since the targets of its
    -- requests come before it
    intro r hr
    rw [hcyclic, mem_flatMap_requestsOf]
    constructor
    . exact fun h => horder.isCyclic h.2
    . intro h
      refine ⟨hr, (horder.mem_scripts hr).resolve_left ?_⟩
      exact fun hs => horder.respects.not_isCyclic hs h
  case ordered_iff =>
    intro r hr
    rw [hordered, mem_flatMap_requestsOf]
    constructor
    . exact fun h => horder.respects.not_isCyclic h.2
    . intro h
      refine ⟨hr, (horder.mem_scripts hr).resolve_right ?_⟩
      exact fun hs => h (horder.isCyclic hs)
  case targets_first =>
    intro before r behind heq hne htarget
    exact horder.respects.targets_first (List.nodup_append.mp horder.nodup_scripts).1
      (hordered ▸ heq) hne htarget
  case ordered_eq => exact hordered
  case respects => exact horder.respects
  case least =>
    intro other hother hrespected
    exact horder.least other hother (respects_iff.mp hrespected)
  case cyclic_eq => exact hcyclic
  case cyclic_sublist =>
    have hsublist := horder.sublist.map Group.script
    rwa [groups_eq, List.map_map, Function.comp_def, List.map_id'] at hsublist

/-- The plan of any requests is the right one. -/
theorem plan_resolves (requests : List Request) : (plan requests).Resolves requests :=
  (isOrder_plan requests).resolves

end PulpGame.Mimic
