import PulpGame.Proofs.Ledger
import PulpGame.Proofs.Variable.Coverage

namespace PulpGame.Variable

variable {usage : List (String × Nat)} {capacity : Nat}

def Outranks (usage : List (String × Nat)) (v w : String) : Prop :=
  timesUsed usage w < timesUsed usage v ∨ timesUsed usage v = timesUsed usage w ∧ v < w

instance (v w : String) : Decidable (Outranks usage v w) :=
  inferInstanceAs (Decidable (_ ∨ _ ∧ _))

structure IsRanking (usage : List (String × Nat)) (names : List String) : Prop where
  perm : names.Perm (usage.map (·.1))
  sorted : names.Pairwise (Outranks usage)

theorem Outranks.asymm {v w : String} (h : Outranks usage v w) : ¬Outranks usage w v := by
  rintro (hless | ⟨heq, hlt⟩)
  . rcases h with hless' | ⟨heq', -⟩
    . omega
    . omega
  . rcases h with hless' | ⟨-, hlt'⟩
    . omega
    . exact absurd hlt' (String.lt_asymm hlt)

theorem IsRanking.unique {names others : List String} (h : IsRanking usage names)
    (h' : IsRanking usage others) : names = others := by
  apply (h.perm.trans h'.perm.symm).eq_of_pairwise _ h.sorted h'.sorted
  intro v w _ _ hvw hwv
  exact absurd hwv hvw.asymm

theorem timesUsed_of_mem (hnodup : (usage.map (·.1)).Nodup) {v : String} {n : Nat}
    (h : (v, n) ∈ usage) : timesUsed usage v = n := by
  obtain ⟨front, back, rfl⟩ := List.append_of_mem h
  have hfront : ∀ p ∈ front, v != p.1 := by
    intro p hp
    rw [List.map_append, List.map_cons, List.nodup_append] at hnodup
    rw [bne_iff_ne]
    exact (hnodup.2.2 p.1 (List.mem_map_of_mem hp) v (by simp)).symm
  rw [timesUsed, List.lookup_eq_some_iff.mpr ⟨front, back, rfl, hfront⟩]
  rfl

theorem before_trans (a b c : String × Nat) (hab : before a b) (hbc : before b c) : before a c := by
  simp only [before, Bool.or_eq_true, decide_eq_true_eq, Bool.and_eq_true, beq_iff_eq] at hab hbc ⊢
  rcases hab with hab | ⟨hab, hle⟩
  . rcases hbc with hbc | ⟨hbc, -⟩
    . exact .inl (by omega)
    . exact .inl (by omega)
  . rcases hbc with hbc | ⟨hbc, hle'⟩
    . exact .inl (by omega)
    . exact .inr ⟨by omega, String.le_trans hle hle'⟩

theorem before_total (a b : String × Nat) : before a b || before b a := by
  simp only [before, Bool.or_eq_true, decide_eq_true_eq, Bool.and_eq_true, beq_iff_eq]
  rcases Nat.lt_trichotomy a.2 b.2 with h | h | h
  . exact .inr (.inl h)
  . rcases String.le_total a.1 b.1 with hle | hle
    . exact .inl (.inr ⟨h, hle⟩)
    . exact .inr (.inr ⟨h.symm, hle⟩)
  . exact .inl (.inl h)

theorem isRanking_ranked (hnodup : (usage.map (·.1)).Nodup) : IsRanking usage (ranked usage) where
  perm := (List.mergeSort_perm usage before).map _
  sorted := by
    have hsorted := List.pairwise_mergeSort before_trans before_total usage
    have hdistinct : (usage.mergeSort before).Pairwise fun a b => a.1 ≠ b.1 :=
      List.pairwise_map.mp (nodup_ranked hnodup)
    rw [ranked, List.pairwise_map]
    apply (hsorted.and hdistinct).imp_of_mem
    rintro ⟨v, m⟩ ⟨w, n⟩ hv hw ⟨hbefore, hne⟩
    have hv : timesUsed usage v = m := timesUsed_of_mem hnodup (List.mem_mergeSort.mp hv)
    have hw : timesUsed usage w = n := timesUsed_of_mem hnodup (List.mem_mergeSort.mp hw)
    simp only [before, Bool.or_eq_true, decide_eq_true_eq, Bool.and_eq_true, beq_iff_eq] at hbefore
    rw [Outranks, hv, hw]
    rcases hbefore with hless | ⟨heq, hle⟩
    . exact .inl hless
    . exact .inr ⟨heq, lt_of_le_of_ne hle hne⟩

theorem isReserved_iff {name : String} : isReserved name ↔ reserved.toList <+: name.toList := by
  have htwo : reserved.toList = ['_', '_'] := rfl
  rw [isReserved, htwo]
  unfold startsReserved
  split
  . next rest heq => simp [heq]
  . next hno =>
    constructor
    . intro h
      cases h
    . rintro ⟨rest, heq⟩
      exact (hno rest heq.symm).elim

namespace Storage

def assign (limit : Nat) (s : Storage) (name : String) : Except Failure Storage :=
  if isReserved name then .error (.reservedVariable name)
  else if isBare name ∧ s.fast.length < limit then .ok { s with fast := s.fast ++ [name] }
  else .ok { s with dynamic := s.dynamic ++ [name] }

def division (limit : Nat) (names : List String) : Storage :=
  let fast := (names.filter isBare).take limit
  ⟨fast, names.filter fun n => !fast.contains n⟩

variable {limit : Nat}

theorem dynamic_division (names : List String)
    : (division limit names).dynamic =
        names.filter fun n => !(division limit names).fast.contains n :=
  rfl

theorem mem_fast_division {names : List String} {v : String} (h : v ∈ (division limit names).fast)
    : v ∈ names ∧ isBare v :=
  List.mem_filter.mp (List.mem_of_mem_take h)

section

variable {done : List String} {name : String} (hnew : name ∉ done)

include hnew

theorem division_append_local (hbare : isBare name)
    (hroom : (division limit done).fast.length < limit)
    : division limit (done ++ [name]) =
        ⟨(division limit done).fast ++ [name], (division limit done).dynamic⟩ := by
  have hroom : (done.filter isBare).length < limit := by simpa [division] using hroom
  have hfast : (division limit (done ++ [name])).fast = (division limit done).fast ++ [name] := by
    unfold division
    rw [List.filter_append, List.take_of_length_le (Nat.le_of_lt hroom), List.take_of_length_le]
    . simp [hbare]
    . simpa [hbare] using hroom
  have hdynamic : (division limit (done ++ [name])).dynamic = (division limit done).dynamic := by
    rw [dynamic_division, dynamic_division, hfast, List.filter_append]
    have hothers : ∀ n ∈ done, n ≠ name := fun n hn heq => hnew (heq ▸ hn)
    have hsame : ∀ n ∈ done, (!((division limit done).fast ++ [name]).contains n) =
        !(division limit done).fast.contains n := by
      intro n hn
      simp [hothers n hn]
    rw [List.filter_congr hsame]
    simp
  rw [← hfast, ← hdynamic]

theorem division_append_dynamic (h : ¬(isBare name ∧ (division limit done).fast.length < limit))
    : division limit (done ++ [name]) =
        ⟨(division limit done).fast, (division limit done).dynamic ++ [name]⟩ := by
  have hfast : (division limit (done ++ [name])).fast = (division limit done).fast := by
    unfold division
    rw [List.filter_append]
    by_cases hbare : isBare name
    . have hfull : limit ≤ (done.filter isBare).length := by simpa [division, hbare] using h
      rw [List.take_append_of_le_length hfull]
    . simp [hbare]
  have hdynamic : (division limit (done ++ [name])).dynamic =
      (division limit done).dynamic ++ [name] := by
    have hnot : name ∉ (division limit done).fast := fun hmem => hnew (mem_fast_division hmem).1
    rw [dynamic_division, dynamic_division, hfast, List.filter_append]
    simp [hnot]
  rw [← hfast, ← hdynamic]

theorem assign_division (hfree : isReserved name = false)
    : assign limit (division limit done) name = .ok (division limit (done ++ [name])) := by
  rw [assign, if_neg (by simp [hfree])]
  split
  . next h => rw [division_append_local hnew h.1 h.2]
  . next h => rw [division_append_dynamic hnew h]

end

theorem foldlM_assign (names done : List String) (hnodup : (done ++ names).Nodup)
    : names.foldlM (assign limit) (division limit done) =
        match names.find? isReserved with
        | some name => .error (.reservedVariable name)
        | none => .ok (division limit (done ++ names)) := by
  induction names generalizing done with
  | nil => simp [pure, Except.pure]
  | cons name names ih =>
    rw [List.foldlM_cons, List.find?_cons]
    cases hreserved : isReserved name with
    | true => simp [assign, hreserved, bind, Except.bind]
    | false =>
      -- What the pass has done so far is the division of the names that it has seen.
      have hnew : name ∉ done := fun hmem => by simp [List.nodup_append', hmem] at hnodup
      rw [List.append_cons] at hnodup ⊢
      rw [assign_division hnew hreserved]
      exact ih _ hnodup

theorem allot_eq_pass (hnodup : (usage.map (·.1)).Nodup)
    : allot usage capacity =
        (ranked usage).foldlM (assign (min capacity fastLimit)) ⟨[], []⟩ :=
  have hempty : division (min capacity fastLimit) [] = ⟨[], []⟩ := by simp [division]
  hempty ▸ (foldlM_assign (ranked usage) [] (nodup_ranked hnodup)).symm

theorem outranks_of_division {names : List String} {v w : String}
    (hsorted : names.Pairwise (Outranks usage)) (hv : v ∈ (division limit names).fast)
    (hw : w ∈ (division limit names).dynamic) (hbare : isBare w) : Outranks usage v w := by
  rw [dynamic_division, List.mem_filter] at hw
  obtain ⟨hmem, hnot⟩ := hw
  have hnot : w ∉ (names.filter isBare).take limit := by simpa [division] using hnot
  have hbehind : w ∈ (names.filter isBare).drop limit := by
    have hall : w ∈ names.filter isBare := List.mem_filter.mpr ⟨hmem, hbare⟩
    rw [← List.take_append_drop limit (names.filter isBare), List.mem_append] at hall
    exact hall.resolve_left hnot
  have hbare := hsorted.filter isBare
  rw [← List.take_append_drop limit (names.filter isBare), List.pairwise_append] at hbare
  exact hbare.2.2 v hv w hbehind

theorem allot_eq_error_iff {e : Failure}
    : allot usage capacity = .error e ↔
        ∃ v, (ranked usage).find? isReserved = some v ∧ e = .reservedVariable v := by
  unfold allot
  dsimp only
  split
  . next v hfind => simp [hfind, eq_comm]
  . next hnone => simp [hnone]

theorem allot_eq_ok_iff {s : Storage}
    : allot usage capacity = .ok s ↔
        (ranked usage).find? isReserved = none ∧
          s = division (min capacity fastLimit) (ranked usage) := by
  unfold allot
  dsimp only
  split
  . next v hfind => simp [hfind]
  . next hnone => simp [hnone, division, eq_comm]

theorem exists_allot_error_iff
    : (∃ e, allot usage capacity = .error e) ↔ ∃ v ∈ usage.map (·.1), isReserved v := by
  have hiff : (allot usage capacity).isOk ↔ ∀ v ∈ usage.map (·.1), isReserved v = false :=
    isOk_allot
  cases hallot : allot usage capacity with
  | error e => simpa [hallot] using hiff
  | ok s => simpa [hallot] using hiff

theorem allot_error {e : Failure} (hnodup : (usage.map (·.1)).Nodup)
    (h : allot usage capacity = .error e)
    : ∃ v ∈ usage.map (·.1), isReserved v ∧ e = .reservedVariable v ∧
        ∀ w ∈ usage.map (·.1), isReserved w → w ≠ v → Outranks usage v w := by
  obtain ⟨v, hfind, rfl⟩ := allot_eq_error_iff.mp h
  -- The name is the first one that is reserved, so the other ones stand behind it.
  obtain ⟨hreserved, before, behind, heq, hbefore⟩ := List.find?_eq_some_iff_append.mp hfind
  have hsorted := (isRanking_ranked hnodup).sorted
  rw [heq, List.pairwise_append, List.pairwise_cons] at hsorted
  simp only [← mem_ranked, heq, List.mem_append, List.mem_cons]
  refine ⟨v, .inr (.inl rfl), hreserved, rfl, ?_⟩
  rintro w (hw | rfl | hw) hw' hne
  . exact absurd hw' (by simpa using hbefore w hw)
  . exact absurd rfl hne
  . exact hsorted.2.1.1 w hw

theorem allot_more {s : Storage} {more : Nat} (h : allot usage capacity = .ok s)
    (hmore : capacity ≤ more) : ∃ s', allot usage more = .ok s' ∧ s.fast <+: s'.fast := by
  obtain ⟨hfree, rfl⟩ := allot_eq_ok_iff.mp h
  exact ⟨_, allot_eq_ok_iff.mpr ⟨hfree, rfl⟩, List.take_prefix_take_left (by omega)⟩

/-- There is one ranking of the variables. The pass over it fails at the first reserved name, or
else makes the first variables locals that can be. -/
theorem allot_follows_ranking (capacity : Nat) (hnodup : (usage.map (·.1)).Nodup)
    : ∃ ranking, IsRanking usage ranking ∧
        (∀ other, IsRanking usage other → other = ranking) ∧
        allot usage capacity = ranking.foldlM (assign (min capacity 174)) ⟨[], []⟩ ∧
        ((∃ e, allot usage capacity = .error e) ↔
          ∃ v ∈ usage.map (·.1), "__".toList <+: v.toList) ∧
        (∀ e, allot usage capacity = .error e →
          ∃ v ∈ usage.map (·.1), "__".toList <+: v.toList ∧ e = .reservedVariable v ∧
            ∀ w ∈ usage.map (·.1), "__".toList <+: w.toList → w ≠ v → Outranks usage v w) ∧
        ∀ s, allot usage capacity = .ok s →
          s.fast = (ranking.filter isBare).take (min capacity 174) ∧
            s.dynamic = ranking.filter (· ∉ s.fast) ∧
            s.all.Perm (usage.map (·.1)) ∧ s.all.Nodup ∧
            (∀ v w, isBare v → isBare w → timesUsed usage w < timesUsed usage v →
              w ∈ s.fast → v ∉ s.dynamic) ∧
            ∀ more, capacity ≤ more → ∃ s', allot usage more = .ok s' ∧ s.fast <+: s'.fast := by
  have hranking := isRanking_ranked hnodup
  refine ⟨ranked usage, hranking, fun _ h => h.unique hranking, allot_eq_pass hnodup, ?_, ?_, ?_⟩
  . simp only [exists_allot_error_iff, isReserved_iff]
    rfl
  . intro e h
    obtain ⟨v, hv, hreserved, rfl, hfirst⟩ := allot_error hnodup h
    refine ⟨v, hv, isReserved_iff.mp hreserved, rfl, ?_⟩
    intro w hw hw'
    exact hfirst w hw (isReserved_iff.mpr hw')
  . intro s h
    have hall := nodup_of_allot h hnodup
    have hdivision := (allot_eq_ok_iff.mp h).2
    refine ⟨(allot_eq h).1, ?_, ?_, hall, ?_, fun more => allot_more h⟩
    . rw [(allot_eq h).2]
      simp
    . rw [List.perm_ext_iff_of_nodup hall hnodup]
      exact fun n => mem_all_of_allot h
    . intro v w hv _ hless hwfast hvdynamic
      rw [hdivision] at hwfast hvdynamic
      -- the fast list is the head of the ranking among the bare names, and ties are no matter here
      rcases outranks_of_division hranking.sorted hwfast hvdynamic hv with h | ⟨h, -⟩
      . omega
      . omega

theorem allot_follows_ranking_gold
    : ([("end", 2), ("a.b", 9), ("steps", 4), ("gold", 4)].map Prod.fst).Nodup ∧
        IsRanking [("end", 2), ("a.b", 9), ("steps", 4), ("gold", 4)]
          ["a.b", "gold", "steps", "end"] ∧
        allot [("end", 2), ("a.b", 9), ("steps", 4), ("gold", 4)] 1 =
          .ok ⟨["gold"], ["a.b", "steps", "end"]⟩ ∧
        allot [("__b", 2), ("gold", 4), ("__a", 2)] 1 = .error (.reservedVariable "__a") := by
  have hnodup : ([("end", 2), ("a.b", 9), ("steps", 4), ("gold", 4)].map Prod.fst).Nodup := by
    decide
  have hranking : IsRanking [("end", 2), ("a.b", 9), ("steps", 4), ("gold", 4)]
      ["a.b", "gold", "steps", "end"] := ⟨by decide, by decide⟩
  have hnodup' : ([("__b", 2), ("gold", 4), ("__a", 2)].map Prod.fst).Nodup := by decide
  have hranking' : IsRanking [("__b", 2), ("gold", 4), ("__a", 2)] ["gold", "__a", "__b"] :=
    ⟨by decide, by decide⟩
  obtain ⟨ranking, -, hunique, hpass, -⟩ := allot_follows_ranking 1 hnodup
  obtain ⟨ranking', -, hunique', hpass', -⟩ := allot_follows_ranking 1 hnodup'
  refine ⟨hnodup, hranking, ?_, ?_⟩
  . rw [hpass, ← hunique _ hranking]
    rfl
  . rw [hpass', ← hunique' _ hranking']
    rfl

end Storage

end PulpGame.Variable
