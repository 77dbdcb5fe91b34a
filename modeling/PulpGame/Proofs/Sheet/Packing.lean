import PulpGame.Proofs.Document.Validity

namespace PulpGame.Sheet

variable {frames : List (Option Pixels)} {frame : Option Pixels} {pixels : Pixels} {p q : Packing}

namespace Packing

def enter (p : Packing) : Option Pixels → Packing
  | none => { p with places := p.places ++ [1] }
  | some pixels =>
    if pixels ∈ p.unique then { p with places := p.places ++ [p.unique.idxOf pixels + 1] }
    else ⟨p.unique ++ [pixels], p.places ++ [p.unique.length + 1]⟩

theorem enter_known (h : pixels ∈ p.unique)
    : p.enter (some pixels) = { p with places := p.places ++ [p.unique.idxOf pixels + 1] } :=
  if_pos h

theorem enter_new (h : pixels ∉ p.unique)
    : p.enter (some pixels) = ⟨p.unique ++ [pixels], p.places ++ [p.unique.length + 1]⟩ :=
  if_neg h

structure Packs (p : Packing) (frames : List (Option Pixels)) : Prop where
  nodup : p.unique.Nodup
  mem_iff : ∀ pixels, pixels ∈ p.unique ↔ some pixels ∈ frames
  ordered : p.unique.Pairwise fun a b => frames.idxOf (some a) < frames.idxOf (some b)
  length_places : p.places.length = frames.length
  place_frame : ∀ (i : Nat) pixels, frames[i]? = some (some pixels) →
    ∃ place, p.place? i = some place ∧ 1 ≤ place ∧ place ≤ p.unique.length ∧
      p.unique[place - 1]? = some pixels
  place_hole : ∀ i : Nat, frames[i]? = some none → p.place? i = some 1

end Packing

def placeIn (unique : List Pixels) : Option Pixels → Nat
  | some pixels => unique.idxOf pixels + 1
  | none => 1

theorem pack_places (frames : List (Option Pixels))
    : (pack frames).places = frames.map (placeIn (pack frames).unique) := by
  apply List.map_congr_left
  rintro (_ | pixels) _ <;> rfl

theorem map_placeIn_append (frames : List (Option Pixels)) (others : List Pixels)
    : frames.map (placeIn ((pack frames).unique ++ others)) = (pack frames).places := by
  rw [pack_places]
  apply List.map_congr_left
  rintro (_ | pixels) hmem
  . rfl
  . rw [placeIn, placeIn, List.idxOf_append_of_mem (mem_unique.mpr hmem)]

theorem unique_concat (frames : List (Option Pixels)) (pixels : Pixels)
    : (pack (frames ++ [some pixels])).unique =
        if pixels ∈ (pack frames).unique then (pack frames).unique
        else (pack frames).unique ++ [pixels] := by
  have hunique : (pack (frames ++ [some pixels])).unique =
      (pack frames).unique ++ ([pixels].removeAll (frames.filterMap id)).eraseDups := by
    simp [pack, List.eraseDups_append]
  have hmem : pixels ∈ frames.filterMap id ↔ pixels ∈ (pack frames).unique := by
    simp [mem_unique]
  rw [hunique, List.cons_removeAll]
  split <;> simp_all [List.eraseDups_cons]

theorem pack_concat (frames : List (Option Pixels)) (frame : Option Pixels)
    : pack (frames ++ [frame]) = (pack frames).enter frame := by
  have hplaces := pack_places (frames ++ [frame])
  cases frame with
  | none =>
    have hunique : (pack (frames ++ [none])).unique = (pack frames).unique := by simp [pack]
    rw [hunique, List.map_append, ← pack_places] at hplaces
    exact Packing.mk.injEq .. |>.mpr ⟨hunique, hplaces⟩
  | some pixels =>
    have hunique := unique_concat frames pixels
    by_cases hmem : pixels ∈ (pack frames).unique
    . rw [if_pos hmem] at hunique
      rw [hunique, List.map_append, ← pack_places] at hplaces
      rw [Packing.enter_known hmem]
      exact Packing.mk.injEq .. |>.mpr ⟨hunique, hplaces⟩
    . rw [if_neg hmem] at hunique
      rw [hunique, List.map_append, map_placeIn_append, List.map_singleton, placeIn,
        List.idxOf_append_of_notMem hmem, List.idxOf_cons_self] at hplaces
      rw [Packing.enter_new hmem]
      exact Packing.mk.injEq .. |>.mpr ⟨hunique, hplaces⟩

structure Pass extends Packing where
  seen : Std.HashMap Pixels Nat

namespace Pass

variable {s : Pass}

def empty : Pass := ⟨⟨[], []⟩, ∅⟩

/-- A frame that is not in the map goes behind the different ones, and its place is their number. -/
def enter (s : Pass) : Option Pixels → Pass
  | none => { s with places := s.places ++ [1] }
  | some pixels =>
    match s.seen[pixels]? with
    | some place => { s with places := s.places ++ [place] }
    | none =>
      let unique := s.unique ++ [pixels]
      ⟨⟨unique, s.places ++ [unique.length]⟩, s.seen.insert pixels unique.length⟩

def Remembers (s : Pass) : Prop :=
  ∀ pixels, s.seen[pixels]? =
    if pixels ∈ s.unique then some (s.unique.idxOf pixels + 1) else none

theorem enter_known {pixels : Pixels} (h : s.Remembers) (hmem : pixels ∈ s.unique)
    : s.enter (some pixels) = { s with places := s.places ++ [s.unique.idxOf pixels + 1] } := by
  rw [enter, (h pixels).trans (if_pos hmem)]

theorem enter_new {pixels : Pixels} (h : s.Remembers) (hmem : pixels ∉ s.unique)
    : s.enter (some pixels) = ⟨⟨s.unique ++ [pixels], s.places ++ [s.unique.length + 1]⟩,
        s.seen.insert pixels (s.unique.length + 1)⟩ := by
  rw [enter, (h pixels).trans (if_neg hmem)]
  simp

theorem toPacking_enter (h : s.Remembers) (frame : Option Pixels)
    : (s.enter frame).toPacking = s.toPacking.enter frame := by
  cases frame with
  | none => rfl
  | some pixels =>
    by_cases hmem : pixels ∈ s.unique
    . rw [enter_known h hmem, Packing.enter_known hmem]
    . rw [enter_new h hmem, Packing.enter_new hmem]

theorem remembers_empty : empty.Remembers := by
  simp [Remembers, empty]

theorem Remembers.enter (h : s.Remembers) (frame : Option Pixels) : (s.enter frame).Remembers := by
  cases frame with
  | none => exact h
  | some pixels =>
    by_cases hmem : pixels ∈ s.unique
    . rw [enter_known h hmem]
      exact h
    . rw [enter_new h hmem]
      intro other
      rw [Std.HashMap.getElem?_insert]
      by_cases hother : pixels = other
      . simp [← hother, List.idxOf_append_of_notMem hmem]
      . rw [if_neg (by simpa using hother), h other]
        by_cases hold : other ∈ s.unique
        . rw [if_pos hold, if_pos (List.mem_append_left _ hold), List.idxOf_append_of_mem hold]
        . rw [if_neg hold, if_neg (by simp [hold, Ne.symm hother])]

theorem run (frames : List (Option Pixels))
    : (frames.foldl enter empty).Remembers ∧ (frames.foldl enter empty).toPacking = pack frames := by
  induction frames using List.reverseRecOn with
  | nil => exact ⟨remembers_empty, rfl⟩
  | append_singleton frames frame ih =>
    rw [List.foldl_append, pack_concat, ← ih.2]
    exact ⟨ih.1.enter frame, toPacking_enter ih.1 frame⟩

end Pass

theorem getElem?_concat_eq_some {α : Type} {as : List α} {a b : α} {i : Nat}
    : (as ++ [a])[i]? = some b ↔ as[i]? = some b ∨ i = as.length ∧ a = b := by
  rcases Nat.lt_trichotomy i as.length with hlt | rfl | hgt
  . simp [List.getElem?_append_left hlt]
    omega
  . simp
  . simp [List.getElem?_eq_none, hgt.le, Nat.ne_of_gt hgt, Nat.succ_le_of_lt hgt]

namespace Packing.Packs

theorem nil : (pack []).Packs [] where
  nodup := .nil
  mem_iff := by simp [pack]
  ordered := .nil
  length_places := rfl
  place_frame := by simp
  place_hole := by simp

theorem ordered_append (h : p.Packs frames) (others : List (Option Pixels))
    : p.unique.Pairwise fun a b =>
        (frames ++ others).idxOf (some a) < (frames ++ others).idxOf (some b) := by
  apply h.ordered.imp_of_mem
  intro a b ha hb hlt
  rwa [List.idxOf_append_of_mem ((h.mem_iff a).mp ha),
    List.idxOf_append_of_mem ((h.mem_iff b).mp hb)]

theorem concat {unique : List Pixels} {place : Nat} (h : p.Packs frames)
    (hnodup : unique.Nodup) (hmem : ∀ pixels, pixels ∈ unique ↔ some pixels ∈ frames ++ [frame])
    (hordered : unique.Pairwise fun a b =>
      (frames ++ [frame]).idxOf (some a) < (frames ++ [frame]).idxOf (some b))
    (hbegins : p.unique <+: unique)
    (hframe : ∀ pixels, frame = some pixels →
      1 ≤ place ∧ place ≤ unique.length ∧ unique[place - 1]? = some pixels)
    (hhole : frame = none → place = 1)
    : Packs ⟨unique, p.places ++ [place]⟩ (frames ++ [frame]) where
  nodup := hnodup
  mem_iff := hmem
  ordered := hordered
  length_places := by simp [h.length_places]
  place_frame i pixels hi := by
    rcases getElem?_concat_eq_some.mp hi with hi | ⟨rfl, rfl⟩
    . obtain ⟨old, hold, hpos, hle, hfound⟩ := h.place_frame i pixels hi
      have hstill : unique[old - 1]? = some pixels := by
        obtain ⟨others, rfl⟩ := hbegins
        rwa [List.getElem?_append_left (by omega)]
      exact ⟨old, getElem?_concat_eq_some.mpr (.inl hold), hpos, hle.trans hbegins.length_le, hstill⟩
    . obtain ⟨hpos, hle, hfound⟩ := hframe pixels rfl
      have hplace : (p.places ++ [place])[frames.length]? = some place :=
        getElem?_concat_eq_some.mpr (.inr ⟨h.length_places.symm, rfl⟩)
      exact ⟨place, hplace, hpos, hle, hfound⟩
  place_hole i hi := by
    rcases getElem?_concat_eq_some.mp hi with hi | ⟨rfl, rfl⟩
    . exact getElem?_concat_eq_some.mpr (.inl (h.place_hole i hi))
    . exact getElem?_concat_eq_some.mpr (.inr ⟨h.length_places.symm, hhole rfl⟩)

theorem enter (h : p.Packs frames) (frame : Option Pixels)
    : (p.enter frame).Packs (frames ++ [frame]) := by
  cases frame with
  | none =>
    refine h.concat h.nodup ?_ (h.ordered_append _) (List.prefix_refl _) (by simp) (fun _ => rfl)
    simp [h.mem_iff]
  | some pixels =>
    by_cases hmem : pixels ∈ p.unique
    . rw [enter_known hmem]
      refine h.concat h.nodup ?_ (h.ordered_append _) (List.prefix_refl _) ?_ (by simp)
      . intro other
        rw [h.mem_iff, List.mem_append, List.mem_singleton, or_iff_left_of_imp]
        rintro ⟨⟩
        exact (h.mem_iff pixels).mp hmem
      . rintro _ ⟨⟩
        exact ⟨Nat.le_add_left _ _, List.idxOf_lt_length_of_mem hmem, List.getElem?_idxOf hmem⟩
    . have hnew : some pixels ∉ frames := (h.mem_iff pixels).not.mp hmem
      rw [enter_new hmem]
      refine h.concat ?_ ?_ ?_ (List.prefix_append _ _) ?_ (by simp)
      . exact List.nodup_append.mpr ⟨h.nodup, List.nodup_singleton _, by simp; grind⟩
      . simp [h.mem_iff]
      . rw [List.pairwise_append]
        refine ⟨h.ordered_append _, List.pairwise_singleton _ _, ?_⟩
        intro a ha b hb
        obtain rfl := List.mem_singleton.mp hb
        -- The frame is not in the list so far, and all frames with places are.
        have hold := (h.mem_iff a).mp ha
        rw [List.idxOf_append_of_mem hold, List.idxOf_append_of_notMem hnew]
        exact (List.idxOf_lt_length_of_mem hold).trans_le (Nat.le_add_right _ _)
      . rintro _ ⟨⟩
        simp

end Packing.Packs

theorem pack_packs (frames : List (Option Pixels)) : (pack frames).Packs frames := by
  induction frames using List.reverseRecOn with
  | nil => exact Packing.Packs.nil
  | append_singleton frames frame ih =>
    rw [pack_concat]
    exact ih.enter frame

namespace Packing.Packs

theorem unique_eq (hp : p.Packs frames) (hq : q.Packs frames) : p.unique = q.unique := by
  have hperm : p.unique.Perm q.unique := by
    rw [List.perm_ext_iff_of_nodup hp.nodup hq.nodup]
    intro pixels
    rw [hp.mem_iff, hq.mem_iff]
  apply hperm.eq_of_pairwise _ hp.ordered hq.ordered
  intro a b _ _ hab hba
  exact absurd hab (Nat.lt_asymm hba)

theorem place_inj (h : p.Packs frames) {i j : Nat} {a b : Pixels}
    (ha : frames[i]? = some (some a)) (hb : frames[j]? = some (some b))
    : p.place? i = p.place? j ↔ a = b := by
  obtain ⟨place, hplace, hpos, -, hfound⟩ := h.place_frame i a ha
  obtain ⟨place', hplace', hpos', hle', hfound'⟩ := h.place_frame j b hb
  rw [hplace, hplace', Option.some_inj]
  constructor
  . rintro rfl
    exact Option.some.inj (hfound.symm.trans hfound')
  . rintro rfl
    have hlt : place' - 1 < p.unique.length := by omega
    have := (List.getElem?_inj hlt h.nodup).mp (hfound'.trans hfound.symm)
    omega

theorem places_eq (hp : p.Packs frames) (hq : q.Packs frames) : p.places = q.places := by
  have hunique := hp.unique_eq hq
  apply List.ext_getElem?
  intro i
  cases hi : frames[i]? with
  | none =>
    have hlength := List.getElem?_eq_none_iff.mp hi
    rw [List.getElem?_eq_none (hp.length_places.trans_le hlength),
      List.getElem?_eq_none (hq.length_places.trans_le hlength)]
  | some frame =>
    cases frame with
    | none => exact (hp.place_hole i hi).trans (hq.place_hole i hi).symm
    | some pixels =>
      obtain ⟨place, hplace, hpos, hle, hfound⟩ := hp.place_frame i pixels hi
      obtain ⟨place', hplace', hpos', -, hfound'⟩ := hq.place_frame i pixels hi
      rw [← hunique] at hfound'
      have hlt : place - 1 < p.unique.length := by omega
      have hsame := (List.getElem?_inj hlt hp.nodup).mp (hfound.trans hfound'.symm)
      obtain rfl : place = place' := by omega
      exact hplace.trans hplace'.symm

theorem eq_pack (h : p.Packs frames) : p = pack frames :=
  have hpacks := pack_packs frames
  Packing.mk.injEq .. |>.mpr ⟨h.unique_eq hpacks, h.places_eq hpacks⟩

end Packing.Packs

theorem packs_nodup {unique : List Pixels} (h : unique.Nodup)
    : (⟨unique, List.range' 1 unique.length⟩ : Packing).Packs (unique.map some) where
  nodup := h
  mem_iff := by simp
  ordered := by
    have hnodup := h.map (Option.some_injective Pixels)
    rw [List.pairwise_iff_getElem]
    intro i j hi hj hlt
    have hindex (k : Nat) (hk : k < unique.length) : (unique.map some).idxOf (some unique[k]) = k := by
      have := hnodup.idxOf_getElem k (by simpa using hk)
      rwa [List.getElem_map] at this
    rw [hindex, hindex]
    exact hlt
  length_places := by simp
  place_frame i pixels hi := by
    rw [List.getElem?_map, Option.map_eq_some_iff] at hi
    obtain ⟨_, hi, ⟨⟩⟩ := hi
    obtain ⟨hlt, -⟩ := List.getElem?_eq_some_iff.mp hi
    have hplace : (List.range' 1 unique.length)[i]? = some (i + 1) := by
      simp [hlt, Nat.add_comm]
    exact ⟨i + 1, hplace, Nat.le_add_left _ _, hlt, by simpa using hi⟩
  place_hole := by simp

theorem hasAlpha_iff : (pack frames).hasAlpha ↔
    ∃ pixels, some pixels ∈ frames ∧ ∃ x ∈ pixels, x = 2 ∨ x = 3 := by
  simp [Packing.hasAlpha, Packing.isTransparent, mem_unique]

/-- One pass over a list of frames makes its packing, and it has no other one. Frames share a place
exactly if they are equal, there are no other places, and alpha is needed exactly if some frame has
a transparent pixel. What has been packed is packed as it is. -/
theorem packing_determined (frames : List (Option Pixels))
    : (frames.foldl Pass.enter .empty).toPacking = pack frames ∧
        (pack frames).Packs frames ∧ (∀ p : Packing, p.Packs frames → p = pack frames) ∧
        (∀ (i j : Nat) a b, frames[i]? = some (some a) → frames[j]? = some (some b) →
          ((pack frames).place? i = (pack frames).place? j ↔ a = b)) ∧
        (∀ i : Nat, (pack frames).place? i = none ↔ frames.length ≤ i) ∧
        ((pack frames).hasAlpha ↔
          ∃ pixels, some pixels ∈ frames ∧ ∃ x ∈ pixels, x = 2 ∨ x = 3) ∧
        pack ((pack frames).unique.map some) =
          ⟨(pack frames).unique, List.range' 1 (pack frames).unique.length⟩ := by
  have hpacks := pack_packs frames
  refine ⟨(Pass.run frames).2, hpacks, fun p h => h.eq_pack, fun i j a b => hpacks.place_inj, ?_,
    hasAlpha_iff, ?_⟩
  . intro i
    rw [Packing.place?, List.getElem?_eq_none_iff, hpacks.length_places]
  . exact (packs_nodup hpacks.nodup).eq_pack.symm

example : pack [none, some [1, 0], some [2], some [1, 0]] = ⟨[[1, 0], [2]], [1, 1, 2, 1]⟩ := by
  decide

end PulpGame.Sheet
