import PulpGame.Proofs.Document.Failure
import PulpGame.Proofs.Sheet.Packing
import PulpGame.Proofs.Sheet.Places
import PulpGame.Proofs.Sheet.Rendering

namespace PulpGame

namespace Sheet

variable {frames : List (Option Pixels)} {pixels : Pixels} {e : Failure}

def greatestPixel (frames : List (Option Pixels)) : UInt8 := maxPixel (pack frames).hasAlpha

/-- The number of different frames in front of an index. -/
def differentBefore (frames : List (Option Pixels)) (i : Nat) : Nat :=
  (pack (frames.take i)).unique.length

def Locates (greatest : UInt8) (frames : List (Option Pixels)) : Failure → Prop
  | .frameSize frame length => ∃ pixels, frames[frame]? = some (some pixels) ∧
    pixels.length = length ∧ length ≠ framePixels
  | .badPixel frame index value => ∃ pixels, frames[frame]? = some (some pixels) ∧
    pixels[index]? = some value ∧ greatest < value
  | _ => False

theorem unique_append (frames others : List (Option Pixels))
    : (pack frames).unique <+: (pack (frames ++ others)).unique := by
  simp [pack, List.eraseDups_append]

theorem unique_take (frames : List (Option Pixels)) (i : Nat)
    : (pack (frames.take i)).unique <+: (pack frames).unique := by
  have happend := unique_append (frames.take i) (frames.drop i)
  rwa [List.take_append_drop] at happend

theorem nodup_unique_some (frames : List (Option Pixels)) : ((pack frames).unique.map some).Nodup :=
  (pack_packs frames).nodup.map (Option.some_injective Pixels)

theorem unique_subperm (frames : List (Option Pixels))
    : ((pack frames).unique.map some).Subperm frames := by
  apply List.subperm_of_subset (nodup_unique_some frames)
  intro frame hframe
  obtain ⟨pixels, hpixels, rfl⟩ := List.mem_map.mp hframe
  exact mem_unique.mp hpixels

theorem length_unique_eq
    : (pack frames).unique.length = frames.length ↔ frames.Nodup ∧ none ∉ frames := by
  constructor
  . intro h
    have hperm := (unique_subperm frames).perm_of_length_le (by rw [List.length_map, h])
    rw [← hperm.nodup_iff, ← hperm.mem_iff]
    exact ⟨nodup_unique_some frames, by simp⟩
  . rintro ⟨hnodup, hnone⟩
    have hle := (unique_subperm frames).length_le
    have hge : frames.length ≤ ((pack frames).unique.map some).length := by
      apply hnodup.length_le_of_subset
      rintro (_ | pixels) hframe
      . exact absurd hframe hnone
      . exact List.mem_map_of_mem (mem_unique.mpr hframe)
    rw [List.length_map] at hle hge
    exact Nat.le_antisymm hle hge

theorem differentBefore_le (frames : List (Option Pixels)) (i : Nat) : differentBefore frames i ≤ i := by
  have hle := (unique_subperm (frames.take i)).length_le
  rw [List.length_map] at hle
  exact hle.trans (List.length_take_le i frames)

theorem differentBefore_eq {i : Nat} (hi : i < frames.length)
    : differentBefore frames i = i ↔ (frames.take i).Nodup ∧ none ∉ frames.take i := by
  rw [← length_unique_eq, List.length_take_of_le hi.le]
  rfl

theorem unique_getElem? {i : Nat} (hi : frames[i]? = some (some pixels))
    (hfirst : some pixels ∉ frames.take i)
    : (pack frames).unique[differentBefore frames i]? = some pixels := by
  have hnew : pixels ∉ (pack (frames.take i)).unique := mem_unique.not.mpr hfirst
  have htake : frames.take (i + 1) = frames.take i ++ [some pixels] := by
    rw [List.take_add_one, hi]
    rfl
  have hunique : (pack (frames.take i)).unique ++ [pixels] <+: (pack frames).unique := by
    have hbegins := unique_take frames (i + 1)
    rwa [htake, unique_concat, if_neg hnew] at hbegins
  obtain ⟨others, hothers⟩ := hunique
  rw [← hothers, List.append_assoc, differentBefore, List.getElem?_append_right (Nat.le_refl _)]
  simp

theorem Defect.wrong_of_locates {greatest : UInt8} {number : Nat}
    (h : Defect greatest number pixels e) (hlocates : Locates greatest frames e)
    : ∃ q, frames[number]? = some (some q) ∧ ¬Shows greatest q := by
  cases h with
  | size =>
    obtain ⟨q, hq, hlength, hwrong⟩ := hlocates
    exact ⟨q, hq, fun hshows => hwrong (hlength.symm.trans hshows.1)⟩
  | pixel =>
    obtain ⟨q, hq, hp, hgreat⟩ := hlocates
    refine ⟨q, hq, fun hshows => ?_⟩
    exact UInt8.not_le.mpr hgreat (hshows.2 _ (List.mem_of_getElem? hp))

theorem frameStrip_eq_error (h : frameStrip (pack frames) = .error e)
    : ∃ (i : Nat) (pixels : Pixels), frames[i]? = some (some pixels) ∧
        (∀ j < i, ∀ q, frames[j]? = some (some q) → Shows (greatestPixel frames) q) ∧
        Defect (greatestPixel frames) (differentBefore frames i) pixels e := by
  obtain ⟨k, pixels, hk, hbefore, hdefect⟩ := strip_eq_error.mp h
  have hmem : some pixels ∈ frames := mem_unique.mp (List.mem_of_getElem? hk)
  -- Of the frames that share the place, the first one has brought it into the sheet.
  have hi : frames[frames.idxOf (some pixels)]? = some (some pixels) := List.getElem?_idxOf hmem
  generalize hindex : frames.idxOf (some pixels) = i at hi
  have hfirst : some pixels ∉ frames.take i := by
    rw [List.mem_take_iff_idxOf_lt hmem, hindex]
    exact Nat.lt_irrefl i
  have hnumber : k = differentBefore frames i := by
    obtain ⟨hlt, -⟩ := List.getElem?_eq_some_iff.mp hk
    exact (List.getElem?_inj hlt (pack_packs frames).nodup).mp
      (hk.trans (unique_getElem? hi hfirst).symm)
  subst hnumber
  refine ⟨i, pixels, hi, ?_, hdefect⟩
  intro j hj q hq
  have hmem : some q ∈ frames.take i := by
    rw [← List.getElem?_take_of_lt hj] at hq
    exact List.mem_of_getElem? hq
  obtain ⟨m, hm, hfound⟩ := List.getElem_of_mem (mem_unique.mpr hmem)
  obtain ⟨others, hothers⟩ := unique_take frames i
  apply hbefore m hm q
  rw [← hothers, List.getElem?_append_left hm, List.getElem?_eq_getElem hm, hfound]

theorem locates_iff {i : Nat} (hi : frames[i]? = some (some pixels))
    (hbefore : ∀ j < i, ∀ q, frames[j]? = some (some q) → Shows (greatestPixel frames) q)
    (h : Defect (greatestPixel frames) (differentBefore frames i) pixels e)
    : Locates (greatestPixel frames) frames e ↔ (frames.take i).Nodup ∧ none ∉ frames.take i := by
  obtain ⟨hlt, -⟩ := List.getElem?_eq_some_iff.mp hi
  rw [← differentBefore_eq hlt]
  have hle := differentBefore_le frames i
  constructor
  . intro hlocates
    -- A frame in front of the first one that is wrong is not wrong.
    by_contra hne
    have hlt : differentBefore frames i < i := by omega
    obtain ⟨q, hq, hwrong⟩ := h.wrong_of_locates hlocates
    exact hwrong (hbefore _ hlt q hq)
  . intro heq
    rw [heq] at h
    cases h with
    | size hlength => exact ⟨pixels, hi, rfl, hlength⟩
    | pixel hlength hp hgreat hfirst => exact ⟨pixels, hi, hp, hgreat⟩

end Sheet

open Sheet (Shows Defect greatestPixel differentBefore Locates)

variable {doc : Document} {settings : Settings} {journal journal' : List Journal.Entry}

/-- A failure to render the frames of a document is about the first one with which anything is wrong,
but its number is that of the different frames in front. It is the number of such a frame in the
document exactly if there are neither holes nor repeated frames in front of it. The failure of a tile
has the number in the document. -/
theorem frame_numbers {stage : Stage} {e : Failure}
    (h : doc.build settings journal = (.error ⟨stage, e⟩, journal'))
    : (stage = .frames → ∃ (i : Nat) (pixels : Pixels), doc.frames[i]? = some (some pixels) ∧
          (∀ j < i, ∀ q, doc.frames[j]? = some (some q) → Shows (greatestPixel doc.frames) q) ∧
          Defect (greatestPixel doc.frames) (differentBefore doc.frames i) pixels e ∧
          (Locates (greatestPixel doc.frames) doc.frames e ↔
            (doc.frames.take i).Nodup ∧ none ∉ doc.frames.take i)) ∧
        (stage = .tiles → ∃ tile frame, some tile ∈ doc.tiles ∧ frame ∈ tile.frames ∧
          doc.frames.length ≤ frame ∧ e = .unknownFrame tile.name frame) := by
  have hfails : FailsOnly (doc.buildWith settings blockCompiler) fun e =>
      (e.stage = .frames → Sheet.frameStrip (Sheet.pack doc.frames) = .error e.failure) ∧
        (e.stage = .tiles →
          Entity.IsUnknownFrame (Sheet.pack doc.frames) (doc.tiles.filterMap id) e.failure) := by
    apply Document.failsOnly_build <;> simp +contextual
  obtain ⟨hframes, htiles⟩ := Document.fails_build hfails h
  constructor
  . intro hstage
    obtain ⟨i, pixels, hi, hbefore, hdefect⟩ := Sheet.frameStrip_eq_error (hframes hstage)
    exact ⟨i, pixels, hi, hbefore, hdefect, Sheet.locates_iff hi hbefore hdefect⟩
  . intro hstage
    obtain ⟨tile, htile, frame, hframe, hnone, he⟩ := htiles hstage
    rw [Sheet.Packing.place?, List.getElem?_eq_none_iff, (Sheet.pack_packs _).length_places] at hnone
    exact ⟨tile, frame, by simpa using htile, hframe, hnone, he⟩

def spoiltFrames : List (Option Pixels) :=
  [none, some (.replicate 64 1), some (.replicate 64 1), some (.replicate 63 0 ++ [4])]

theorem frame_numbers_spoilt
    : ∃ journal', (framesDocument spoiltFrames).build {} [] =
          (.error ⟨.frames, .badPixel 1 63 4⟩, journal') ∧
        ∃ (i : Nat) (pixels : Pixels), spoiltFrames[i]? = some (some pixels) ∧
          Defect 1 (differentBefore spoiltFrames i) pixels (.badPixel 1 63 4) ∧
          (Locates 1 spoiltFrames (.badPixel 1 63 4) ↔
            (spoiltFrames.take i).Nodup ∧ none ∉ spoiltFrames.take i) := by
  have hbuild : (framesDocument spoiltFrames).build {} [] =
    (.error ⟨.frames, .badPixel 1 63 4⟩, _) := rfl
  obtain ⟨i, pixels, hi, -, hdefect, hlocates⟩ := (frame_numbers hbuild).1 rfl
  exact ⟨_, hbuild, i, pixels, hi, hdefect, hlocates⟩

theorem number_of_hole
    : ∃ (doc : Document) (journal' : List Journal.Entry) (e : Failure),
        doc.build {} [] = (.error ⟨.frames, e⟩, journal') ∧
          ¬Locates (greatestPixel doc.frames) doc.frames e := by
  refine ⟨framesDocument [none, some (.replicate 63 1)], _, .frameSize 0 63, rfl, ?_⟩
  rintro ⟨pixels, hhole, -⟩
  cases hhole

end PulpGame
