import Mathlib
import PulpGame.Sheet.Basic

namespace PulpGame.Sheet

/-- The image has a pixel for each of its places, and without alpha all of them are black or white. -/
def Image.IsTwoTone (i : Image) : Prop :=
  match i.samples with
  | .gray ls => ls.length = i.width * i.height ∧ ∀ l ∈ ls, l = 0 ∨ l = 255
  | .grayAlpha las => las.length = i.width * i.height

variable {withAlpha : Bool} {frames : List Pixels} {image : Image}

theorem strip_size (h : strip withAlpha frames = .ok image)
    : image.width = frameSide ∧ image.height = frameSide * frames.length := by
  unfold strip at h
  split at h
  . cases h
  . cases h
    exact ⟨rfl, rfl⟩

theorem length_of_strip (h : strip withAlpha frames = .ok image)
    : ∀ pixels ∈ frames, pixels.length = framePixels := by
  unfold strip at h
  split at h
  . cases h
  . next hnone =>
    intro pixels hpixels
    obtain ⟨i, hi, rfl⟩ := List.mem_iff_getElem.mp hpixels
    have hfine : frameFailure? withAlpha i frames[i] = none :=
      List.findSome?_eq_none_iff.mp hnone (frames[i], i)
        (List.mem_zipIdx_iff_getElem?.mpr (List.getElem?_eq_getElem hi))
    by_contra hlength
    rw [frameFailure?, if_pos hlength] at hfine
    cases hfine

theorem luminance_eq (pixel : UInt8) : luminance pixel = 0 ∨ luminance pixel = 255 := by
  unfold luminance
  split <;> simp

theorem length_flatten_of_strip (h : strip withAlpha frames = .ok image)
    : frames.flatten.length = image.width * image.height := by
  have hlength : frames.map List.length = frames.map fun _ => framePixels :=
    List.map_congr_left (length_of_strip h)
  obtain ⟨hwidth, hheight⟩ := strip_size h
  rw [List.length_flatten, hlength, List.map_const', List.sum_replicate, hwidth, hheight,
    framePixels, smul_eq_mul]
  ring

theorem strip_isTwoTone (h : strip withAlpha frames = .ok image) : image.IsTwoTone := by
  have hlength := length_flatten_of_strip h
  unfold strip at h
  split at h
  . cases h
  . cases withAlpha
    . cases h
      refine ⟨(List.length_map luminance).trans hlength, ?_⟩
      intro l hl
      obtain ⟨pixel, -, rfl⟩ := List.mem_map.mp hl
      exact luminance_eq pixel
    . cases h
      exact (List.length_map _).trans hlength

end PulpGame.Sheet
