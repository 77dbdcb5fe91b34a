import PulpGame.Proofs.Document.Validity
import PulpGame.Proofs.Sheet.Painting

namespace PulpGame.Sheet

theorem findSome?_zipIdx_eq_some {α β : Type} {f : α × Nat → Option β} {as : List α} {b : β}
    {start : Nat}
    : (as.zipIdx start).findSome? f = some b ↔
        ∃ i a, as[i]? = some a ∧ f (a, start + i) = some b ∧
          ∀ j < i, ∀ c, as[j]? = some c → f (c, start + j) = none := by
  induction as generalizing start with
  | nil => simp
  | cons a as ih =>
    rw [List.zipIdx_cons, List.findSome?_cons]
    cases ha : f (a, start) with
    | some b' =>
      constructor
      . rintro ⟨⟩
        exact ⟨0, a, rfl, ha, by simp⟩
      . rintro ⟨i, a', hi, hb, hnone⟩
        cases i with
        | zero =>
          obtain rfl : a = a' := by simpa using hi
          exact ha.symm.trans hb
        | succ i =>
          have := hnone 0 (by omega) a rfl
          simp [ha] at this
    | none =>
      dsimp only
      rw [ih]
      constructor
      . rintro ⟨i, a', hi, hb, hnone⟩
        refine ⟨i + 1, a', hi, by rwa [Nat.add_right_comm] at hb, ?_⟩
        intro j hj c hc
        cases j with
        | zero => simp_all
        | succ j =>
          have := hnone j (by omega) c (by simpa using hc)
          rwa [Nat.add_right_comm] at this
      . rintro ⟨i, a', hi, hb, hnone⟩
        cases i with
        | zero => simp_all
        | succ i =>
          refine ⟨i, a', by simpa using hi, by rwa [Nat.add_right_comm], ?_⟩
          intro j hj c hc
          have := hnone (j + 1) (by omega) c (by simpa using hc)
          rwa [Nat.add_right_comm]

/-- What is wrong with a frame of that number: it has not the pixels of a frame, or else a pixel that
is too great, the first of which is told. -/
inductive Defect (greatest : UInt8) (number : Nat) (pixels : Pixels) : Failure → Prop
  | size (hlength : pixels.length ≠ framePixels)
    : Defect greatest number pixels (.frameSize number pixels.length)
  | pixel {i : Nat} {p : UInt8} (hlength : pixels.length = framePixels)
      (hp : pixels[i]? = some p) (hgreat : greatest < p)
      (hfirst : ∀ j < i, ∀ q, pixels[j]? = some q → q ≤ greatest)
    : Defect greatest number pixels (.badPixel number i p)

variable {withAlpha : Bool} {number : Nat} {frames : List Pixels} {pixels : Pixels} {e : Failure}
  {image : Image}

theorem frameFailure?_eq_some
    : frameFailure? withAlpha number pixels = some e ↔ Defect (maxPixel withAlpha) number pixels e := by
  unfold frameFailure?
  split
  . next hlength =>
    constructor
    . rintro ⟨⟩
      exact .size hlength
    . rintro (_ | hlength')
      . rfl
      . exact absurd hlength' hlength
  . next hlength =>
    rw [ne_eq, Decidable.not_not] at hlength
    rw [Option.map_eq_some_iff, List.find?_eq_findSome?_guard]
    constructor
    . rintro ⟨⟨p, i⟩, hfound, rfl⟩
      obtain ⟨i', p', hp, hguard, hnone⟩ := findSome?_zipIdx_eq_some.mp hfound
      obtain ⟨heq, hgreat⟩ := Option.guard_eq_some_iff.mp hguard
      rw [Prod.mk.injEq, Nat.zero_add] at heq
      obtain ⟨rfl, rfl⟩ := heq
      refine .pixel hlength hp (of_decide_eq_true hgreat) ?_
      intro j hj q hq
      have := hnone j hj q hq
      rw [Option.guard_eq_none_iff] at this
      simpa using this
    . rintro (hlength' | @⟨i, p, -, hp, hgreat, hfirst⟩)
      . exact absurd hlength hlength'
      . refine ⟨(p, i), findSome?_zipIdx_eq_some.mpr ⟨i, p, hp, ?_, ?_⟩, rfl⟩
        . simp [Option.guard, hgreat]
        . intro j hj q hq
          simpa [Option.guard] using hfirst j hj q hq

theorem strip_eq_error
    : strip withAlpha frames = .error e ↔
        ∃ k pixels, frames[k]? = some pixels ∧
          (∀ j < k, ∀ q, frames[j]? = some q → Shows (maxPixel withAlpha) q) ∧
          Defect (maxPixel withAlpha) k pixels e := by
  have hfound : frames.zipIdx.findSome? (fun q => frameFailure? withAlpha q.2 q.1) = some e ↔
      ∃ k pixels, frames[k]? = some pixels ∧
        (∀ j < k, ∀ q, frames[j]? = some q → Shows (maxPixel withAlpha) q) ∧
        Defect (maxPixel withAlpha) k pixels e := by
    rw [findSome?_zipIdx_eq_some]
    simp only [Nat.zero_add, frameFailure?_eq_some, frameFailure?_eq_none]
    exact exists₂_congr fun k pixels => and_congr_right fun _ => and_comm
  rw [← hfound]
  unfold strip
  split
  . next hsome =>
    change frames.zipIdx.findSome? (fun q => frameFailure? withAlpha q.2 q.1) = _ at hsome
    simp [hsome]
  . next hnone =>
    change frames.zipIdx.findSome? (fun q => frameFailure? withAlpha q.2 q.1) = _ at hnone
    simp [hnone]

def Image.sample? (i : Image) (x y : Nat) : Option Sample :=
  if x < i.width ∧ y < i.height then
    match i.samples with
    | .gray ls => (ls[y * i.width + x]?).map .gray
    | .grayAlpha las => (las[y * i.width + x]?).map fun (l, a) => .grayAlpha l a
  else none

def Sample.Shows (withAlpha : Bool) (pixel : UInt8) : Sample → Prop
  | .gray l => withAlpha = false ∧ l = if pixel % 2 = 0 then 255 else 0
  | .grayAlpha l a => withAlpha = true ∧ (l = if pixel % 2 = 0 then 255 else 0) ∧
    a = if pixel = 2 ∨ pixel = 3 then 0 else 255

def Samples.toPixels : Samples → List UInt8
  | .gray ls => ls.map fun l => if l = 255 then 0 else 1
  | .grayAlpha las => las.map fun (l, a) => (if l = 255 then 0 else 1) + if a = 0 then 2 else 0

def Image.toFrames (i : Image) : List Pixels :=
  rows framePixels (i.height / frameSide) i.samples.toPixels

theorem le_one_iff {p : UInt8} : p ≤ 1 ↔ p = 0 ∨ p = 1 := by
  simp only [UInt8.le_iff_toNat_le, ← UInt8.toNat_inj]
  change p.toNat ≤ 1 ↔ p.toNat = 0 ∨ p.toNat = 1
  omega

theorem le_three_iff {p : UInt8} : p ≤ 3 ↔ p = 0 ∨ p = 1 ∨ p = 2 ∨ p = 3 := by
  simp only [UInt8.le_iff_toNat_le, ← UInt8.toNat_inj]
  change p.toNat ≤ 3 ↔ p.toNat = 0 ∨ p.toNat = 1 ∨ p.toNat = 2 ∨ p.toNat = 3
  omega

theorem maxPixel_le (withAlpha : Bool) : maxPixel withAlpha ≤ 3 := by
  cases withAlpha <;> decide

theorem sampleOf_shows {p : UInt8} (h : p ≤ maxPixel withAlpha)
    : (sampleOf withAlpha p).Shows withAlpha p := by
  have hle : p ≤ 3 := UInt8.le_trans h (maxPixel_le withAlpha)
  cases withAlpha with
  | false => exact ⟨rfl, rfl⟩
  | true =>
    refine ⟨rfl, rfl, ?_⟩
    rcases le_three_iff.mp hle with rfl | rfl | rfl | rfl <;> rfl

theorem rows_flatten {α : Type} {width : Nat} {as : List (List α)}
    (h : ∀ row ∈ as, row.length = width) : rows width as.length as.flatten = as := by
  induction as with
  | nil => rfl
  | cons row as ih =>
    rw [List.forall_mem_cons] at h
    rw [List.length_cons, rows, List.flatten_cons, ← h.1, List.take_left, List.drop_left, h.1, ih h.2]

theorem getElem?_flatten {α : Type} {width k i : Nat} {as : List (List α)}
    (h : ∀ row ∈ as, row.length = width) (hi : i < width)
    : as.flatten[width * k + i]? = as[k]?.bind (·[i]?) := by
  induction as generalizing k with
  | nil => simp
  | cons row as ih =>
    rw [List.forall_mem_cons] at h
    rw [List.flatten_cons]
    cases k with
    | zero => rw [Nat.mul_zero, Nat.zero_add, List.getElem?_append_left (by omega)]; rfl
    | succ k =>
      have hplace : width * (k + 1) + i = row.length + (width * k + i) := by
        rw [h.1, Nat.mul_succ]
        omega
      rw [hplace, List.getElem?_append_right (Nat.le_add_right _ _), Nat.add_sub_cancel_left, ih h.2]
      rfl

theorem toPixels_painted {pixels : List UInt8} (h : ∀ p ∈ pixels, p ≤ maxPixel withAlpha)
    : (painted withAlpha pixels 0).toPixels = pixels := by
  cases withAlpha with
  | false =>
    have hread : ∀ p ∈ pixels, (if luminance p = 255 then 0 else 1) = p := by
      intro p hp
      rcases le_one_iff.mp (h p hp) with rfl | rfl <;> rfl
    simpa [painted, Samples.toPixels, Function.comp_def] using List.map_congr_left hread
  | true =>
    have hread : ∀ p ∈ pixels,
        (if luminance p = 255 then 0 else 1) + (if alpha p = 0 then 2 else 0) = p := by
      intro p hp
      rcases le_three_iff.mp (h p hp) with rfl | rfl | rfl | rfl <;> rfl
    simpa [painted, Samples.toPixels, Function.comp_def] using List.map_congr_left hread

theorem shows_of_strip (h : strip withAlpha frames = .ok image)
    : ∀ pixels ∈ frames, Shows (maxPixel withAlpha) pixels :=
  isOk_strip.mp (by rw [h]; rfl)

theorem sample?_of_strip (h : strip withAlpha frames = .ok image) {k x y : Nat}
    (hframe : frames[k]? = some pixels) (hx : x < frameSide) (hy : y < frameSide)
    : ∃ p s, pixels[frameSide * y + x]? = some p ∧
        image.sample? x (frameSide * k + y) = some s ∧ s.Shows withAlpha p := by
  have hshows := shows_of_strip h
  have hmem : pixels ∈ frames := List.mem_of_getElem? hframe
  obtain ⟨hlength, hle⟩ := hshows pixels hmem
  have hinside : frameSide * y + x < framePixels := by
    unfold framePixels frameSide at *
    omega
  rw [← hlength] at hinside
  have hplace : frames.flatten[(frameSide * k + y) * frameSide + x]? =
      some pixels[frameSide * y + x] := by
    -- A strip is as wide as its frames, so their pixels follow each other without gaps.
    have hindex : (frameSide * k + y) * frameSide + x = framePixels * k + (frameSide * y + x) := by
      unfold framePixels
      ring
    rw [hindex, getElem?_flatten (fun row hrow => (hshows row hrow).1) (hlength ▸ hinside), hframe]
    exact List.getElem?_eq_getElem hinside
  have hrow : frameSide * k + y < frameSide * frames.length := by
    obtain ⟨hk, -⟩ := List.getElem?_eq_some_iff.mp hframe
    unfold frameSide at *
    omega
  refine ⟨_, sampleOf withAlpha pixels[frameSide * y + x], List.getElem?_eq_getElem hinside, ?_,
    sampleOf_shows (hle _ (List.getElem_mem hinside))⟩
  rw [strip_eq_painted h, Image.sample?, if_pos ⟨hx, hrow⟩]
  cases withAlpha <;> simp [stripOf, painted, sampleOf, hplace, -List.map_flatten]

theorem toFrames_of_strip (h : strip withAlpha frames = .ok image) : image.toFrames = frames := by
  have hshows := shows_of_strip h
  have hpixels : ∀ p ∈ frames.flatten, p ≤ maxPixel withAlpha := by
    intro p hp
    obtain ⟨pixels, hmem, hp⟩ := List.mem_flatten.mp hp
    exact (hshows pixels hmem).2 p hp
  have hcount : frameSide * frames.length / frameSide = frames.length :=
    Nat.mul_div_cancel_left _ (by decide)
  rw [strip_eq_painted h, Image.toFrames]
  change rows framePixels (frameSide * frames.length / frameSide) (painted _ _ _).toPixels = _
  rw [toPixels_painted hpixels, hcount, rows_flatten fun row hrow => (hshows row hrow).1]

/-- A strip is made exactly of frames that have all their pixels, and none that is too great. The
pixels are painted inside of it, each where it belongs, and the frames can be read off it. If a strip
cannot be made, the first frame with which anything is wrong is told, and what that is. -/
theorem strip_shows_frames (withAlpha : Bool) (frames : List Pixels)
    (hrange : 8 * frames.length < 2 ^ 32)
    : ((strip withAlpha frames).isOk ↔ ∀ pixels ∈ frames, Shows (maxPixel withAlpha) pixels) ∧
        (∀ image, strip withAlpha frames = .ok image →
          image.width = 8 ∧ image.height = 8 * frames.length ∧
          (∀ d ∈ dots frames, d.x.toNat < image.width ∧ d.y.toNat < image.height) ∧
          paint withAlpha (blankStrip withAlpha frames.length) (dots frames) = some image ∧
          (∀ (k x y : Nat) pixels, frames[k]? = some pixels → x < 8 → y < 8 →
            ∃ p s, pixels[8 * y + x]? = some p ∧ image.sample? x (8 * k + y) = some s ∧
              s.Shows withAlpha p) ∧
          image.toFrames = frames) ∧
        ∀ e, strip withAlpha frames = .error e →
          ∃ (k : Nat) (pixels : Pixels), frames[k]? = some pixels ∧
            (∀ j < k, ∀ q, frames[j]? = some q → Shows (maxPixel withAlpha) q) ∧
            Defect (maxPixel withAlpha) k pixels e := by
  refine ⟨isOk_strip, ?_, fun e => strip_eq_error.mp⟩
  intro image h
  obtain ⟨hwidth, hheight⟩ := strip_size h
  obtain ⟨hinside, hpaint⟩ := paint_dots hrange h
  exact ⟨hwidth, hheight, hinside, hpaint,
    fun k x y pixels hframe hx hy => sample?_of_strip h hframe hx hy, toFrames_of_strip h⟩

theorem strip_shows_frames_clear
    : let frames : List Pixels := [.replicate 64 1, .replicate 63 2 ++ [3]]
      8 * frames.length < 2 ^ 32 ∧ ∃ image, strip true frames = .ok image ∧ image.height = 16 ∧
        image.sample? 7 7 = some (.grayAlpha 0 255) ∧ image.sample? 6 15 = some (.grayAlpha 255 0) ∧
        image.sample? 7 15 = some (.grayAlpha 0 0) ∧ image.toFrames = frames := by
  intro frames
  have hrange : 8 * frames.length < 2 ^ 32 := by decide
  have hshows : ∀ pixels ∈ frames, Shows (maxPixel true) pixels := by
    simp [frames, Shows, maxPixel, framePixels, frameSide]
  obtain ⟨hok, himage, -⟩ := strip_shows_frames true frames hrange
  obtain ⟨image, hstrip⟩ := Document.eq_ok_of_isOk (hok.mpr hshows)
  obtain ⟨-, hheight, -, -, -, hframes⟩ := himage image hstrip
  refine ⟨hrange, image, hstrip, hheight, ?_, ?_, ?_, hframes⟩
  all_goals
    rw [strip_eq_painted hstrip]
    decide

end PulpGame.Sheet
