import PulpGame.Proofs.Sheet.Strip

namespace PulpGame.Sheet

inductive Sample where
  | gray (luminance : UInt8)
  | grayAlpha (luminance alpha : UInt8)
deriving DecidableEq, Repr

def sampleOf (withAlpha : Bool) (pixel : UInt8) : Sample :=
  if withAlpha then .grayAlpha (luminance pixel) (alpha pixel) else .gray (luminance pixel)

/-- A pixel of a frame and its place in the strip, in coordinates of 32 bits. -/
structure Dot where
  x : UInt32
  y : UInt32
  pixel : UInt8

def dotsFrom (number index : Nat) (pixels : Pixels) : List Dot :=
  (pixels.zipIdx index).map fun (p, i) =>
    ⟨i.toUInt32 % frameSide.toUInt32,
      number.toUInt32 * frameSide.toUInt32 + i.toUInt32 / frameSide.toUInt32, p⟩

def dotsOf (number : Nat) (frames : List Pixels) : List Dot :=
  (frames.zipIdx number).flatMap fun (pixels, n) => dotsFrom n 0 pixels

def dots (frames : List Pixels) : List Dot := dotsOf 0 frames

def Samples.set? : Samples → Nat → Sample → Option Samples
  | .gray ls, i, .gray l => some (.gray (ls.set i l))
  | .grayAlpha las, i, .grayAlpha l a => some (.grayAlpha (las.set i (l, a)))
  | _, _, _ => none

def Image.put? (i : Image) (x y : Nat) (s : Sample) : Option Image :=
  if x < i.width ∧ y < i.height then
    (i.samples.set? (y * i.width + x) s).map fun samples => { i with samples := samples }
  else none

def painted (withAlpha : Bool) (pixels : List UInt8) (blank : Nat) : Samples :=
  if withAlpha then
    .grayAlpha (pixels.map (fun p => (luminance p, alpha p)) ++ List.replicate blank (0, 0))
  else .gray (pixels.map luminance ++ List.replicate blank 0)

def stripOf (height : Nat) (samples : Samples) : Image := ⟨frameSide, height, samples⟩

def paint (withAlpha : Bool) (image : Image) (ds : List Dot) : Option Image :=
  ds.foldlM (fun image d => image.put? d.x.toNat d.y.toNat (sampleOf withAlpha d.pixel)) image

def blankStrip (withAlpha : Bool) (frames : Nat) : Image :=
  stripOf (frameSide * frames) (painted withAlpha [] (framePixels * frames))

variable {withAlpha : Bool} {frames : List Pixels} {pixels : Pixels} {ds es : List Dot}

def InOrder : Nat → List Dot → Prop
  | _, [] => True
  | place, d :: ds =>
    d.x.toNat < frameSide ∧ d.y.toNat * frameSide + d.x.toNat = place ∧ InOrder (place + 1) ds

theorem InOrder.append {place : Nat} (hd : InOrder place ds) (he : InOrder (place + ds.length) es)
    : InOrder place (ds ++ es) := by
  induction ds generalizing place with
  | nil => simpa using he
  | cons d ds ih =>
    obtain ⟨hx, hplace, hrest⟩ := hd
    refine ⟨hx, hplace, ih hrest ?_⟩
    rwa [List.length_cons, Nat.add_comm ds.length, ← Nat.add_assoc] at he

theorem InOrder.inside {place : Nat} (h : InOrder place ds)
    : ∀ d ∈ ds, d.x.toNat < frameSide ∧ d.y.toNat * frameSide + d.x.toNat < place + ds.length := by
  induction ds generalizing place with
  | nil => simp
  | cons d ds ih =>
    obtain ⟨hx, hplace, hrest⟩ := h
    rw [List.forall_mem_cons, List.length_cons]
    refine ⟨⟨hx, by omega⟩, ?_⟩
    intro e he
    obtain ⟨hex, hey⟩ := ih hrest e he
    exact ⟨hex, by omega⟩

theorem toNat_column {index : Nat} (h : index < framePixels)
    : (index.toUInt32 % frameSide.toUInt32).toNat = index % frameSide := by
  have hside : frameSide.toUInt32.toNat = frameSide := rfl
  have hindex : index.toUInt32.toNat = index := by
    unfold framePixels frameSide at h
    exact Nat.mod_eq_of_lt (by omega)
  rw [UInt32.toNat_mod, hindex, hside]

theorem toNat_row {number index : Nat} (hnumber : frameSide * (number + 1) < 2 ^ 32)
    (h : index < framePixels)
    : (number.toUInt32 * frameSide.toUInt32 + index.toUInt32 / frameSide.toUInt32).toNat =
        number * frameSide + index / frameSide := by
  have hside : frameSide.toUInt32.toNat = frameSide := rfl
  unfold framePixels frameSide at h
  unfold frameSide at hnumber
  have hindex : index.toUInt32.toNat = index := Nat.mod_eq_of_lt (by omega)
  have hnumber' : number.toUInt32.toNat = number := Nat.mod_eq_of_lt (by omega)
  rw [UInt32.toNat_add, UInt32.toNat_mul, UInt32.toNat_div, hindex, hnumber', hside]
  unfold frameSide
  omega

theorem inOrder_dotsFrom {number index : Nat} (hnumber : frameSide * (number + 1) < 2 ^ 32)
    (hlength : index + pixels.length ≤ framePixels)
    : InOrder (framePixels * number + index) (dotsFrom number index pixels) := by
  induction pixels generalizing index with
  | nil => trivial
  | cons p pixels ih =>
    rw [List.length_cons] at hlength
    have hindex : index < framePixels := by omega
    have hrest : InOrder (framePixels * number + (index + 1)) (dotsFrom number (index + 1) pixels) :=
      ih (by omega)
    refine ⟨?_, ?_, hrest⟩
    . exact (toNat_column hindex).trans_lt (Nat.mod_lt _ (by decide))
    . dsimp only
      rw [toNat_column hindex, toNat_row hnumber hindex]
      unfold framePixels frameSide
      omega

theorem inOrder_dotsOf {number : Nat} (hnumber : frameSide * (number + frames.length) < 2 ^ 32)
    (hlength : ∀ pixels ∈ frames, pixels.length = framePixels)
    : InOrder (framePixels * number) (dotsOf number frames) := by
  induction frames generalizing number with
  | nil => trivial
  | cons pixels frames ih =>
    rw [List.length_cons] at hnumber
    rw [List.forall_mem_cons] at hlength
    have hrest : InOrder (framePixels * (number + 1)) (dotsOf (number + 1) frames) :=
      ih (by rwa [Nat.add_right_comm]) hlength.2
    have hfirst : InOrder (framePixels * number + 0) (dotsFrom number 0 pixels) :=
      inOrder_dotsFrom ((Nat.mul_le_mul_left _ (by omega)).trans_lt hnumber) (by omega)
    refine InOrder.append hfirst ?_
    have hdots : (dotsFrom number 0 pixels).length = framePixels := by
      rw [dotsFrom, List.length_map, List.length_zipIdx, hlength.1]
    rwa [hdots]

theorem pixel_dotsOf (number : Nat) (frames : List Pixels)
    : (dotsOf number frames).map (·.pixel) = frames.flatten := by
  induction frames generalizing number with
  | nil => rfl
  | cons pixels frames ih =>
    have hfirst : (dotsFrom number 0 pixels).map (·.pixel) = pixels := by
      simp [dotsFrom, Function.comp_def]
    rw [List.flatten_cons, ← ih (number + 1), ← hfirst, ← List.map_append]
    simp [dotsOf, hfirst]

theorem strip_eq_painted {image : Image} (h : strip withAlpha frames = .ok image)
    : image = stripOf (frameSide * frames.length) (painted withAlpha frames.flatten 0) := by
  unfold strip at h
  split at h
  . cases h
  . cases h
    cases withAlpha <;> simp [stripOf, painted]

theorem set?_painted (pixels : List UInt8) (p : UInt8) (blank : Nat)
    : (painted withAlpha pixels (blank + 1)).set? pixels.length (sampleOf withAlpha p) =
        some (painted withAlpha (pixels ++ [p]) blank) := by
  cases withAlpha <;> simp [painted, sampleOf, Samples.set?, List.replicate_succ]

theorem put?_painted {height x y : Nat} (hx : x < frameSide) (hy : y < height)
    (hplace : y * frameSide + x = pixels.length) (p : UInt8) (blank : Nat)
    : (stripOf height (painted withAlpha pixels (blank + 1))).put? x y (sampleOf withAlpha p) =
        some (stripOf height (painted withAlpha (pixels ++ [p]) blank)) := by
  have hset : (painted withAlpha pixels (blank + 1)).set? (y * frameSide + x)
      (sampleOf withAlpha p) = some (painted withAlpha (pixels ++ [p]) blank) := by
    rw [hplace, set?_painted]
  rw [Image.put?, if_pos ⟨hx, hy⟩]
  exact congrArg _ hset

theorem paint_painted {height blank : Nat} (h : InOrder pixels.length ds)
    (hspace : pixels.length + (ds.length + blank) = frameSide * height)
    : paint withAlpha (stripOf height (painted withAlpha pixels (ds.length + blank))) ds =
        some (stripOf height (painted withAlpha (pixels ++ ds.map (·.pixel)) blank)) := by
  induction ds generalizing pixels with
  | nil => simp [paint]
  | cons d ds ih =>
    obtain ⟨hx, hplace, hrest⟩ := h
    rw [List.length_cons] at hspace
    have hy : d.y.toNat < height := by
      apply Nat.lt_of_mul_lt_mul_left (a := frameSide)
      rw [Nat.mul_comm]
      omega
    have hlength : (pixels ++ [d.pixel]).length = pixels.length + 1 := by simp
    rw [← hlength] at hrest
    have hpaint := ih hrest (by omega)
    rw [List.length_cons, Nat.add_right_comm, paint, List.foldlM_cons,
      put?_painted hx hy hplace d.pixel (ds.length + blank)]
    simpa [paint] using hpaint

theorem paint_dots {image : Image} (hrange : frameSide * frames.length < 2 ^ 32)
    (h : strip withAlpha frames = .ok image)
    : (∀ d ∈ dots frames, d.x.toNat < image.width ∧ d.y.toNat < image.height) ∧
        paint withAlpha (blankStrip withAlpha frames.length) (dots frames) = some image := by
  have hlength := length_of_strip h
  have hfits : frameSide * (0 + frames.length) < 2 ^ 32 := by rwa [Nat.zero_add]
  have horder : InOrder 0 (dots frames) := inOrder_dotsOf hfits hlength
  have hcount : (dots frames).length = frameSide * (frameSide * frames.length) := by
    have hpixels := congrArg List.length (pixel_dotsOf 0 frames)
    rw [List.length_map, length_flatten_of_strip h, (strip_size h).1, (strip_size h).2] at hpixels
    exact hpixels
  constructor
  . obtain ⟨hwidth, hheight⟩ := strip_size h
    rw [hwidth, hheight]
    intro d hd
    obtain ⟨hx, hplace⟩ := horder.inside d hd
    refine ⟨hx, Nat.lt_of_mul_lt_mul_left (a := frameSide) ?_⟩
    rw [Nat.mul_comm]
    omega
  . have hspace : 0 + ((dots frames).length + 0) = frameSide * (frameSide * frames.length) := by omega
    have hpaint : paint withAlpha (stripOf (frameSide * frames.length)
        (painted withAlpha [] ((dots frames).length + 0))) (dots frames) = _ :=
      paint_painted horder hspace
    have hblank : framePixels * frames.length = (dots frames).length + 0 := by
      rw [hcount, framePixels, Nat.mul_assoc, Nat.add_zero]
    rw [strip_eq_painted h, blankStrip, hblank, hpaint, List.nil_append, dots, pixel_dotsOf]

end PulpGame.Sheet
