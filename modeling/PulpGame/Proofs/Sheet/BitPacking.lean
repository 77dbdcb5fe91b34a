import PulpGame.Proofs.Sheet.Png
import PulpGame.Proofs.Sheet.Rendering

namespace PulpGame.Sheet.Png

variable {width height stride x y x' y' i position : Nat} {luminance bytes bytes' : List UInt8}
  {bs : List Bool}

def bit? (bytes : List UInt8) (i position : Nat) : Option Bool :=
  bytes[i]?.map fun b => b.toNat.testBit (7 - position)

theorem bit?_eq (h : position < 8)
    : bit? bytes i position = (bytes.flatMap bits)[8 * i + position]? := by
  have hlength : ∀ row ∈ bytes.map bits, row.length = 8 := by simp [bits]
  rw [List.flatMap_def, getElem?_flatten hlength h, List.getElem?_map, bit?]
  cases bytes[i]? with
  | none => rfl
  | some b => simp [bits, h]

theorem eq_of_bit? (hlength : bytes.length = bytes'.length)
    (h : ∀ i position, i < bytes.length → position < 8 →
      bit? bytes i position = bit? bytes' i position)
    : bytes = bytes' := by
  apply List.ext_getElem hlength
  intro i hi hi'
  rw [← UInt8.toNat_inj]
  apply Nat.eq_of_testBit_eq
  intro j
  by_cases hj : j < 8
  . have hbit := h i (7 - j) hi (by omega)
    have hposition : 7 - (7 - j) = j := by omega
    simpa [bit?, hi, hi', hposition] using hbit
  . have hbig (b : UInt8) : b.toNat.testBit j = false := by
      apply Nat.testBit_lt_two_pow
      exact b.toNat_lt.trans_le (Nat.pow_le_pow_right (by decide) (by omega))
    rw [hbig, hbig]

theorem index_lt (hx : x < width) (hy : y < height) : y * width + x < width * height :=
  calc y * width + x
    _ < y * width + width := by omega
    _ = (y + 1) * width := (Nat.succ_mul y width).symm
    _ ≤ height * width := Nat.mul_le_mul_right width hy
    _ = width * height := Nat.mul_comm height width

theorem row_inj (hx : x < width) (hx' : x' < width) (h : y * width + x = y' * width + x')
    : y = y' ∧ x = x' := by
  have hrow (y x : Nat) (hx : x < width) : (y * width + x) / width = y := by
    rw [Nat.mul_comm, Nat.mul_add_div (by omega), Nat.div_eq_of_lt hx, Nat.add_zero]
  have hy : y = y' := by
    rw [← hrow y x hx, h, hrow y' x' hx']
  subst hy
  exact ⟨rfl, Nat.add_left_cancel h⟩

theorem place_inj (hx : x < 8 * stride) (hx' : x' < 8 * stride)
    (hbyte : y * stride + x / 8 = y' * stride + x' / 8) (hposition : x % 8 = x' % 8)
    : y = y' ∧ x = x' := by
  obtain ⟨hy, hcolumn⟩ := row_inj (by omega) (by omega) hbyte
  exact ⟨hy, by omega⟩

theorem exists_place (hi : i < stride * height) (hposition : position < 8)
    : ∃ x y, x < 8 * stride ∧ y < height ∧ i = y * stride + x / 8 ∧ position = x % 8 := by
  have hstride : 0 < stride := Nat.pos_of_mul_pos_right (Nat.zero_lt_of_lt hi)
  have hcolumn : i % stride < stride := Nat.mod_lt i hstride
  have hrow : i / stride < height := Nat.div_lt_of_lt_mul hi
  refine ⟨8 * (i % stride) + position, i / stride, by omega, hrow, ?_, by omega⟩
  rw [Nat.mul_add_div (by decide), Nat.div_eq_of_lt hposition, Nat.add_zero, Nat.mul_comm,
    Nat.div_add_mod]

/-- The bytes show the image: they are as many as the rows take, the bit of a pixel is set exactly
if the pixel is not black, and the bits behind the last pixel of a row are not set. -/
structure Packed (width height : Nat) (luminance bytes : List UInt8) : Prop where
  length : bytes.length = (width ⌈/⌉ 8) * height
  pixel : ∀ x y l, x < width → y < height → luminance[y * width + x]? = some l →
    bit? bytes (y * (width ⌈/⌉ 8) + x / 8) (x % 8) = some (l != 0)
  padding : ∀ x y, width ≤ x → x < 8 * (width ⌈/⌉ 8) → y < height →
    bit? bytes (y * (width ⌈/⌉ 8) + x / 8) (x % 8) = some false

theorem Packed.unique (hlength : width * height ≤ luminance.length)
    (h : Packed width height luminance bytes) (h' : Packed width height luminance bytes')
    : bytes = bytes' := by
  apply eq_of_bit? (h.length.trans h'.length.symm)
  intro i position hi hposition
  rw [h.length] at hi
  obtain ⟨x, y, hx, hy, rfl, rfl⟩ := exists_place hi hposition
  by_cases hpixel : x < width
  . have hl := List.getElem?_eq_getElem ((index_lt hpixel hy).trans_le hlength)
    rw [h.pixel x y _ hpixel hy hl, h'.pixel x y _ hpixel hy hl]
  . rw [h.padding x y (by omega) hx hy, h'.padding x y (by omega) hx hy]

theorem bytesFor_eq (width : Nat) : bytesFor width = width ⌈/⌉ 8 := by
  rw [Nat.ceilDiv_eq_add_pred_div, bytesFor]
  omega

theorem le_bytesFor (width : Nat) : width ≤ 8 * bytesFor width := by
  rw [bytesFor]
  omega

theorem length_packRow (n : Nat) (bs : List Bool) : (packRow n bs).length = n := by
  induction n generalizing bs with
  | zero => rfl
  | succ n ih => rw [packRow, List.length_cons, ih]

theorem bit?_packRow {n : Nat} (hbs : bs.length ≤ 8 * n) (hx : x < 8 * n)
    : bit? (packRow n bs) (x / 8) (x % 8) = some (bs.getD x false) := by
  rw [bit?_eq (Nat.mod_lt x (by decide)), bits_packRow hbs, Nat.div_add_mod]
  by_cases hlt : x < bs.length
  . rw [List.getElem?_append_left hlt]
    simp [hlt]
  . rw [List.getElem?_append_right (Nat.le_of_not_lt hlt), List.getElem?_replicate,
      if_pos (by omega)]
    simp [hlt]

theorem length_rows {α : Type} (width height : Nat) (xs : List α)
    : (Sheet.rows width height xs).length = height := by
  induction height generalizing xs with
  | zero => rfl
  | succ height ih => rw [Sheet.rows, List.length_cons, ih]

theorem getElem?_rows {α : Type} {xs : List α} (h : y < height)
    : (Sheet.rows width height xs)[y]? = some ((xs.drop (y * width)).take width) := by
  induction height generalizing xs y with
  | zero => cases h
  | succ height ih =>
    cases y with
    | zero => simp [Sheet.rows]
    | succ y =>
      rw [Sheet.rows, List.getElem?_cons_succ, ih (by omega), List.drop_drop, Nat.succ_mul,
        Nat.add_comm]

theorem length_packBits (width height : Nat) (luminance : List UInt8)
    : (packBits width height luminance).length = height := by
  rw [packBits, List.length_map, length_rows]

theorem length_of_mem_packBits {row : List UInt8} (h : row ∈ packBits width height luminance)
    : row.length = bytesFor width := by
  obtain ⟨pixels, -, rfl⟩ := List.mem_map.mp h
  exact length_packRow _ _

theorem bit?_packBits (hx : x < 8 * bytesFor width) (hy : y < height)
    : bit? (packBits width height luminance).flatten (y * bytesFor width + x / 8) (x % 8) =
        some ((((luminance.drop (y * width)).take width).map (· != 0)).getD x false) := by
  have hfits : (((luminance.drop (y * width)).take width).map (· != 0)).length ≤
      8 * bytesFor width := by
    rw [List.length_map]
    exact (List.length_take_le _ _).trans (le_bytesFor width)
  rw [← bit?_packRow hfits hx, bit?, bit?, Nat.mul_comm y,
    getElem?_flatten (fun _ => length_of_mem_packBits) (by omega), packBits, List.getElem?_map,
    getElem?_rows hy]
  rfl

theorem packed_packBits (width height : Nat) (luminance : List UInt8)
    : Packed width height luminance (packBits width height luminance).flatten := by
  have hstride := bytesFor_eq width
  have hwide := le_bytesFor width
  constructor
  . have hrows : (packBits width height luminance).map List.length =
        (packBits width height luminance).map fun _ => bytesFor width :=
      List.map_congr_left fun _ => length_of_mem_packBits
    rw [List.length_flatten, hrows, List.map_const', List.sum_replicate, length_packBits,
      smul_eq_mul, Nat.mul_comm, hstride]
  . intro x y l hx hy hl
    rw [← hstride, bit?_packBits (by omega) hy]
    simp [hx, hl]
  . intro x y hx hlt hy
    rw [← hstride] at hlt ⊢
    rw [bit?_packBits hlt hy]
    simp [Nat.not_lt_of_le hx]

def setBit? (bytes : List UInt8) (i position : Nat) : Option (List UInt8) :=
  bytes[i]?.map fun b => bytes.set i (b ||| 0x80 >>> UInt8.ofNat position)

def packPixel? (width : Nat) (bytes : List UInt8) (l : UInt8) (number : Nat)
    : Option (List UInt8) :=
  let (x, y) := (number % width, number / width)
  if l ≠ 0 then setBit? bytes (y * bytesFor width + x / 8) (x % 8) else some bytes

def packFrom? (width : Nat) (bytes luminance : List UInt8) (number : Nat) : Option (List UInt8) :=
  (luminance.zipIdx number).foldlM (fun bytes (l, n) => packPixel? width bytes l n) bytes

def packInPlace? (width height : Nat) (luminance : List UInt8) : Option (List UInt8) :=
  packFrom? width (List.replicate (bytesFor width * height) 0) (luminance.take (width * height)) 0

theorem packFrom?_cons (bytes luminance : List UInt8) (l : UInt8) (number : Nat)
    : packFrom? width bytes (l :: luminance) number =
        (packPixel? width bytes l number).bind fun bytes =>
          packFrom? width bytes luminance (number + 1) := by
  rw [packFrom?, List.zipIdx_cons, List.foldlM_cons]
  rfl

theorem testBit_or_shift {p q : Nat} (hp : p < 8) (hq : q < 8) (b : UInt8)
    : (b ||| 0x80 >>> UInt8.ofNat p).toNat.testBit (7 - q) =
        (b.toNat.testBit (7 - q) || decide (q = p)) := by
  have hpower : ∀ p < 8, ((0x80 : UInt8) >>> UInt8.ofNat p).toNat = 2 ^ (7 - p) := by decide
  rw [UInt8.toNat_or, Nat.testBit_or, hpower p hp, Nat.testBit_two_pow]
  congr 2
  rw [eq_iff_iff]
  omega

theorem setBit?_eq (hi : i < bytes.length) (hposition : position < 8)
    : ∃ bytes', setBit? bytes i position = some bytes' ∧ bytes'.length = bytes.length ∧
        bit? bytes' i position = some true ∧
        ∀ j q, q < 8 → ¬(j = i ∧ q = position) → bit? bytes' j q = bit? bytes j q := by
  refine ⟨_, by rw [setBit?, List.getElem?_eq_getElem hi]; rfl, List.length_set, ?_, ?_⟩
  . rw [bit?, List.getElem?_set_self hi, Option.map_some, testBit_or_shift hposition hposition]
    simp
  . intro j q hq hne
    unfold bit?
    by_cases hj : i = j
    . subst hj
      have hq' : q ≠ position := fun heq => hne ⟨rfl, heq⟩
      rw [List.getElem?_set_self hi, List.getElem?_eq_getElem hi, Option.map_some, Option.map_some,
        testBit_or_shift hposition hq]
      simp [hq']
    . rw [List.getElem?_set_ne hj]

theorem Packed.setBit? {l : UInt8} (h : Packed width height luminance bytes) (hx : x < width)
    (hy : y < height) (hl : l ≠ 0)
    : ∃ bytes', setBit? bytes (y * (width ⌈/⌉ 8) + x / 8) (x % 8) = some bytes' ∧
        Packed width height (luminance.set (y * width + x) l) bytes' := by
  have hwide : width ≤ 8 * (width ⌈/⌉ 8) := le_smul_ceilDiv (by decide : 0 < 8)
  have hbyte : y * (width ⌈/⌉ 8) + x / 8 < bytes.length := by
    rw [h.length]
    exact index_lt (by omega) hy
  obtain ⟨bytes', hset, hlength, hself, hother⟩ :=
    setBit?_eq hbyte (Nat.mod_lt x (by decide : 0 < 8))
  -- A byte and a position in it tell the pixel, or the place behind a row, that the bit is for.
  have hkept (x' y' : Nat) (hx' : x' < 8 * (width ⌈/⌉ 8)) (hne : ¬(y' = y ∧ x' = x))
      : bit? bytes' (y' * (width ⌈/⌉ 8) + x' / 8) (x' % 8) =
          bit? bytes (y' * (width ⌈/⌉ 8) + x' / 8) (x' % 8) := by
    apply hother _ _ (Nat.mod_lt x' (by decide))
    rintro ⟨hbyte, hposition⟩
    exact hne (place_inj hx' (by omega) hbyte hposition)
  refine ⟨bytes', hset, hlength.trans h.length, ?_, ?_⟩
  . intro x' y' l' hx' hy' hl'
    by_cases hsame : y' = y ∧ x' = x
    . obtain ⟨rfl, rfl⟩ := hsame
      obtain ⟨-, rfl⟩ : _ ∧ l = l' := by simpa [List.getElem?_set] using hl'
      rw [hself]
      simpa using hl
    . have hindex : y * width + x ≠ y' * width + x' := fun heq => hsame (row_inj hx' hx heq.symm)
      rw [List.getElem?_set_ne hindex] at hl'
      rw [hkept x' y' (by omega) hsame]
      exact h.pixel x' y' l' hx' hy' hl'
  . intro x' y' hx' hlt hy'
    rw [hkept x' y' hlt (by omega)]
    exact h.padding x' y' hx' hlt hy'

theorem Packed.packPixel? {number : Nat} (h : Packed width height luminance bytes)
    (hin : number < width * height) (hblack : luminance[number]? = some 0) (l : UInt8)
    : ∃ bytes', packPixel? width bytes l number = some bytes' ∧
        Packed width height (luminance.set number l) bytes' := by
  unfold Png.packPixel?
  dsimp only
  split
  . next hl =>
    have hwidth : 0 < width := Nat.pos_of_mul_pos_right (Nat.zero_lt_of_lt hin)
    have hset := h.setBit? (Nat.mod_lt number hwidth) (Nat.div_lt_of_lt_mul hin) hl
    rwa [← bytesFor_eq, Nat.mul_comm _ width, Nat.div_add_mod] at hset
  . next hl =>
    obtain rfl : l = 0 := Decidable.not_not.mp hl
    obtain ⟨hlt, hself⟩ := List.getElem?_eq_some_iff.mp hblack
    refine ⟨bytes, rfl, ?_⟩
    rwa [← hself, List.set_getElem_self]

theorem Packed.packFrom? {done pixels : List UInt8}
    (h : Packed width height (done ++ List.replicate pixels.length 0) bytes)
    (hin : done.length + pixels.length ≤ width * height)
    : ∃ bytes', packFrom? width bytes pixels done.length = some bytes' ∧
        Packed width height (done ++ pixels) bytes' := by
  induction pixels generalizing done bytes with
  | nil => exact ⟨bytes, rfl, h⟩
  | cons l pixels ih =>
    rw [List.length_cons] at h hin
    rw [List.replicate_succ] at h
    have hinside : done.length < width * height := by omega
    obtain ⟨bytes₁, hpixel, h₁⟩ := h.packPixel? hinside (by simp) l
    have hset : (done ++ 0 :: List.replicate pixels.length 0).set done.length l =
        (done ++ [l]) ++ List.replicate pixels.length 0 := by simp
    rw [hset] at h₁
    have hlength : (done ++ [l]).length = done.length + 1 := by simp
    obtain ⟨bytes₂, hrest, h₂⟩ := ih h₁ (by rw [hlength]; omega)
    rw [hlength] at hrest
    refine ⟨bytes₂, ?_, by rwa [List.append_assoc] at h₂⟩
    rw [packFrom?_cons, hpixel]
    exact hrest

theorem packed_black (width height pixels : Nat)
    : Packed width height (List.replicate pixels 0)
        (List.replicate ((width ⌈/⌉ 8) * height) 0) := by
  have hbit (x y : Nat) (hx : x < 8 * (width ⌈/⌉ 8)) (hy : y < height)
      : bit? (List.replicate ((width ⌈/⌉ 8) * height) 0) (y * (width ⌈/⌉ 8) + x / 8) (x % 8) =
          some false := by
    have hbyte : y * (width ⌈/⌉ 8) + x / 8 < (width ⌈/⌉ 8) * height := index_lt (by omega) hy
    simp [bit?, hbyte]
  have hwide : width ≤ 8 * (width ⌈/⌉ 8) := le_smul_ceilDiv (by decide : 0 < 8)
  refine ⟨List.length_replicate, ?_, fun x y _ hx hy => hbit x y hx hy⟩
  intro x y l hx hy hl
  obtain ⟨-, rfl⟩ : _ ∧ 0 = l := by simpa [List.getElem?_replicate] using hl
  exact hbit x y (by omega) hy

theorem packed_inPlace (hlength : width * height ≤ luminance.length)
    : ∃ bytes, packInPlace? width height luminance = some bytes ∧
        Packed width height luminance bytes := by
  have htake : (luminance.take (width * height)).length = width * height := by
    rw [List.length_take, Nat.min_eq_left hlength]
  have hblack : Packed width height
      ([] ++ List.replicate (luminance.take (width * height)).length 0)
      (List.replicate ((width ⌈/⌉ 8) * height) 0) := packed_black ..
  obtain ⟨bytes, hpack, h⟩ := hblack.packFrom? (by simp [htake])
  rw [← bytesFor_eq] at hpack
  refine ⟨bytes, hpack, h.length, ?_, h.padding⟩
  intro x y l hx hy hl
  refine h.pixel x y l hx hy ?_
  rwa [List.nil_append, List.getElem?_take_of_lt (index_lt hx hy)]

def expand (width height : Nat) (bytes : List UInt8) : Image :=
  ⟨width, height, .gray ((Sheet.rows (bytesFor width) height bytes).flatMap (tones width))⟩

theorem expand_packBits (h : Image.IsTwoTone ⟨width, height, .gray luminance⟩)
    : expand width height (packBits width height luminance).flatten =
        ⟨width, height, .gray luminance⟩ := by
  have hrows : Sheet.rows (bytesFor width) height (packBits width height luminance).flatten =
      packBits width height luminance := by
    have hcut := rows_flatten fun row (hrow : row ∈ packBits width height luminance) =>
      length_of_mem_packBits hrow
    rwa [length_packBits] at hcut
  rw [expand, hrows]
  exact Option.some.inj (decode_ofImage h)

theorem samples_of_strip {frames : List Pixels} {image : Image}
    (h : strip false frames = .ok image)
    : image.samples = .gray (frames.flatten.map Sheet.luminance) := by
  rw [strip_eq_painted h, stripOf, painted]
  simp

/-- The bytes of an image of two colours are those that show it: the bit of each pixel is set
exactly if the pixel is not black, and no other bit is set. They are also what comes of setting the
bits one after another, none of which is out of the bytes. A plain strip is read from its bytes as it
was, and so are the frames in it. -/
theorem packBits_keeps_pixels
    : (∀ (width height : Nat) (luminance : List UInt8), width * height ≤ luminance.length →
        (∀ bytes, Packed width height luminance bytes ↔
          bytes = (packBits width height luminance).flatten) ∧
        packInPlace? width height luminance = some (packBits width height luminance).flatten) ∧
      ∀ (frames : List Pixels) (image : Image), strip false frames = .ok image →
        ∃ luminance, image.samples = .gray luminance ∧
          let bytes := (packBits image.width image.height luminance).flatten
          expand image.width image.height bytes = image ∧
            (expand image.width image.height bytes).toFrames = frames := by
  constructor
  . intro width height luminance hlength
    have hpacked := packed_packBits width height luminance
    obtain ⟨bytes, hpack, h⟩ := packed_inPlace hlength
    refine ⟨?_, hpack.trans (congrArg some (h.unique hlength hpacked))⟩
    intro bytes'
    constructor
    . intro h'
      exact h'.unique hlength hpacked
    . rintro rfl
      exact hpacked
  . intro frames image h
    have hsamples := samples_of_strip h
    have hframes := toFrames_of_strip h
    -- black and white alone come back out of one bit
    have htones := strip_isTwoTone h
    obtain ⟨width, height, samples⟩ := image
    dsimp only at hsamples
    subst hsamples
    refine ⟨_, rfl, expand_packBits htones, ?_⟩
    dsimp only
    rwa [expand_packBits htones]

theorem packBits_keeps_pixels_nine
    : let luminance : List UInt8 := List.replicate 7 0 ++ [1, 255] ++ List.replicate 8 0 ++ [255]
      let frame : Pixels := List.replicate 63 0 ++ [1]
      9 * 2 ≤ luminance.length ∧ Packed 9 2 luminance [0x01, 0x80, 0x00, 0x80] ∧
        packInPlace? 9 2 luminance = some [0x01, 0x80, 0x00, 0x80] ∧
        strip false [frame] = .ok ⟨8, 8, .gray (List.replicate 63 255 ++ [0])⟩ ∧
        (expand 8 8 (List.replicate 7 0xff ++ [0xfe])).toFrames = [frame] := by
  intro luminance frame
  have hlength : 9 * 2 ≤ luminance.length := by decide
  have hframe : strip false [frame] = .ok ⟨8, 8, .gray (List.replicate 63 255 ++ [0])⟩ := by rfl
  have hbytes : (packBits 9 2 luminance).flatten = [0x01, 0x80, 0x00, 0x80] := by decide
  have hbytes' : (packBits 8 8 (List.replicate 63 255 ++ [0])).flatten =
      List.replicate 7 0xff ++ [0xfe] := by decide
  obtain ⟨himage, hstrip⟩ := packBits_keeps_pixels
  obtain ⟨hpacked, hplace⟩ := himage 9 2 luminance hlength
  obtain ⟨_, ⟨⟩, -, hframes⟩ := hstrip [frame] _ hframe
  dsimp only at hframes
  rw [hbytes] at hpacked hplace
  rw [hbytes'] at hframes
  exact ⟨hlength, (hpacked _).mpr rfl, hplace, hframe, hframes⟩

end PulpGame.Sheet.Png
