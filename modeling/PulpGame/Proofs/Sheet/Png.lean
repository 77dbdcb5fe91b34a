import Mathlib
import PulpGame.Proofs.Sheet.Strip
import PulpGame.Sheet.Png

namespace PulpGame.Sheet

theorem flatten_rows {α : Type} {width height : Nat} {xs : List α}
    (h : xs.length = width * height) : (rows width height xs).flatten = xs := by
  induction height generalizing xs with
  | zero =>
    rw [Nat.mul_zero, List.length_eq_zero_iff] at h
    rw [h]
    rfl
  | succ height ih =>
    have hrest : (xs.drop width).length = width * height := by
      rw [List.length_drop, h, Nat.mul_succ, Nat.add_sub_cancel]
    rw [rows, List.flatten_cons, ih hrest, List.take_append_drop]

theorem length_of_mem_rows {α : Type} {width height : Nat} {xs row : List α}
    (h : xs.length = width * height) (hrow : row ∈ rows width height xs) : row.length = width := by
  induction height generalizing xs with
  | zero => cases hrow
  | succ height ih =>
    rw [Nat.mul_succ] at h
    rcases List.mem_cons.mp hrow with rfl | hrow
    . rw [List.length_take, h]
      omega
    . refine ih ?_ hrow
      rw [List.length_drop, h, Nat.add_sub_cancel]

namespace Png

def bits (b : UInt8) : List Bool := (List.range 8).map fun i => b.toNat.testBit (7 - i)

theorem bits_byte (bs : List Bool)
    : bits (byte bs) = (List.range 8).map fun i => bs.getD i false := by
  have hfull : ∀ b₀ b₁ b₂ b₃ b₄ b₅ b₆ b₇ : Bool,
      bits (UInt8.ofNat ([b₀, b₁, b₂, b₃, b₄, b₅, b₆, b₇].foldl (fun n b => 2 * n + b.toNat) 0)) =
        [b₀, b₁, b₂, b₃, b₄, b₅, b₆, b₇] := by
    decide
  exact hfull _ _ _ _ _ _ _ _

theorem map_getD_range {bs : List Bool} {n : Nat} (h : bs.length ≤ n)
    : (List.range n).map (fun i => bs.getD i false) =
        bs ++ List.replicate (n - bs.length) false := by
  apply List.ext_getElem
  . simp only [List.length_map, List.length_range, List.length_append, List.length_replicate]
    omega
  . intro i hi _
    by_cases hlt : i < bs.length
    . simp [hlt]
    . rw [List.getElem_append_right (Nat.le_of_not_lt hlt)]
      simp [hlt]

theorem bits_packRow {n : Nat} {bs : List Bool} (h : bs.length ≤ 8 * n)
    : (packRow n bs).flatMap bits = bs ++ List.replicate (8 * n - bs.length) false := by
  induction n generalizing bs with
  | zero =>
    rw [Nat.mul_zero, Nat.le_zero, List.length_eq_zero_iff] at h
    rw [h]
    rfl
  | succ n ih =>
    have hfirst : (bs.take 8).length ≤ 8 := List.length_take_le ..
    have hrest : (bs.drop 8).length ≤ 8 * n := by
      rw [List.length_drop]
      omega
    rw [packRow, List.flatMap_cons, bits_byte, map_getD_range hfirst, ih hrest]
    by_cases hlong : 8 ≤ bs.length
    . -- The first byte is full.
      have hfull : 8 - (bs.take 8).length = 0 := by
        rw [List.length_take]
        omega
      have hcount : 8 * n - (bs.drop 8).length = 8 * (n + 1) - bs.length := by
        rw [List.length_drop]
        omega
      rw [hfull, hcount, List.replicate_zero, List.append_nil, ← List.append_assoc,
        List.take_append_drop]
    . -- There is only one byte with bits.
      have hshort : bs.length ≤ 8 := by omega
      have hcount : 8 - bs.length + 8 * n = 8 * (n + 1) - bs.length := by omega
      rw [List.take_of_length_le hshort, List.drop_of_length_le hshort, List.nil_append,
        List.append_assoc, List.length_nil, Nat.sub_zero, List.replicate_append_replicate, hcount]

def level (bit : Bool) : UInt8 := if bit then 255 else 0

def tones (width : Nat) (row : List UInt8) : List UInt8 := ((row.flatMap bits).take width).map level

def pairs : List UInt8 → List (UInt8 × UInt8)
  | l :: a :: bytes => (l, a) :: pairs bytes
  | _ => []

def decode (p : Png) : Option Image :=
  match p.color, p.depth with
  | .grayscale, 1 => some ⟨p.width, p.height, .gray (p.rows.flatMap (tones p.width))⟩
  | .grayscaleAlpha, 8 => some ⟨p.width, p.height, .grayAlpha (p.rows.flatMap pairs)⟩
  | _, _ => none

theorem pairs_flatMap (las : List (UInt8 × UInt8))
    : pairs (las.flatMap fun (l, a) => [l, a]) = las := by
  induction las with
  | nil => rfl
  | cons la las ih =>
    change la :: pairs (las.flatMap fun (l, a) => [l, a]) = la :: las
    rw [ih]

theorem level_bit {l : UInt8} (h : l = 0 ∨ l = 255) : level (l != 0) = l := by
  rcases h with rfl | rfl <;> rfl

theorem tones_packRow {row : List UInt8} (h : ∀ l ∈ row, l = 0 ∨ l = 255)
    : tones row.length (packRow (bytesFor row.length) (row.map (· != 0))) = row := by
  have hfits : (row.map (· != 0)).length ≤ 8 * bytesFor row.length := by
    rw [List.length_map, bytesFor]
    omega
  have hlevels : row.map (level ∘ (· != 0)) = row.map id :=
    List.map_congr_left fun l hl => level_bit (h l hl)
  rw [tones, bits_packRow hfits, List.take_left' (List.length_map _), List.map_map, hlevels,
    List.map_id]

theorem flatMap_map_rows {α : Type} {width height : Nat} {xs : List α} {f : List α → List UInt8}
    {g : List UInt8 → List α} (hlength : xs.length = width * height)
    (h : ∀ row ∈ Sheet.rows width height xs, g (f row) = row)
    : ((Sheet.rows width height xs).map f).flatMap g = xs := by
  rw [List.flatMap_map, List.flatMap_def, List.map_congr_left h, List.map_id',
    flatten_rows hlength]

theorem decode_ofImage {image : Image} (h : image.IsTwoTone)
    : (ofImage image).decode = some image := by
  obtain ⟨width, height, samples⟩ := image
  cases samples with
  | gray ls =>
    obtain ⟨hlength, htones⟩ := h
    have hrows : ∀ row ∈ Sheet.rows width height ls,
        tones width (packRow (bytesFor width) (row.map (· != 0))) = row := by
      intro row hrow
      obtain rfl := length_of_mem_rows hlength hrow
      refine tones_packRow fun l hl => htones l ?_
      rw [← flatten_rows hlength]
      exact List.mem_flatten_of_mem hrow hl
    exact congrArg (fun ls => some (Image.mk width height (.gray ls)))
      (flatMap_map_rows hlength hrows)
  | grayAlpha las =>
    have hrows : ∀ row ∈ Sheet.rows width height las,
        pairs (row.flatMap fun (l, a) => [l, a]) = row :=
      fun row _ => pairs_flatMap row
    exact congrArg (fun las => some (Image.mk width height (.grayAlpha las)))
      (flatMap_map_rows h hrows)

end Png

end PulpGame.Sheet
