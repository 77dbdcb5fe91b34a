import PulpGame.Sheet.Basic
/-!
PNG images, as their header and their rows before filtering and compression.

An image without alpha becomes an image of two colours, eight pixels to a byte with the first one in
the highest bit; the last byte of a row is filled up with zeros.
-/

namespace PulpGame.Sheet

inductive Png.Color where
  | grayscale
  | grayscaleAlpha
deriving DecidableEq, Repr

structure Png where
  width : Nat
  height : Nat
  color : Png.Color
  depth : Nat
  rows : List (List UInt8)
deriving DecidableEq, Repr

namespace Png

def byte (bits : List Bool) : UInt8 :=
  UInt8.ofNat ((List.range 8).foldl (fun n i => 2 * n + (bits.getD i false).toNat) 0)

def packRow : (bytes : Nat) → List Bool → List UInt8
  | 0, _ => []
  | bytes + 1, bits => byte (bits.take 8) :: packRow bytes (bits.drop 8)

def bytesFor (bits : Nat) : Nat := (bits + 7) / 8

/-- The rows of an image of two colours: whatever is not black is white. -/
def packBits (width height : Nat) (luminance : List UInt8) : List (List UInt8) :=
  (Sheet.rows width height luminance).map fun row => packRow (bytesFor width) (row.map (· != 0))

def ofImage (i : Image) : Png :=
  match i.samples with
  | .gray ls => ⟨i.width, i.height, .grayscale, 1, packBits i.width i.height ls⟩
  | .grayAlpha _ => ⟨i.width, i.height, .grayscaleAlpha, 8, i.byteRows⟩

def bigEndian : (width : Nat) → Nat → List UInt8
  | 0, _ => []
  | width + 1, n => bigEndian width (n / 256) ++ [UInt8.ofNat n]

def cyclicBit (sum : UInt32) : UInt32 :=
  if sum &&& 1 = 1 then (sum >>> 1) ^^^ 0xEDB88320 else sum >>> 1

def cyclicByte (sum : UInt32) (b : UInt8) : UInt32 :=
  (List.range 8).foldl (fun s _ => cyclicBit s) (sum ^^^ b.toUInt32)

def cyclicSum (bytes : List UInt8) : UInt32 := ~~~ (bytes.foldl cyclicByte 0xFFFFFFFF)

def runningSum (bytes : List UInt8) : Nat :=
  let (sum, sums) := bytes.foldl
    (fun (sum, sums) b =>
      let sum := (sum + b.toNat) % 65521
      (sum, (sums + sum) % 65521)) (1, 0)
  sums * 65536 + sum

def chunk (name : String) (content : List UInt8) : List UInt8 :=
  let named := name.toUTF8.toList ++ content
  bigEndian 4 content.length ++ named ++ bigEndian 4 (cyclicSum named).toNat

def blockSize : Nat := 65535

def block (isLast : Bool) (bytes : List UInt8) : List UInt8 :=
  let length := (bigEndian 2 bytes.length).reverse
  (if isLast then 1 else 0) :: length ++ length.map (~~~ ·) ++ bytes

def blocks (bytes : List UInt8) : List UInt8 :=
  if bytes.length ≤ blockSize then block true bytes
  else block false (bytes.take blockSize) ++ blocks (bytes.drop blockSize)
termination_by bytes.length
decreasing_by simp only [List.length_drop, blockSize] at *; omega

def stored (bytes : List UInt8) : List UInt8 :=
  [0x78, 0x01] ++ blocks bytes ++ bigEndian 4 (runningSum bytes)

def Color.number : Color → UInt8
  | .grayscale => 0
  | .grayscaleAlpha => 4

def header (p : Png) : List UInt8 :=
  bigEndian 4 p.width ++ bigEndian 4 p.height ++ [UInt8.ofNat p.depth, p.color.number, 0, 0, 0]

def signature : List UInt8 := [0x89, 0x50, 0x4E, 0x47, 0x0D, 0x0A, 0x1A, 0x0A]

/-- The file; a zero in front of each row tells that the row is not filtered. -/
def encode (p : Png) : List UInt8 :=
  signature ++ chunk "IHDR" p.header ++ chunk "IDAT" (stored (p.rows.flatMap (0 :: ·))) ++
    chunk "IEND" []

end Png

end PulpGame.Sheet
