import PulpGame.Document.Basic
import PulpGame.Failure
import PulpGame.Journal

namespace PulpGame.Sheet

inductive Samples where
  | gray (luminance : List UInt8)
  | grayAlpha (luminanceAlpha : List (UInt8 × UInt8))
deriving DecidableEq, Repr

structure Image where
  width : Nat
  height : Nat
  samples : Samples
deriving DecidableEq, Repr

def rows {α : Type} (width : Nat) : (height : Nat) → List α → List (List α)
  | 0, _ => []
  | height + 1, xs => xs.take width :: rows width height (xs.drop width)

def Image.byteRows (i : Image) : List (List UInt8) :=
  match i.samples with
  | .gray ls => rows i.width i.height ls
  | .grayAlpha las => (rows i.width i.height las).map (·.flatMap fun (l, a) => [l, a])

structure Packing where
  unique : List Pixels
  places : List Nat
deriving DecidableEq, Repr

def pack (frames : List (Option Pixels)) : Packing :=
  let unique := (frames.filterMap id).eraseDups
  let place : Option Pixels → Nat
    | some p => unique.idxOf p + 1
    | none => 1 -- the first frame, whatever that is
  ⟨unique, frames.map place⟩

namespace Packing

def isTransparent (pixel : UInt8) : Bool := pixel == 2 || pixel == 3

def hasAlpha (p : Packing) : Bool := p.unique.any (·.any isTransparent)

def place? (p : Packing) (frame : Nat) : Option Nat := p.places[frame]?

def placesOf (p : Packing) (tile : String) (frames : List Nat) : Except Failure (List Nat) :=
  frames.mapM fun f =>
    match p.place? f with
    | some place => .ok place
    | none => .error (.unknownFrame tile f)

def entries (frames : List (Option Pixels)) (p : Packing) : List Journal.Entry :=
  (frames.zipIdx.filterMap fun (frame, i) =>
    if frame.isNone then
      some ⟨.frames, .warn, s!"frame {i} is absent, aliasing packed frame 1"⟩ else none) ++
    [⟨.frames, .info, s!"Packed {frames.length} frames into {p.unique.length} unique" ++
      if p.hasAlpha then " (alpha)" else ""⟩]

end Packing

def frameSide : Nat := 8

def framePixels : Nat := frameSide * frameSide

def luminance (pixel : UInt8) : UInt8 := if pixel % 2 = 0 then 255 else 0

def alpha (pixel : UInt8) : UInt8 := if 2 ≤ pixel then 0 else 255

def maxPixel (withAlpha : Bool) : UInt8 := if withAlpha then 3 else 1

def frameFailure? (withAlpha : Bool) (frame : Nat) (pixels : Pixels) : Option Failure :=
  if pixels.length ≠ framePixels then some (.frameSize frame pixels.length)
  else
    (pixels.zipIdx.find? fun (p, _) => maxPixel withAlpha < p).map fun (p, i) =>
      .badPixel frame i p

def strip (withAlpha : Bool) (frames : List Pixels) : Except Failure Image :=
  match frames.zipIdx.findSome? fun (pixels, i) => frameFailure? withAlpha i pixels with
  | some e => .error e
  | none =>
    let pixels := frames.flatten
    .ok {
      width := frameSide
      height := frameSide * frames.length
      samples :=
        if withAlpha then .grayAlpha (pixels.map fun p => (luminance p, alpha p))
        else .gray (pixels.map luminance) }

def frameStrip (p : Packing) : Except Failure Image := strip p.hasAlpha p.unique

def glyphStrip (glyphs : List Pixels) : Except Failure Image := strip false glyphs

end PulpGame.Sheet
