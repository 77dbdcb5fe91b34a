import PulpGame.Json.Value

namespace PulpGame

/-- Pixels row by row: 0 is white, 1 is black, 2 and 3 are the same but transparent. -/
abbrev Pixels := List UInt8

structure Player where
  id : Int
  room : Int
  x : Int
  y : Int

structure Font where
  kind : Int
  border : List Pixels
  glyphs : List Pixels

/-- Font 1 is the wide one; all others are half as wide. -/
def Font.isHalfWidth (f : Font) : Bool := f.kind ≠ 1

structure Tile where
  id : Int
  name : String
  fps : Binary64
  kind : Int
  behaviour : Int
  solid : Bool
  speech : Option String
  frames : List Nat

structure Exit where
  x : Int
  y : Int
  tx : Option Int
  ty : Option Int
  edge : Option Int
  ending : Option String
  room : Option Int

structure Room where
  id : Int
  name : String
  song : Int
  tiles : List Int
  exits : List Exit

structure Envelope where
  attack : Option Binary64
  decay : Option Binary64
  sustain : Option Binary64
  release : Option Binary64
  volume : Option Binary64

structure Sound where
  id : Int
  name : String
  kind : Int
  bpm : Binary64
  notes : Option (List Binary64)
  ticks : Option Int
  envelope : Option Envelope

structure Script where
  id : Int
  kind : Nat
  /-- References to blocks by event, and the blocks themselves. -/
  data : Option (List (String × Json.Value))

inductive Owner where
  | global
  | room
  | tile
deriving DecidableEq, Repr

namespace Owner

def ofNat? : Nat → Option Owner
  | 0 => some .global
  | 1 => some .room
  | 2 => some .tile
  | _ => none

def toNat : Owner → Nat
  | .global => 0
  | .room => 1
  | .tile => 2

def word : Owner → String
  | .global => "global"
  | .room => "room"
  | .tile => "tile"

end Owner

structure Document where
  name : String
  player : Player
  font : Font
  frames : List (Option Pixels)
  tiles : List (Option Tile)
  rooms : List (Option Room)
  sounds : List (Option Sound)
  scripts : List Script

def Room.width : Nat := 25

def Room.height : Nat := 15

end PulpGame
