import PulpGame.Entity.Field
import PulpGame.Ledger
import PulpGame.Sheet.Basic

namespace PulpGame

open Entity

def Tile.toRecord (places : List Nat) (t : Tile) : Record where
  id := t.id
  fields :=
    one "id" (.integer t.id) ++ one "fps" (.numeral t.fps) ++ one "name" (.quoted t.name) ++
      one "type" (.integer t.kind) ++ one "btype" (.integer t.behaviour) ++
      one "solid" (.boolean t.solid) ++ maybe "says" .quoted t.speech ++
      [⟨"frames", .places places⟩]

def clamp (least greatest n : Int) : Int := max least (min greatest n)

def Exit.toScalars (e : Exit) : List Scalar :=
  [⟨"x", .integer (clamp 0 Room.width e.x)⟩, ⟨"y", .integer (clamp 0 Room.height e.y)⟩] ++
    scalar "tx" .integer e.tx ++ scalar "ty" .integer e.ty ++ scalar "edge" .integer e.edge ++
    scalar "fin" .passage e.ending ++ scalar "room" .integer e.room
where
  scalar {α : Type} (key : String) (make : α → Literal) : Option α → List Scalar
    | some a => [⟨key, make a⟩]
    | none => []

def Room.toRecord (r : Room) : Record where
  id := r.id
  fields :=
    one "id" (.integer r.id) ++ one "name" (.quoted r.name) ++ one "song" (.integer r.song) ++
      [⟨"tiles", .grid Room.width r.tiles⟩, ⟨"exits", .records (r.exits.map Exit.toScalars)⟩]

def Envelope.fields (e : Envelope) : List Field :=
  maybe "decay" .numeral e.decay ++ maybe "attack" .numeral e.attack ++
    maybe "release" .numeral e.release ++ maybe "volume" .numeral e.volume ++
    maybe "sustain" .numeral e.sustain

def Sound.toRecord (s : Sound) : Record where
  id := s.id
  fields :=
    one "bpm" (.numeral s.bpm) ++ one "name" (.quoted s.name) ++ one "type" (.integer s.kind) ++
      (match s.notes with
      | some notes => [⟨"notes", .numerals notes⟩]
      | none => []) ++
      maybe "ticks" .integer s.ticks ++
      (match s.envelope with
      | some e => e.fields
      | none => [])

namespace Entity

/-- The tiles with the places of their frames; each is entered into the ledger once its frames are
found. -/
def tileRecords (packing : Sheet.Packing) :
    List Tile → ExceptT Failure (StateM Ledger) (List Record)
  | [] => return []
  | t :: ts => do
    match packing.placesOf t.name t.frames with
    | .error e => throw e
    | .ok places =>
      modify (·.enterTile t.name t.id)
      let rest ← tileRecords packing ts
      return t.toRecord places :: rest

def tileTable (packing : Sheet.Packing) (tiles : List (Option Tile)) :
    ExceptT Failure (StateM Ledger) String :=
  return tableText "tiles" 4 (← tileRecords packing (tiles.filterMap id))

def roomTable (rooms : List (Option Room)) : String :=
  tableText "rooms" 2 ((rooms.filterMap id).map Room.toRecord)

def soundTable (sounds : List (Option Sound)) : String :=
  tableText "sounds" 2 ((sounds.filterMap id).map Sound.toRecord)

end Entity

end PulpGame
