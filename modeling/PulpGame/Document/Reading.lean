import PulpGame.Document.Basic
import PulpGame.Json.Record
import PulpGame.Journal

namespace PulpGame

open Json Json.Reader

namespace Player

structure Draft where
  id : Option Int := none
  room : Option Int := none
  x : Option Int := none
  y : Option Int := none

def shape : Shape := ⟨"struct Player", ["id", "room", "x", "y"], 4⟩

def Draft.member (d : Draft) (key : String) (tree : Tree) : Except Fault Draft :=
  match key with
  | "id" => return { d with id := ← once "id" d.id int64 tree }
  | "room" => return { d with room := ← once "room" d.room int64 tree }
  | "x" => return { d with x := ← once "x" d.x int64 tree }
  | "y" => return { d with y := ← once "y" d.y int64 tree }
  | _ => do
    tree.skip
    return d

def Draft.finish (d : Draft) : Except Fault Player := do
  return ⟨← need "id" d.id, ← need "room" d.room, ← need "x" d.x, ← need "y" d.y⟩

def reader : Reader Player := record shape ⟨{}, Draft.member⟩ Draft.finish

end Player

namespace Font

structure Draft where
  kind : Option Int := none
  border : Option (List Pixels) := none
  glyphs : Option (List Pixels) := none

def shape : Shape := ⟨"struct Font", ["type", "pipe", "chars"], 1⟩

def Draft.member (d : Draft) (key : String) (tree : Tree) : Except Fault Draft :=
  match key with
  | "type" => return { d with kind := ← once "type" d.kind int64 tree }
  | "pipe" => return { d with border := ← once "pipe" d.border (list (list byte)) tree }
  | "chars" => return { d with glyphs := ← once "chars" d.glyphs (list (list byte)) tree }
  | _ => do
    tree.skip
    return d

def Draft.finish (d : Draft) : Except Fault Font := do
  return ⟨← need "type" d.kind, d.border.getD [], d.glyphs.getD []⟩

def reader : Reader Font := record shape ⟨{}, Draft.member⟩ Draft.finish

end Font

namespace Pixels

def shape : Shape := ⟨"struct Frame", ["data"], 1⟩

def member (d : Option Pixels) (key : String) (tree : Tree) : Except Fault (Option Pixels) :=
  match key with
  | "data" => once "data" d (list byte) tree
  | _ => do
    tree.skip
    return d

def reader : Reader Pixels := record shape ⟨none, member⟩ (need "data")

end Pixels

namespace Tile

structure Draft where
  id : Option Int := none
  name : Option String := none
  fps : Option Binary64 := none
  kind : Option Int := none
  behaviour : Option Int := none
  solid : Option Bool := none
  speech : Option (Option String) := none
  frames : Option (List Nat) := none

def shape : Shape :=
  ⟨"struct Tile", ["id", "name", "fps", "type", "btype", "solid", "says", "frames"], 7⟩

def Draft.member (d : Draft) (key : String) (tree : Tree) : Except Fault Draft :=
  match key with
  | "id" => return { d with id := ← once "id" d.id int64 tree }
  | "name" => return { d with name := ← once "name" d.name text tree }
  | "fps" => return { d with fps := ← once "fps" d.fps real tree }
  | "type" => return { d with kind := ← once "type" d.kind int64 tree }
  | "btype" => return { d with behaviour := ← once "btype" d.behaviour int64 tree }
  | "solid" => return { d with solid := ← once "solid" d.solid boolean tree }
  | "says" => return { d with speech := ← once "says" d.speech (optional text) tree }
  | "frames" => return { d with frames := ← once "frames" d.frames (list nat64) tree }
  | _ => do
    tree.skip
    return d

def Draft.finish (d : Draft) : Except Fault Tile := do
  return {
    id := ← need "id" d.id
    name := ← need "name" d.name
    fps := ← need "fps" d.fps
    kind := ← need "type" d.kind
    behaviour := ← need "btype" d.behaviour
    solid := ← need "solid" d.solid
    speech := d.speech.join
    frames := d.frames.getD [] }

def reader : Reader Tile := record shape ⟨{}, Draft.member⟩ Draft.finish

end Tile

namespace Exit

structure Draft where
  x : Option Int := none
  y : Option Int := none
  tx : Option (Option Int) := none
  ty : Option (Option Int) := none
  edge : Option (Option Int) := none
  ending : Option (Option String) := none
  room : Option (Option Int) := none

def shape : Shape := ⟨"struct Exit", ["x", "y", "tx", "ty", "edge", "fin", "room"], 7⟩

def Draft.member (d : Draft) (key : String) (tree : Tree) : Except Fault Draft :=
  match key with
  | "x" => return { d with x := ← once "x" d.x int64 tree }
  | "y" => return { d with y := ← once "y" d.y int64 tree }
  | "tx" => return { d with tx := ← once "tx" d.tx (optional int64) tree }
  | "ty" => return { d with ty := ← once "ty" d.ty (optional int64) tree }
  | "edge" => return { d with edge := ← once "edge" d.edge (optional int64) tree }
  | "fin" => return { d with ending := ← once "fin" d.ending (optional text) tree }
  | "room" => return { d with room := ← once "room" d.room (optional int64) tree }
  | _ => do
    tree.skip
    return d

def Draft.finish (d : Draft) : Except Fault Exit := do
  return {
    x := ← need "x" d.x
    y := ← need "y" d.y
    tx := d.tx.join
    ty := d.ty.join
    edge := d.edge.join
    ending := d.ending.join
    room := d.room.join }

def reader : Reader Exit := record shape ⟨{}, Draft.member⟩ Draft.finish

end Exit

namespace Room

structure Draft where
  id : Option Int := none
  name : Option String := none
  song : Option Int := none
  tiles : Option (List Int) := none
  exits : Option (List Exit) := none

def shape : Shape := ⟨"struct Room", ["id", "name", "song", "tiles", "exits"], 3⟩

def Draft.member (d : Draft) (key : String) (tree : Tree) : Except Fault Draft :=
  match key with
  | "id" => return { d with id := ← once "id" d.id int64 tree }
  | "name" => return { d with name := ← once "name" d.name text tree }
  | "song" => return { d with song := ← once "song" d.song int64 tree }
  | "tiles" => return { d with tiles := ← once "tiles" d.tiles (list int64) tree }
  | "exits" => return { d with exits := ← once "exits" d.exits (list Exit.reader) tree }
  | _ => do
    tree.skip
    return d

def Draft.finish (d : Draft) : Except Fault Room := do
  return {
    id := ← need "id" d.id
    name := ← need "name" d.name
    song := ← need "song" d.song
    tiles := d.tiles.getD []
    exits := d.exits.getD [] }

def reader : Reader Room := record shape ⟨{}, Draft.member⟩ Draft.finish

end Room

namespace Envelope

structure Draft where
  attack : Option (Option Binary64) := none
  decay : Option (Option Binary64) := none
  sustain : Option (Option Binary64) := none
  release : Option (Option Binary64) := none
  volume : Option (Option Binary64) := none

def shape : Shape :=
  ⟨"struct Envelope", ["attack", "decay", "sustain", "release", "volume"], 5⟩

def Draft.member (d : Draft) (key : String) (tree : Tree) : Except Fault Draft :=
  match key with
  | "attack" => return { d with attack := ← once "attack" d.attack (optional real) tree }
  | "decay" => return { d with decay := ← once "decay" d.decay (optional real) tree }
  | "sustain" => return { d with sustain := ← once "sustain" d.sustain (optional real) tree }
  | "release" => return { d with release := ← once "release" d.release (optional real) tree }
  | "volume" => return { d with volume := ← once "volume" d.volume (optional real) tree }
  | _ => do
    tree.skip
    return d

def Draft.finish (d : Draft) : Except Fault Envelope :=
  return ⟨d.attack.join, d.decay.join, d.sustain.join, d.release.join, d.volume.join⟩

def reader : Reader Envelope := record shape ⟨{}, Draft.member⟩ Draft.finish

end Envelope

namespace Sound

structure Draft where
  id : Option Int := none
  name : Option String := none
  kind : Option Int := none
  bpm : Option Binary64 := none
  notes : Option (Option (List Binary64)) := none
  ticks : Option (Option Int) := none
  envelope : Option (Option Envelope) := none

def shape : Shape :=
  ⟨"struct Sound", ["id", "name", "type", "bpm", "notes", "ticks", "envelope"], 7⟩

def Draft.member (d : Draft) (key : String) (tree : Tree) : Except Fault Draft :=
  match key with
  | "id" => return { d with id := ← once "id" d.id int64 tree }
  | "name" => return { d with name := ← once "name" d.name text tree }
  | "type" => return { d with kind := ← once "type" d.kind int64 tree }
  | "bpm" => return { d with bpm := ← once "bpm" d.bpm real tree }
  | "notes" => return { d with notes := ← once "notes" d.notes (optional (list real)) tree }
  | "ticks" => return { d with ticks := ← once "ticks" d.ticks (optional int64) tree }
  | "envelope" =>
    return { d with envelope := ← once "envelope" d.envelope (optional Envelope.reader) tree }
  | _ => do
    tree.skip
    return d

def Draft.finish (d : Draft) : Except Fault Sound := do
  return {
    id := ← need "id" d.id
    name := ← need "name" d.name
    kind := ← need "type" d.kind
    bpm := ← need "bpm" d.bpm
    notes := d.notes.join
    ticks := d.ticks.join
    envelope := d.envelope.join }

def reader : Reader Sound := record shape ⟨{}, Draft.member⟩ Draft.finish

end Sound

namespace Script

structure Draft where
  id : Option Int := none
  kind : Option Nat := none
  data : Option (Option (List (String × Value))) := none

def shape : Shape := ⟨"struct ScriptEntry", ["id", "type", "data"], 2⟩

/-- What may be open inside the data of a script, which is open itself, in a script, in the list of
scripts, in a document. -/
def room : Nat := Tree.depthLimit - 4

def Draft.member (d : Draft) (key : String) (tree : Tree) : Except Fault Draft :=
  match key with
  | "id" => return { d with id := ← once "id" d.id int64 tree }
  | "type" => return { d with kind := ← once "type" d.kind nat64 tree }
  | "data" => return { d with data := ← once "data" d.data (optional (members room)) tree }
  | _ => do
    tree.skip
    return d

def Draft.finish (d : Draft) : Except Fault Script := do
  return ⟨← need "id" d.id, ← need "type" d.kind, d.data.join⟩

def reader : Reader Script := record shape ⟨{}, Draft.member⟩ Draft.finish

end Script

namespace Document

def elementRoom : Nat := Tree.depthLimit - 2

/-- An entity, or a hole, which is written as `null`, `false` or `true`. -/
def element {α : Type} (entity : Reader α) : Reader (Option α) := fun tree => do
  let _ ← tree.keep elementRoom
  match entity tree, tree with
  | .ok a, _ => return some a
  | .error _, .null => return none
  | .error _, .boolean _ => return none
  | .error _, _ => throw .notAnEntity

structure Draft where
  name : Option String := none
  player : Option Player := none
  font : Option Font := none
  frames : Option (List (Option Pixels)) := none
  tiles : Option (List (Option Tile)) := none
  rooms : Option (List (Option Room)) := none
  sounds : Option (List (Option Sound)) := none
  scripts : Option (List Script) := none

def shape : Shape :=
  ⟨"struct Document", ["name", "player", "font", "frames", "tiles", "rooms", "sounds", "scripts"],
    3⟩

def Draft.member (d : Draft) (key : String) (tree : Tree) : Except Fault Draft :=
  match key with
  | "name" => return { d with name := ← once "name" d.name text tree }
  | "player" => return { d with player := ← once "player" d.player Player.reader tree }
  | "font" => return { d with font := ← once "font" d.font Font.reader tree }
  | "frames" =>
    return { d with frames := ← once "frames" d.frames (list (element Pixels.reader)) tree }
  | "tiles" => return { d with tiles := ← once "tiles" d.tiles (list (element Tile.reader)) tree }
  | "rooms" => return { d with rooms := ← once "rooms" d.rooms (list (element Room.reader)) tree }
  | "sounds" =>
    return { d with sounds := ← once "sounds" d.sounds (list (element Sound.reader)) tree }
  | "scripts" => return { d with scripts := ← once "scripts" d.scripts (list Script.reader) tree }
  | _ => do
    tree.skip
    return d

def Draft.finish (d : Draft) : Except Fault Document := do
  return {
    name := ← need "name" d.name
    player := ← need "player" d.player
    font := ← need "font" d.font
    frames := d.frames.getD []
    tiles := d.tiles.getD []
    rooms := d.rooms.getD []
    sounds := d.sounds.getD []
    scripts := d.scripts.getD [] }

def reader : Reader Document := record shape ⟨{}, Draft.member⟩ Draft.finish

def ofText (source : String) : Except Fault Document := do
  let (tree, rest) := Tree.ofText source
  let doc ← reader tree
  if (Tree.dropBlanks (rest.getD [])).isEmpty then return doc else throw .trailingText

def faultMessage (fault : Json.Fault) : String := "Failed to parse JSON: " ++ fault.message

def load (source : String) : Journaled Json.Fault Document := do
  Journaled.write .document .info s!"File loaded, size: {source.utf8ByteSize} bytes"
  let doc ← Journaled.ofExcept (ofText source)
  Journaled.write .document .info (s!"Document `{doc.name}` parsed: {doc.frames.length} frames, " ++
    s!"{doc.tiles.length} tiles, {doc.rooms.length} rooms, {doc.sounds.length} sounds, " ++
    s!"{doc.scripts.length} scripts")
  return doc

end Document

end PulpGame
