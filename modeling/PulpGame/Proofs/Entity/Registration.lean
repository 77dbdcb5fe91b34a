import PulpGame.Entity.Tables
import PulpGame.Proofs.Outcome

namespace PulpGame

def Tile.lastId? (tiles : List Tile) (name : String) : Option Int :=
  (tiles.filter (·.name == name)).getLast?.map (·.id)

theorem Tile.lastId?_eq_none {tiles : List Tile} {name : String}
    : lastId? tiles name = none ↔ ∀ t ∈ tiles, t.name ≠ name := by
  simp [lastId?]

namespace Ledger

def enterTiles (l : Ledger) (tiles : List Tile) : Ledger :=
  { l with tiles := l.tiles ++ tiles.map fun t => (t.name, t.id) }

@[simp]
theorem enterTiles_nil (l : Ledger) : l.enterTiles [] = l := by
  simp [enterTiles]

theorem enterTiles_cons (l : Ledger) (t : Tile) (tiles : List Tile)
    : l.enterTiles (t :: tiles) = (l.enterTile t.name t.id).enterTiles tiles := by
  simp [enterTiles, enterTile]

theorem tileId?_enterTiles (l : Ledger) (tiles : List Tile) (name : String)
    : (l.enterTiles tiles).tileId? name = (Tile.lastId? tiles name).or (l.tileId? name) := by
  have hlast : Tile.lastId? tiles name =
      (((tiles.map fun t => (t.name, t.id)).reverse.find? (·.1 == name)).map (·.2)) := by
    rw [Tile.lastId?, List.getLast?_eq_head?_reverse, ← List.filter_reverse, List.head?_filter,
      ← List.map_reverse, List.find?_map, Option.map_map]
    rfl
  rw [hlast, tileId?, tileId?, enterTiles, List.reverse_append, List.find?_append, Option.map_or]

end Ledger

namespace Entity

variable {packing : Sheet.Packing}

def HasFrames (packing : Sheet.Packing) (t : Tile) : Prop :=
  ∀ f ∈ t.frames, f < packing.places.length

def IsRecordOf (packing : Sheet.Packing) (t : Tile) (r : Record) : Prop :=
  ∃ places, packing.placesOf t.name t.frames = .ok places ∧ r = t.toRecord places

/-- Behind these tiles comes the first one with a frame that is not in the packing, and the failure
names its first such frame. -/
def StopsBehind (packing : Sheet.Packing) (before tiles : List Tile) (e : Failure) : Prop :=
  ∃ t others front f behind, tiles = before ++ t :: others ∧
    (∀ u ∈ before, HasFrames packing u) ∧ t.frames = front ++ f :: behind ∧
    (∀ g ∈ front, g < packing.places.length) ∧ packing.places.length ≤ f ∧ e = .unknownFrame t.name f

theorem StopsBehind.not_all {before tiles : List Tile} {e : Failure}
    (h : StopsBehind packing before tiles e) : ¬∀ t ∈ tiles, HasFrames packing t := by
  obtain ⟨t, others, front, f, behind, rfl, -, hframes, -, hf, -⟩ := h
  intro hall
  have := hall t (by simp) f (by simp [hframes])
  omega

theorem StopsBehind.cons {before tiles : List Tile} {t : Tile} {e : Failure}
    (h : StopsBehind packing before tiles e) (ht : HasFrames packing t)
    : StopsBehind packing (t :: before) (t :: tiles) e := by
  obtain ⟨u, others, front, f, behind, rfl, hbefore, hrest⟩ := h
  exact ⟨u, others, front, f, behind, rfl, List.forall_mem_cons.mpr ⟨ht, hbefore⟩, hrest⟩

theorem placesOf_cons {tile : String} {f place : Nat} (hplace : packing.place? f = some place)
    (frames : List Nat)
    : packing.placesOf tile (f :: frames) =
        packing.placesOf tile frames >>= fun rest => pure (place :: rest) := by
  rw [Sheet.Packing.placesOf, List.mapM_cons, hplace]
  rfl

theorem placesOf_cons_missing {f : Nat} (hplace : packing.place? f = none) (tile : String)
    (frames : List Nat) : packing.placesOf tile (f :: frames) = .error (.unknownFrame tile f) := by
  rw [Sheet.Packing.placesOf, List.mapM_cons, hplace]
  rfl

theorem placesOf_cases (packing : Sheet.Packing) (tile : String) (frames : List Nat)
    : (∃ places, packing.placesOf tile frames = .ok places ∧
          places.map some = frames.map packing.place? ∧
          ∀ f ∈ frames, f < packing.places.length) ∨
        ∃ front f behind, packing.placesOf tile frames = .error (.unknownFrame tile f) ∧
          frames = front ++ f :: behind ∧ (∀ g ∈ front, g < packing.places.length) ∧
          packing.places.length ≤ f := by
  induction frames with
  | nil => exact .inl ⟨[], rfl, rfl, by simp⟩
  | cons f frames ih =>
    by_cases hf : f < packing.places.length
    . have hplace : packing.place? f = some packing.places[f] := List.getElem?_eq_getElem hf
      rw [placesOf_cons hplace]
      rcases ih with ⟨places, hplaces, hmap, hall⟩ | ⟨front, g, behind, hplaces, rfl, hfront, hg⟩
      . rw [hplaces]
        refine .inl ⟨_, rfl, ?_, List.forall_mem_cons.mpr ⟨hf, hall⟩⟩
        rw [List.map_cons, List.map_cons, hmap, hplace]
      . rw [hplaces]
        exact .inr ⟨f :: front, g, behind, rfl, rfl, List.forall_mem_cons.mpr ⟨hf, hfront⟩, hg⟩
    . have hplace : packing.place? f = none := List.getElem?_eq_none (by omega)
      exact .inr ⟨[], f, frames, placesOf_cons_missing hplace tile frames, rfl, by simp, by omega⟩

theorem placesOf_eq_ok {tile : String} {frames places : List Nat}
    (h : packing.placesOf tile frames = .ok places)
    : places.map some = frames.map packing.place? := by
  rcases placesOf_cases packing tile frames with ⟨_, hplaces, hmap, -⟩ | ⟨_, _, _, herror, -⟩
  . rw [hplaces] at h
    cases h
    exact hmap
  . rw [herror] at h
    cases h

theorem outcome_tileRecords_cons {t : Tile} {places : List Nat}
    (hplaces : packing.placesOf t.name t.frames = .ok places) (tiles : List Tile) (ledger : Ledger)
    : outcome (tileRecords packing (t :: tiles)) ledger =
        (outcome (tileRecords packing tiles) (ledger.enterTile t.name t.id)).map
          (Except.map (t.toRecord places :: ·)) id := by
  have henter : outcome
      (modify (·.enterTile t.name t.id) : ExceptT Failure (StateM Ledger) Unit) ledger =
        (.ok (), ledger.enterTile t.name t.id) := rfl
  rw [tileRecords, hplaces]
  dsimp only
  rw [outcome_bind, henter]
  dsimp only
  rw [outcome_bind]
  rcases outcome (tileRecords packing tiles) (ledger.enterTile t.name t.id) with ⟨_ | _, _⟩ <;> rfl

theorem tileRecords_cases (packing : Sheet.Packing) (tiles : List Tile) (ledger : Ledger)
    : (∃ records, outcome (tileRecords packing tiles) ledger =
            (.ok records, ledger.enterTiles tiles) ∧
          List.Forall₂ (IsRecordOf packing) tiles records ∧ ∀ t ∈ tiles, HasFrames packing t) ∨
        ∃ before e, outcome (tileRecords packing tiles) ledger =
            (.error e, ledger.enterTiles before) ∧ StopsBehind packing before tiles e := by
  induction tiles generalizing ledger with
  | nil => exact .inl ⟨[], by simp [tileRecords]; rfl, .nil, by simp⟩
  | cons t tiles ih =>
    rcases placesOf_cases packing t.name t.frames with
      ⟨places, hplaces, -, hall⟩ | ⟨front, f, behind, hplaces, hframes, hfront, hf⟩
    -- The tile is entered before the others are looked at, so it stays when one of them fails.
    . rw [outcome_tileRecords_cons hplaces]
      rcases ih (ledger.enterTile t.name t.id) with
        ⟨records, hrun, hrecords, htiles⟩ | ⟨before, e, hrun, hstops⟩
      . rw [hrun, Ledger.enterTiles_cons]
        exact .inl ⟨_, rfl, .cons ⟨places, hplaces, rfl⟩ hrecords,
          List.forall_mem_cons.mpr ⟨hall, htiles⟩⟩
      . rw [hrun]
        exact .inr ⟨t :: before, e, by rw [Ledger.enterTiles_cons]; rfl, hstops.cons hall⟩
    . refine .inr ⟨[], .unknownFrame t.name f, ?_,
        t, tiles, front, f, behind, rfl, by simp, hframes, hfront, hf, rfl⟩
      rw [tileRecords, hplaces, Ledger.enterTiles_nil]
      rfl

theorem tileTable_cases (packing : Sheet.Packing) (tiles : List (Option Tile)) (ledger : Ledger)
    : (∃ records, outcome (tileTable packing tiles) ledger =
            (.ok (tableText "tiles" 4 records), ledger.enterTiles (tiles.filterMap id)) ∧
          List.Forall₂ (IsRecordOf packing) (tiles.filterMap id) records ∧
          ∀ t ∈ tiles.filterMap id, HasFrames packing t) ∨
        ∃ before e, outcome (tileTable packing tiles) ledger =
            (.error e, ledger.enterTiles before) ∧
          StopsBehind packing before (tiles.filterMap id) e := by
  rw [tileTable, outcome_bind]
  rcases tileRecords_cases packing (tiles.filterMap id) ledger with
    ⟨records, hrun, hrecords, hall⟩ | ⟨before, e, hrun, hstops⟩
  . rw [hrun]
    exact .inl ⟨records, rfl, hrecords, hall⟩
  . rw [hrun]
    exact .inr ⟨before, e, rfl, hstops⟩

end Entity

end PulpGame
