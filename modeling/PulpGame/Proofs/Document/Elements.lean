import PulpGame.Proofs.Document.Finite
import PulpGame.Proofs.Run.Success

namespace PulpGame

open Json Json.Reader

def Json.Shape.under (shape : Shape) (key : String) (tree : Tree) : List Tree :=
  ((shape.entries tree).filter (·.1 == key)).map (·.2)

def Json.Tree.elements : Tree → List Tree
  | .sequence items _ => items
  | _ => []

/-- The tree is one of those that are meant to stand for a hole. -/
def Json.Tree.IsHoleMark (t : Tree) : Prop := t = .null ∨ t = .boolean false

def Json.Tree.IsWord (t : Tree) : Prop := t.IsHoleMark ∨ t = .boolean true

instance (t : Tree) : Decidable (t = .null) :=
  match t with
  | .null => isTrue rfl
  | .boolean _ | .number _ | .text _ | .sequence _ _ | .mapping _ _ | .broken _ => isFalse nofun

instance (t : Tree) (b : Bool) : Decidable (t = .boolean b) :=
  match t with
  | .boolean c => decidable_of_iff (c = b) (by simp)
  | .null | .number _ | .text _ | .sequence _ _ | .mapping _ _ | .broken _ => isFalse nofun

instance (t : Tree) : Decidable t.IsHoleMark := inferInstanceAs (Decidable (_ ∨ _))

instance (t : Tree) : Decidable t.IsWord := inferInstanceAs (Decidable (_ ∨ _))

namespace Document

variable {α β : Type}

/-- The entry is what the element is read as, if these trees stand for holes. -/
structure Fills (IsHole : Tree → Prop) (entity : Reader α) (element : Tree) (entry : Option α) :
    Prop where
  absent_iff : entry = none ↔ IsHole element
  present_iff : ∀ a, entry = some a ↔ entity element = .ok a

def elements (key : String) (tree : Tree) : List Tree :=
  (shape.under key tree).flatMap Tree.elements

structure Lists (IsHole : Tree → Prop) (key : String) (entity : Reader α) (tree : Tree)
    (entries : List (Option α)) : Prop where
  once : shape.under key tree = [] ∨ ∃ items, shape.under key tree = [.sequence items none]
  fills : List.Forall₂ (Fills IsHole entity) (elements key tree) entries

structure ListsEntities (doc : Document) (IsHole : Tree → Prop) (tree : Tree) : Prop where
  frames : Lists IsHole "frames" Pixels.reader tree doc.frames
  tiles : Lists IsHole "tiles" Tile.reader tree doc.tiles
  rooms : Lists IsHole "rooms" Room.reader tree doc.rooms
  sounds : Lists IsHole "sounds" Sound.reader tree doc.sounds

def listKeys : List String := ["frames", "tiles", "rooms", "sounds"]

/-- The element is in a list of entities but describes none of them. -/
def IsForeign (tree element : Tree) : Prop :=
  (element ∈ elements "frames" tree ∧ ∀ a, Pixels.reader element ≠ .ok a) ∨
    (element ∈ elements "tiles" tree ∧ ∀ a, Tile.reader element ≠ .ok a) ∨
    (element ∈ elements "rooms" tree ∧ ∀ a, Room.reader element ≠ .ok a) ∨
    element ∈ elements "sounds" tree ∧ ∀ a, Sound.reader element ≠ .ok a

theorem isWord_null : Tree.null.IsWord := .inl (.inl rfl)

theorem isWord_boolean (b : Bool) : (Tree.boolean b).IsWord := by
  cases b with
  | false => exact .inl (.inr rfl)
  | true => exact .inr rfl

def Rejects (entity : Reader α) : Prop := ∀ tree, tree.IsWord → ∀ a, entity tree ≠ .ok a

theorem rejects_record {σ : Type} (shape : Shape) (draft : Json.Draft σ)
    (finish : σ → Except Fault α) : Rejects (record shape draft finish) := by
  rintro tree ((rfl | rfl) | rfl) a
  . exact mismatch_ne_ok shape.name .null a
  . exact mismatch_ne_ok shape.name (.boolean false) a
  . exact mismatch_ne_ok shape.name (.boolean true) a

theorem element_eq_ok {entity : Reader α} (hentity : Rejects entity) {tree : Tree}
    {entry : Option α} (h : element entity tree = .ok entry)
    : Fills Tree.IsWord entity tree entry := by
  rcases element_cases h with ⟨a, ha, rfl⟩ | ⟨hword, hread, rfl⟩
  . have hword : ¬tree.IsWord := fun hword => hentity tree hword a ha
    exact ⟨by simp [hword], by simp [ha]⟩
  . have hword : tree.IsWord := by
      rcases hword with rfl | ⟨b, rfl⟩
      . exact isWord_null
      . exact isWord_boolean b
    exact ⟨by simp [hword], by simp [hread]⟩

def Puts (field : String) (value : Reader β) (place : Option β) (key : String) (tree : Tree)
    (place' : Option β) : Prop :=
  if key = field then place = none ∧ ∃ b, value tree = .ok b ∧ place' = some b else place' = place

def Holds (field : String) (value : Reader β) (found : List (String × Tree)) (place : Option β) :
    Prop :=
  (place = none ∧ (found.filter (·.1 == field)).map (·.2) = []) ∨
    ∃ tree b, (found.filter (·.1 == field)).map (·.2) = [tree] ∧ value tree = .ok b ∧
      place = some b

variable {field : String} {value : Reader β}

theorem once_puts {place place' : Option β} {tree : Tree}
    (h : once field place value tree = .ok place') : Puts field value place field tree place' := by
  rw [Puts, if_pos rfl]
  exact once_eq_ok h

theorem puts_of_ne {key : String} (h : key ≠ field) (place : Option β) (tree : Tree)
    : Puts field value place key tree place := by
  rw [Puts, if_neg h]

theorem Holds.puts {found : List (String × Tree)} {place place' : Option β} {key : String}
    {tree : Tree} (h : Holds field value found place)
    (hputs : Puts field value place key tree place')
    : Holds field value (found ++ [(key, tree)]) place' := by
  unfold Holds Puts at *
  rw [List.filter_append, List.map_append]
  split at hputs
  . next heq =>
    obtain ⟨rfl, b, hb, rfl⟩ := hputs
    obtain ⟨-, hnone⟩ | ⟨_, _, -, -, hplace⟩ := h
    . exact .inr ⟨tree, b, by simp [hnone, heq], hb, rfl⟩
    . cases hplace
  . next hne =>
    subst hputs
    simpa [hne] using h

theorem holds_foldlM {σ : Type} {member : σ → String → Reader σ} (place : σ → Option β)
    (hmember : ∀ s key tree s', member s key tree = .ok s' →
      Puts field value (place s) key tree (place s'))
    {empty : σ} (hempty : place empty = none) {found : List (String × Tree)} {s : σ}
    (h : found.foldlM (fun s e => member s e.1 e.2) empty = .ok s)
    : Holds field value found (place s) := by
  induction found using List.reverseRecOn generalizing s with
  | nil =>
    rw [List.foldlM_nil, pure_eq_ok] at h
    exact .inl ⟨h ▸ hempty, rfl⟩
  | append_singleton found e ih =>
    rw [List.foldlM_append, bind_eq_ok] at h
    obtain ⟨mid, hmid, h⟩ := h
    rw [List.foldlM_cons, bind_eq_ok] at h
    obtain ⟨last, hlast, h⟩ := h
    rw [List.foldlM_nil, pure_eq_ok] at h
    subst h
    exact (ih hmid).puts (hmember mid e.1 e.2 last hlast)

theorem Draft.member_puts {d d' : Draft} {key : String} {tree : Tree}
    (h : d.member key tree = .ok d')
    : Puts "frames" (list (element Pixels.reader)) d.frames key tree d'.frames ∧
        Puts "tiles" (list (element Tile.reader)) d.tiles key tree d'.tiles ∧
        Puts "rooms" (list (element Room.reader)) d.rooms key tree d'.rooms ∧
        Puts "sounds" (list (element Sound.reader)) d.sounds key tree d'.sounds := by
  unfold Draft.member at h
  split at h
  all_goals
    simp only [bind_eq_ok, pure_eq_ok] at h
    obtain ⟨_, hfound, rfl⟩ := h
    -- the key is that of the list, or it is another one
    refine ⟨?_, ?_, ?_, ?_⟩
    all_goals
      first
      | exact once_puts hfound
      | exact puts_of_ne (by decide) _ _
      | exact puts_of_ne ‹_› _ _

theorem lists_of_holds {key : String} {entity : Reader α} (hentity : Rejects entity) {tree : Tree}
    {place : Option (List (Option α))}
    (h : Holds key (list (element entity)) (shape.entries tree) place)
    : Lists Tree.IsWord key entity tree (place.getD []) := by
  rcases h with ⟨rfl, hnone⟩ | ⟨sequence, entries, hunder, hread, rfl⟩
  . replace hnone : shape.under key tree = [] := hnone
    exact ⟨.inl hnone, by simp [elements, hnone]⟩
  . obtain ⟨items, rfl, hitems⟩ := list_eq_ok hread
    replace hunder : shape.under key tree = [.sequence items none] := hunder
    refine ⟨.inr ⟨items, hunder⟩, ?_⟩
    rw [elements, hunder, List.flatMap_singleton]
    exact hitems.imp fun _ _ => element_eq_ok hentity

theorem reader_lists {tree : Tree} {doc : Document} (h : reader tree = .ok doc)
    : doc.ListsEntities Tree.IsWord tree := by
  obtain ⟨d, hd, h⟩ := record_eq_ok h
  simp only [Draft.finish, bind_eq_ok, pure_eq_ok] at h
  obtain ⟨_, -, _, -, _, -, rfl⟩ := h
  constructor
  case frames =>
    apply lists_of_holds (rejects_record _ _ _)
    exact holds_foldlM Draft.frames (fun _ _ _ _ h => (Draft.member_puts h).1) rfl hd
  case tiles =>
    apply lists_of_holds (rejects_record _ _ _)
    exact holds_foldlM Draft.tiles (fun _ _ _ _ h => (Draft.member_puts h).2.1) rfl hd
  case rooms =>
    apply lists_of_holds (rejects_record _ _ _)
    exact holds_foldlM Draft.rooms (fun _ _ _ _ h => (Draft.member_puts h).2.2.1) rfl hd
  case sounds =>
    apply lists_of_holds (rejects_record _ _ _)
    exact holds_foldlM Draft.sounds (fun _ _ _ _ h => (Draft.member_puts h).2.2.2) rfl hd

variable {entity : Reader α} {key : String} {tree element : Tree} {entry : Option α}

theorem Fills.marks_iff (h : Fills Tree.IsWord entity element entry)
    : Fills Tree.IsHoleMark entity element entry ↔ .boolean true ≠ element := by
  constructor
  . rintro hmark rfl
    have hnone : entry = none := h.absent_iff.mpr (isWord_boolean true)
    exact absurd (hmark.absent_iff.mp hnone) (by decide)
  . intro hne
    exact ⟨h.absent_iff.trans (or_iff_left hne.symm), h.present_iff⟩

theorem Fills.forall₂_marks_iff {found : List Tree} {entries : List (Option α)}
    (h : List.Forall₂ (Fills Tree.IsWord entity) found entries)
    : List.Forall₂ (Fills Tree.IsHoleMark entity) found entries ↔ .boolean true ∉ found := by
  induction h with
  | nil => simp
  | cons hfill _ ih => rw [List.forall₂_cons, ih, hfill.marks_iff, List.mem_cons, not_or]

theorem Lists.marks_iff {entries : List (Option α)} (h : Lists Tree.IsWord key entity tree entries)
    : Lists Tree.IsHoleMark key entity tree entries ↔ .boolean true ∉ elements key tree := by
  rw [← Fills.forall₂_marks_iff h.fills]
  exact ⟨fun hmarks => hmarks.fills, fun hmarks => ⟨h.once, hmarks⟩⟩

theorem Lists.isHole_or_entity {IsHole : Tree → Prop} {entries : List (Option α)}
    (h : Lists IsHole key entity tree entries) (helement : element ∈ elements key tree)
    : IsHole element ∨ ∃ a, entity element = .ok a := by
  have hfills : List.Forall₂ (fun e entry => (IsHole e ∨ ∃ a, entity e = .ok a) ∧
      Fills IsHole entity e entry) (elements key tree) entries := by
    apply h.fills.imp
    intro e entry hfill
    cases entry with
    | none => exact ⟨.inl (hfill.absent_iff.mp rfl), hfill⟩
    | some a => exact ⟨.inr ⟨a, (hfill.present_iff a).mp rfl⟩, hfill⟩
  exact ((List.forall₂_and_left _ _).mp hfills).1 element helement

theorem ListsEntities.marks_iff {doc : Document} (h : doc.ListsEntities Tree.IsWord tree)
    : doc.ListsEntities Tree.IsHoleMark tree ↔
        ∀ key ∈ listKeys, .boolean true ∉ elements key tree := by
  simp only [listKeys, List.forall_mem_cons, List.not_mem_nil, false_implies, implies_true,
    and_true, ← h.frames.marks_iff, ← h.tiles.marks_iff, ← h.rooms.marks_iff, ← h.sounds.marks_iff]
  exact ⟨fun hall => ⟨hall.frames, hall.tiles, hall.rooms, hall.sounds⟩,
    fun ⟨hframes, htiles, hrooms, hsounds⟩ => ⟨hframes, htiles, hrooms, hsounds⟩⟩

/-- A document that is loaded has, for every list of its text, an entry for each element: the entity
if it describes one, and a hole if it is `null`, `false` or `true`. Nothing is loaded if an element
is neither. So `null` and `false` are the only holes exactly if `true` is in none of the lists. -/
theorem elements_loaded (source : String) (journal : List Journal.Entry)
    : let tree := (Tree.ofText source).1
      (∀ doc journal', Runs (load source) journal doc journal' →
        doc.ListsEntities Tree.IsWord tree ∧
          (doc.ListsEntities Tree.IsHoleMark tree ↔
            ∀ key ∈ listKeys, .boolean true ∉ elements key tree)) ∧
        ∀ element, IsForeign tree element → ¬element.IsWord →
          ¬(outcome (load source) journal).1.isOk := by
  intro tree
  have hlists {doc : Document} {journal' : List Journal.Entry}
      (h : Runs (load source) journal doc journal') : doc.ListsEntities Tree.IsWord tree :=
    reader_lists (reader_of_ofText (runs_load h))
  constructor
  . intro doc journal' h
    exact ⟨hlists h, (hlists h).marks_iff⟩
  . intro element hforeign hword hok
    obtain ⟨doc, journal', h⟩ := isOk_outcome.mp hok
    -- a loaded list has read each of its elements, as a hole or as an entity
    have hentity {α : Type} {key : String} {entity : Reader α} {entries : List (Option α)}
        (hlist : Lists Tree.IsWord key entity tree entries) (helement : element ∈ elements key tree)
        (hother : ∀ a, entity element ≠ .ok a) : False := by
      rcases hlist.isHole_or_entity helement with hhole | ⟨a, ha⟩
      . exact hword hhole
      . exact hother a ha
    rcases hforeign with ⟨hin, hother⟩ | ⟨hin, hother⟩ | ⟨hin, hother⟩ | ⟨hin, hother⟩
    . exact hentity (hlists h).frames hin hother
    . exact hentity (hlists h).tiles hin hother
    . exact hentity (hlists h).rooms hin hother
    . exact hentity (hlists h).sounds hin hother

def textWithFrames (frames : String) : String :=
  "\x7b\"name\":\"g\",\"player\":\x7b\"id\":0,\"room\":0,\"x\":0,\"y\":0\x7d," ++
    "\"font\":\x7b\"type\":0\x7d,\"frames\":" ++ frames ++ "\x7d"

def holesText : String := textWithFrames "[null,false,\x7b\"data\":[]\x7d]"

theorem elements_loaded_holes
    : (∃ doc journal', Runs (load holesText) [] doc journal' ∧ doc.frames = [none, none, some []] ∧
        doc.ListsEntities Tree.IsHoleMark (Tree.ofText holesText).1) ∧
      ¬(outcome (load (textWithFrames "[7]")) []).1.isOk := by
  constructor
  . obtain ⟨doc, hdoc⟩ : ∃ doc, ofText holesText = .ok doc := eq_ok_of_isOk (by decide +kernel)
    obtain ⟨journal', hload⟩ := load_succeeds hdoc []
    have hframes : (ofText holesText).toOption.map (·.frames) = some [none, none, some []] := by
      decide +kernel
    have hmarked : ∀ key ∈ listKeys, ∀ t ∈ elements key (Tree.ofText holesText).1,
        t ≠ .boolean true := by
      decide +kernel
    obtain ⟨-, hmarks⟩ := (elements_loaded holesText []).1 doc journal' hload
    refine ⟨doc, journal', hload, ?_, hmarks.mpr ?_⟩
    . rw [hdoc] at hframes
      exact Option.some.inj hframes
    . intro key hkey hin
      exact hmarked key hkey _ hin rfl
  . obtain ⟨element, hin, hword, hother⟩ :
        ∃ element ∈ elements "frames" (Tree.ofText (textWithFrames "[7]")).1,
          ¬element.IsWord ∧ (Pixels.reader element).isOk = false := by decide +kernel
    refine (elements_loaded _ []).2 element (.inl ⟨hin, ?_⟩) hword
    intro a ha
    rw [ha] at hother
    cases hother

theorem true_loaded_as_hole
    : ∃ doc journal', Runs (load (textWithFrames "[true]")) [] doc journal' ∧
        doc.frames = [none] ∧
        ¬doc.ListsEntities Tree.IsHoleMark (Tree.ofText (textWithFrames "[true]")).1 := by
  obtain ⟨doc, hdoc⟩ : ∃ doc, ofText (textWithFrames "[true]") = .ok doc :=
    eq_ok_of_isOk (by decide +kernel)
  obtain ⟨journal', hload⟩ := load_succeeds hdoc []
  have hframes : (ofText (textWithFrames "[true]")).toOption.map (·.frames) = some [none] := by
    decide +kernel
  have htrue : ∃ t ∈ elements "frames" (Tree.ofText (textWithFrames "[true]")).1,
      t = .boolean true := by
    decide +kernel
  obtain ⟨t, hin, rfl⟩ := htrue
  refine ⟨doc, journal', hload, ?_, ?_⟩
  . rw [hdoc] at hframes
    exact Option.some.inj hframes
  . have hlists := reader_lists (reader_of_ofText hdoc)
    intro hmarks
    exact hlists.marks_iff.mp hmarks "frames" (by decide) hin

end Document

end PulpGame
