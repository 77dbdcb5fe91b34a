import PulpGame.Proofs.Document.Validity
import PulpGame.Proofs.Entity.Statements
/-!
The tables of entities are read back as what was in the document.

A reader of tables knows numerals, strings, `true` and `false`, and tables of these. It takes the
fields of a record by their keys, and no others may be there, nor one of them twice.
-/

namespace PulpGame

open Lua (Term Statement)

namespace Lua.Term

variable {α : Type}

def numeral? : Term → Option String
  | .numeral digits => some digits
  | .unary "-" (.numeral digits) => some ("-" ++ digits)
  | _ => none

def integer? (t : Term) : Option Int := t.numeral?.bind (·.toInt?)

def natural? (t : Term) : Option Nat := t.numeral?.bind (·.toNat?)

def boolean? : Term → Option Bool
  | .boolean b => some b
  | _ => none

def string? : Term → Option String
  | .string s => some s
  | _ => none

def items? (read : Term → Option α) : Term → Option (List α)
  | .table fs => fs.mapM fun
    | (none, t) => read t
    | _ => none
  | _ => none

def record? (keys : List String) : Term → Option (List (String × Term))
  | .table fs => do
    let pairs ← fs.mapM fun
      | (some (.string key), t) => some (key, t)
      | _ => none
    if (pairs.map (·.1)).Sublist keys then return pairs else none
  | _ => none

end Lua.Term

namespace Entity

variable {α β : Type}

def given (fs : List (String × Term)) (key : String) (read : Term → Option α) : Option α :=
  (fs.lookup key).bind read

def present (fs : List (String × Term)) (key : String) (read : Term → Option α)
    : Option (Option α) :=
  match fs.lookup key with
  | none => some none
  | some t => (read t).map some

end Entity

open Entity (given present)

structure TileEntry where
  id : Int
  fps : String
  name : String
  kind : Int
  behaviour : Int
  solid : Bool
  speech : Option String
  places : List Nat
deriving DecidableEq, Repr

def TileEntry.read (t : Term) : Option TileEntry := do
  let fs ← t.record? ["id", "fps", "name", "type", "btype", "solid", "says", "frames"]
  return {
    id := ← given fs "id" Term.integer?
    fps := ← given fs "fps" Term.numeral?
    name := ← given fs "name" Term.string?
    kind := ← given fs "type" Term.integer?
    behaviour := ← given fs "btype" Term.integer?
    solid := ← given fs "solid" Term.boolean?
    speech := ← present fs "says" Term.string?
    places := ← given fs "frames" (Term.items? Term.natural?) }

def Exit.read (t : Term) : Option Exit := do
  let fs ← t.record? ["x", "y", "tx", "ty", "edge", "fin", "room"]
  return {
    x := ← given fs "x" Term.integer?
    y := ← given fs "y" Term.integer?
    tx := ← present fs "tx" Term.integer?
    ty := ← present fs "ty" Term.integer?
    edge := ← present fs "edge" Term.integer?
    ending := ← present fs "fin" Term.string?
    room := ← present fs "room" Term.integer? }

def Room.read (t : Term) : Option Room := do
  let fs ← t.record? ["id", "name", "song", "tiles", "exits"]
  return {
    id := ← given fs "id" Term.integer?
    name := ← given fs "name" Term.string?
    song := ← given fs "song" Term.integer?
    tiles := ← given fs "tiles" (Term.items? Term.integer?)
    exits := ← given fs "exits" (Term.items? Exit.read) }

structure SoundEntry where
  bpm : String
  name : String
  kind : Int
  notes : Option (List String)
  ticks : Option Int
  decay : Option String
  attack : Option String
  release : Option String
  volume : Option String
  sustain : Option String
deriving DecidableEq, Repr

def SoundEntry.read (t : Term) : Option SoundEntry := do
  let fs ← t.record? ["bpm", "name", "type", "notes", "ticks", "decay", "attack", "release", "volume",
    "sustain"]
  return {
    bpm := ← given fs "bpm" Term.numeral?
    name := ← given fs "name" Term.string?
    kind := ← given fs "type" Term.integer?
    notes := ← present fs "notes" (Term.items? Term.numeral?)
    ticks := ← present fs "ticks" Term.integer?
    decay := ← present fs "decay" Term.numeral?
    attack := ← present fs "attack" Term.numeral?
    release := ← present fs "release" Term.numeral?
    volume := ← present fs "volume" Term.numeral?
    sustain := ← present fs "sustain" Term.numeral? }

namespace Entity

def isRuntimeTable (table : String) : Term → Bool
  | .index (.name "__pulp") (.string t) => t == table
  | _ => false

def readEntry {α : Type} (table : String) (read : Term → Option α) : Statement → Option (Int × α)
  | .assign [.index place id] [value] =>
    if isRuntimeTable table place then do return (← id.integer?, ← read value) else none
  | _ => none

def readTable {α : Type} (table : String) (read : Term → Option α) (text : String)
    : Option (List (Int × α)) := do
  match ← Lua.parse text with
  | .assign [place] [.table []] :: entries =>
    if isRuntimeTable table place then entries.mapM (readEntry table read) else none
  | _ => none

end Entity

def Tile.entry (packing : Sheet.Packing) (t : Tile) : TileEntry where
  id := t.id
  fps := Lua.numeral t.fps
  name := t.name
  kind := t.kind
  behaviour := t.behaviour
  solid := t.solid
  speech := t.speech
  places := t.frames.filterMap packing.place?

/-- The exit moved to the nearest place in its room or on the edge of it. Of the text at the end, the
line breaks are those of a long bracket. -/
def Exit.entry (e : Exit) : Exit :=
  { e with
    x := max 0 (min 25 e.x)
    y := max 0 (min 15 e.y)
    ending := e.ending.map fun s =>
      String.ofList (Lua.Bracket.value (Lua.bracketContent s.toList)) }

def Room.entry (r : Room) : Room := { r with exits := r.exits.map Exit.entry }

def Sound.entry (s : Sound) : SoundEntry where
  bpm := Lua.numeral s.bpm
  name := s.name
  kind := s.kind
  notes := s.notes.map (·.map Lua.numeral)
  ticks := s.ticks
  decay := (s.envelope.bind (·.decay)).map Lua.numeral
  attack := (s.envelope.bind (·.attack)).map Lua.numeral
  release := (s.envelope.bind (·.release)).map Lua.numeral
  volume := (s.envelope.bind (·.volume)).map Lua.numeral
  sustain := (s.envelope.bind (·.sustain)).map Lua.numeral

namespace Entity

variable {α β : Type}

theorem numeral?_numeralTerm (digits : String) : (Lua.numeralTerm digits).numeral? = some digits := by
  unfold Lua.numeralTerm
  split
  . next cs hchars =>
    have hdigits : digits = "-" ++ String.ofList cs := by
      rw [← String.toList_inj, hchars]
      simp
    rw [Term.numeral?, hdigits]
  . rfl

theorem integer?_int (n : Int) : (Lua.numeralTerm (toString n)).integer? = some n := by
  rw [Term.integer?, numeral?_numeralTerm]
  exact Int.toInt?_repr n

theorem natural?_nat (n : Nat) : (Lua.numeralTerm (toString n)).natural? = some n := by
  rw [Term.natural?, numeral?_numeralTerm]
  exact Nat.toNat?_repr n

theorem numeral?_number {x : Binary64} (h : x.isFinite)
    : (numberTerm x).numeral? = some (Lua.numeral x) := by
  obtain ⟨negative, m, q, hvalue⟩ := Binary64.value_of_isFinite h
  rw [numberTerm, hvalue]
  exact numeral?_numeralTerm _

theorem mapM_eq_some {f : α → Option β} {g : α → β} {as : List α} (h : ∀ a ∈ as, f a = some (g a))
    : as.mapM f = some (as.map g) := by
  induction as with
  | nil => rfl
  | cons a as ih =>
    rw [List.mapM_cons, h a (by simp), ih fun b hb => h b (by simp [hb])]
    rfl

theorem items?_map {read : Term → Option β} {f : α → Term} {g : α → β} {as : List α}
    (h : ∀ a ∈ as, read (f a) = some (g a))
    : Term.items? read (.table (as.map fun a => item (f a))) = some (as.map g) := by
  rw [Term.items?, List.mapM_map]
  exact mapM_eq_some h

theorem items?_self {read : Term → Option α} {f : α → Term} {as : List α}
    (h : ∀ a ∈ as, read (f a) = some a)
    : Term.items? read (.table (as.map fun a => item (f a))) = some as := by
  rw [items?_map h, List.map_id']

theorem record?_map {keys : List String} {key : α → String} {value : α → Term} {as : List α}
    (h : (as.map key).Sublist keys)
    : Term.record? keys (.table (as.map fun a => (some (.string (key a)), value a))) =
        some (as.map fun a => (key a, value a)) := by
  have hpairs : (as.map fun a => (some (Term.string (key a)), value a)).mapM (fun
      | (some (.string key), t) => some (key, t)
      | _ => none) = some (as.map fun a => (key a, value a)) := by
    rw [List.mapM_map]
    exact mapM_eq_some fun _ _ => rfl
  have hkeys : (as.map fun a => (key a, value a)).map (·.1) = as.map key := by
    rw [List.map_map]
    rfl
  rw [Term.record?, hpairs]
  simp only [Option.bind_eq_bind, Option.bind_some, hkeys, if_pos h]
  rfl

def Field.pair (f : Field) : String × Term := (f.key, f.content.term)

def Scalar.pair (s : Scalar) : String × Term := (s.key, s.value.term)

theorem record?_record {keys : List String} {r : Record} (h : (r.fields.map (·.key)).Sublist keys)
    : Term.record? keys r.term = some (r.fields.map Field.pair) :=
  record?_map h

theorem record?_scalars {keys : List String} {fields : List Scalar}
    (h : (fields.map (·.key)).Sublist keys)
    : Term.record? keys (.table (fields.map Scalar.entry)) = some (fields.map Scalar.pair) :=
  record?_map h

@[simp]
theorem lookup_field (k key : String) (content : Content) (fs : List (String × Term))
    : List.lookup k (Field.pair ⟨key, content⟩ :: fs) =
        if k = key then some content.term else fs.lookup k := by
  rw [Field.pair, List.lookup_cons]
  by_cases h : k = key
  . rw [h, beq_self_eq_true, if_pos rfl]
  . rw [beq_false_of_ne h, if_neg h]

@[simp]
theorem lookup_one (k key : String) (value : Literal)
    : List.lookup k ((one key value).map Field.pair) = if k = key then some value.term else none :=
  lookup_field k key (.literal value) []

@[simp]
theorem lookup_maybe (k key : String) (make : α → Literal) (o : Option α)
    : List.lookup k ((maybe key make o).map Field.pair) =
        if k = key then o.map fun a => (make a).term else none := by
  cases o with
  | none => simp [maybe]
  | some a => simp [maybe]

@[simp]
theorem lookup_scalar (k key : String) (value : Literal) (fs : List (String × Term))
    : List.lookup k (Scalar.pair ⟨key, value⟩ :: fs) =
        if k = key then some value.term else fs.lookup k := by
  rw [Scalar.pair, List.lookup_cons]
  by_cases h : k = key
  . rw [h, beq_self_eq_true, if_pos rfl]
  . rw [beq_false_of_ne h, if_neg h]

@[simp]
theorem lookup_maybeScalar (k key : String) (make : α → Literal) (o : Option α)
    : List.lookup k ((Exit.toScalars.scalar key make o).map Scalar.pair) =
        if k = key then o.map fun a => (make a).term else none := by
  cases o with
  | none => simp [Exit.toScalars.scalar]
  | some a => simp [Exit.toScalars.scalar]

theorem given_eq {fs : List (String × Term)} {key : String} {t : Term} {read : Term → Option α}
    {a : α} (hlookup : fs.lookup key = some t) (h : read t = some a) : given fs key read = some a := by
  rw [given, hlookup]
  exact h

theorem present_eq {fs : List (String × Term)} {key : String} {o : Option α} {f : α → Term}
    {g : α → β} {read : Term → Option β} (hlookup : fs.lookup key = o.map f)
    (h : ∀ a ∈ o, read (f a) = some (g a)) : present fs key read = some (o.map g) := by
  rw [present, hlookup]
  cases o with
  | none => rfl
  | some a =>
    change (read (f a)).map some = _
    rw [h a rfl]
    rfl

theorem present_self {fs : List (String × Term)} {key : String} {o : Option α} {f : α → Term}
    {read : Term → Option α} (hlookup : fs.lookup key = o.map f)
    (h : ∀ a ∈ o, read (f a) = some a) : present fs key read = some o := by
  rw [present_eq hlookup h, Option.map_id']

theorem keys_maybe (key : String) (make : α → Literal) (o : Option α)
    : ((maybe key make o).map (·.key)).Sublist [key] := by
  cases o with
  | none => simp [maybe]
  | some a => exact .refl _

theorem keys_maybeScalar (key : String) (make : α → Literal) (o : Option α)
    : ((Exit.toScalars.scalar key make o).map (·.key)).Sublist [key] := by
  cases o with
  | none => simp [Exit.toScalars.scalar]
  | some a => exact .refl _

end Entity

open Entity

theorem Tile.keys_toRecord (t : Tile) (places : List Nat)
    : ((t.toRecord places).fields.map (·.key)).Sublist
        ["id", "fps", "name", "type", "btype", "solid", "says", "frames"] := by
  simp only [toRecord, List.map_append]
  exact ((List.Sublist.refl ["id", "fps", "name", "type", "btype", "solid"]).append
    (keys_maybe "says" _ _)).append (.refl ["frames"])

theorem Tile.given_frames (t : Tile) (places : List Nat)
    : given ((t.toRecord places).fields.map Field.pair) "frames" (Term.items? Term.natural?) =
        some places :=
  given_eq (by simp [toRecord, List.lookup_append]; rfl) (items?_self fun n _ => natural?_nat n)

theorem Tile.read_toRecord {packing : Sheet.Packing} {t : Tile} (hfps : t.fps.isFinite)
    : TileEntry.read (t.toRecord (t.frames.filterMap packing.place?)).term =
        some (t.entry packing) := by
  have hframes := t.given_frames (t.frames.filterMap packing.place?)
  rw [TileEntry.read, record?_record (t.keys_toRecord _)]
  generalize hfs : (t.toRecord (t.frames.filterMap packing.place?)).fields.map Field.pair = fs
    at hframes
  simp only [toRecord, List.map_append, List.map_cons, List.map_nil] at hfs
  have hid : given fs "id" Term.integer? = some t.id :=
    given_eq (by simp [← hfs, List.lookup_append]; rfl) (integer?_int t.id)
  have hfps : given fs "fps" Term.numeral? = some (Lua.numeral t.fps) :=
    given_eq (by simp [← hfs, List.lookup_append]; rfl) (numeral?_number hfps)
  have hname : given fs "name" Term.string? = some t.name :=
    given_eq (by simp [← hfs, List.lookup_append]; rfl) rfl
  have hkind : given fs "type" Term.integer? = some t.kind :=
    given_eq (by simp [← hfs, List.lookup_append]; rfl) (integer?_int t.kind)
  have hbehaviour : given fs "btype" Term.integer? = some t.behaviour :=
    given_eq (by simp [← hfs, List.lookup_append]; rfl) (integer?_int t.behaviour)
  have hsolid : given fs "solid" Term.boolean? = some t.solid :=
    given_eq (by simp [← hfs, List.lookup_append]; rfl) rfl
  have hspeech : present fs "says" Term.string? = some t.speech :=
    present_self (by simp [← hfs, List.lookup_append]; rfl) fun _ _ => rfl
  simp [hid, hfps, hname, hkind, hbehaviour, hsolid, hspeech, hframes, entry]

theorem Exit.read_toScalars (e : Exit)
    : Exit.read (.table (e.toScalars.map Scalar.entry)) = some e.entry := by
  have hkeys : (e.toScalars.map (·.key)).Sublist ["x", "y", "tx", "ty", "edge", "fin", "room"] := by
    simp only [toScalars, List.map_append]
    exact (((((List.Sublist.refl ["x", "y"]).append (keys_maybeScalar "tx" _ _)).append
      (keys_maybeScalar "ty" _ _)).append (keys_maybeScalar "edge" _ _)).append
      (keys_maybeScalar "fin" _ _)).append (keys_maybeScalar "room" _ _)
  rw [Exit.read, record?_scalars hkeys]
  generalize hfs : e.toScalars.map Scalar.pair = fs
  simp only [toScalars, List.map_append, List.map_cons, List.map_nil] at hfs
  have hx : given fs "x" Term.integer? = some (max 0 (min 25 e.x)) :=
    given_eq (by simp [← hfs]; rfl) (integer?_int _)
  have hy : given fs "y" Term.integer? = some (max 0 (min 15 e.y)) :=
    given_eq (by simp [← hfs]; rfl) (integer?_int _)
  have htx : present fs "tx" Term.integer? = some e.tx :=
    present_self (by simp [← hfs, List.lookup_append]; rfl) fun n _ => integer?_int n
  have hty : present fs "ty" Term.integer? = some e.ty :=
    present_self (by simp [← hfs, List.lookup_append]; rfl) fun n _ => integer?_int n
  have hedge : present fs "edge" Term.integer? = some e.edge :=
    present_self (by simp [← hfs, List.lookup_append]; rfl) fun n _ => integer?_int n
  have hending : present fs "fin" Term.string? = some (e.ending.map fun s =>
      String.ofList (Lua.Bracket.value (Lua.bracketContent s.toList))) :=
    present_eq (by simp [← hfs, List.lookup_append]; rfl) fun _ _ => rfl
  have hroom : present fs "room" Term.integer? = some e.room :=
    present_self (by simp [← hfs, List.lookup_append]; rfl) fun n _ => integer?_int n
  simp [hx, hy, htx, hty, hedge, hending, hroom, entry]

theorem Room.read_toRecord (r : Room) : Room.read r.toRecord.term = some r.entry := by
  have hkeys : (r.toRecord.fields.map (·.key)).Sublist ["id", "name", "song", "tiles", "exits"] :=
    .refl _
  rw [Room.read, record?_record hkeys]
  generalize hfs : r.toRecord.fields.map Field.pair = fs
  simp only [toRecord, List.map_append, List.map_cons, List.map_nil] at hfs
  have hid : given fs "id" Term.integer? = some r.id :=
    given_eq (by simp [← hfs, List.lookup_append]; rfl) (integer?_int r.id)
  have hname : given fs "name" Term.string? = some r.name :=
    given_eq (by simp [← hfs, List.lookup_append]; rfl) rfl
  have hsong : given fs "song" Term.integer? = some r.song :=
    given_eq (by simp [← hfs, List.lookup_append]; rfl) (integer?_int r.song)
  have htiles : given fs "tiles" (Term.items? Term.integer?) = some r.tiles :=
    given_eq (by simp [← hfs, List.lookup_append]; rfl) (items?_self fun n _ => integer?_int n)
  have hterm : (Content.records (r.exits.map Exit.toScalars)).term =
      .table (r.exits.map fun e => item (.table (e.toScalars.map Scalar.entry))) := by
    rw [Content.term, List.map_map]
    rfl
  have hexits : given fs "exits" (Term.items? Exit.read) = some (r.exits.map Exit.entry) :=
    given_eq (by simp [← hfs, List.lookup_append, hterm])
      (items?_map fun e _ => e.read_toScalars)
  simp [hid, hname, hsong, htiles, hexits, entry]

namespace Sound

def notesFields : Option (List Binary64) → List Field
  | some notes => [⟨"notes", .numerals notes⟩]
  | none => []

def envelopeFields : Option Envelope → List Field
  | some e => e.fields
  | none => []

theorem toRecord_fields (s : Sound)
    : s.toRecord.fields = one "bpm" (.numeral s.bpm) ++ one "name" (.quoted s.name) ++
        one "type" (.integer s.kind) ++ notesFields s.notes ++ maybe "ticks" .integer s.ticks ++
        envelopeFields s.envelope :=
  rfl

theorem lookup_notesFields (k : String) (o : Option (List Binary64))
    : List.lookup k ((notesFields o).map Field.pair) =
        if k = "notes" then o.map fun notes => (Content.numerals notes).term else none := by
  cases o with
  | none => simp [notesFields]
  | some notes => simp [notesFields]

theorem lookup_envelopeFields (k : String) (o : Option Envelope)
    : List.lookup k ((envelopeFields o).map Field.pair) =
        if k = "decay" then (o.bind (·.decay)).map numberTerm
        else if k = "attack" then (o.bind (·.attack)).map numberTerm
        else if k = "release" then (o.bind (·.release)).map numberTerm
        else if k = "volume" then (o.bind (·.volume)).map numberTerm
        else if k = "sustain" then (o.bind (·.sustain)).map numberTerm
        else none := by
  cases o with
  | none => simp [envelopeFields]
  | some e =>
    simp only [envelopeFields, Envelope.fields, List.map_append, List.lookup_append, lookup_maybe,
      Literal.term, Option.bind_some]
    split_ifs <;> simp_all

theorem keys_notesFields (o : Option (List Binary64))
    : ((notesFields o).map (·.key)).Sublist ["notes"] := by
  cases o with
  | none => simp [notesFields]
  | some notes => exact .refl _

theorem keys_envelopeFields (o : Option Envelope)
    : ((envelopeFields o).map (·.key)).Sublist
        ["decay", "attack", "release", "volume", "sustain"] := by
  cases o with
  | none => simp [envelopeFields]
  | some e =>
    simp only [envelopeFields, Envelope.fields, List.map_append]
    exact ((((keys_maybe "decay" _ _).append (keys_maybe "attack" _ _)).append
      (keys_maybe "release" _ _)).append (keys_maybe "volume" _ _)).append (keys_maybe "sustain" _ _)

theorem read_toRecord {s : Sound} (h : s.IsFinite)
    : SoundEntry.read s.toRecord.term = some s.entry := by
  have hkeys : (s.toRecord.fields.map (·.key)).Sublist
      ["bpm", "name", "type", "notes", "ticks", "decay", "attack", "release", "volume", "sustain"] := by
    simp only [toRecord_fields, List.map_append]
    exact (((List.Sublist.refl ["bpm", "name", "type"]).append (keys_notesFields _)).append
      (keys_maybe "ticks" _ _)).append (keys_envelopeFields _)
  rw [SoundEntry.read, record?_record hkeys]
  generalize hfs : s.toRecord.fields.map Field.pair = fs
  simp only [toRecord_fields, List.map_append] at hfs
  have hbpm : given fs "bpm" Term.numeral? = some (Lua.numeral s.bpm) :=
    given_eq (by simp [← hfs, List.lookup_append]; rfl) (numeral?_number h.bpm)
  have hname : given fs "name" Term.string? = some s.name :=
    given_eq (by simp [← hfs, List.lookup_append]; rfl) rfl
  have hkind : given fs "type" Term.integer? = some s.kind :=
    given_eq (by simp [← hfs, List.lookup_append]; rfl) (integer?_int s.kind)
  have hnotes : present fs "notes" (Term.items? Term.numeral?) =
      some (s.notes.map (·.map Lua.numeral)) :=
    present_eq (by simp [← hfs, List.lookup_append, lookup_notesFields, lookup_envelopeFields]; rfl)
      fun notes hmem => items?_map fun x hx => numeral?_number (h.notes notes hmem x hx)
  have hticks : present fs "ticks" Term.integer? = some s.ticks :=
    present_self
      (by simp [← hfs, List.lookup_append, lookup_notesFields, lookup_envelopeFields]; rfl)
      fun n _ => integer?_int n
  have hoptional (key : String) (select : Envelope → Option Binary64)
      (hselect : ∀ e : Envelope, select e ∈ [e.attack, e.decay, e.sustain, e.release, e.volume])
      (hlookup : fs.lookup key = (s.envelope.bind select).map numberTerm)
      : present fs key Term.numeral? = some ((s.envelope.bind select).map Lua.numeral) := by
    apply present_eq hlookup
    intro x hx
    obtain ⟨e, he, hx⟩ := Option.bind_eq_some_iff.mp hx
    exact numeral?_number (h.envelope e he _ (hselect e) x hx)
  have hdecay := hoptional "decay" (·.decay) (by simp)
    (by simp [← hfs, List.lookup_append, lookup_notesFields, lookup_envelopeFields])
  have hattack := hoptional "attack" (·.attack) (by simp)
    (by simp [← hfs, List.lookup_append, lookup_notesFields, lookup_envelopeFields])
  have hrelease := hoptional "release" (·.release) (by simp)
    (by simp [← hfs, List.lookup_append, lookup_notesFields, lookup_envelopeFields])
  have hvolume := hoptional "volume" (·.volume) (by simp)
    (by simp [← hfs, List.lookup_append, lookup_notesFields, lookup_envelopeFields])
  have hsustain := hoptional "sustain" (·.sustain) (by simp)
    (by simp [← hfs, List.lookup_append, lookup_notesFields, lookup_envelopeFields])
  simp [hbpm, hname, hkind, hnotes, hticks, hdecay, hattack, hrelease, hvolume, hsustain, entry]

end Sound

namespace Entity

variable {α β : Type}

theorem isRuntimeTable_runtimeField (table name : String)
    : isRuntimeTable table (Program.runtimeField name).term = (name == table) :=
  rfl

theorem statement_eq (table : String) (r : Record)
    : r.statement table =
        .assign [.index (Program.runtimeField table).term (Lua.numeralTerm (toString r.id))]
          [r.term] :=
  rfl

theorem readEntry_statement {table : String} {read : Term → Option α} {r : Record} {a : α}
    (h : read r.term = some a) : readEntry table read (r.statement table) = some (r.id, a) := by
  have htable : isRuntimeTable table (Program.runtimeField table).term := by
    simp [isRuntimeTable_runtimeField]
  rw [statement_eq, readEntry, if_pos htable, integer?_int, h]
  rfl

theorem readTable_tableText {table : String} {read : Term → Option α} {record : β → Record}
    {entry : β → α} {bs : List β} (htable : Lua.isName table) (hnamed : ∀ b ∈ bs, (record b).IsNamed)
    (h : ∀ b ∈ bs, read (record b).term = some (entry b)) (indent : Nat)
    : readTable table read (tableText table indent (bs.map record)) =
        some (bs.map fun b => ((record b).id, entry b)) := by
  have hrecords : ∀ r ∈ bs.map record, r.IsNamed := by simpa using hnamed
  have hstates := states_table htable hrecords indent
  have hruntime : isRuntimeTable table (Program.runtimeField table).term := by
    simp [isRuntimeTable_runtimeField]
  rw [readTable, hstates.parse_eq, tableStatements]
  simp only [Option.bind_eq_bind, Option.bind_some, if_pos hruntime]
  rw [List.map_map, List.mapM_map]
  apply mapM_eq_some
  intro b hb
  exact readEntry_statement (h b hb)

/-- The tables of tiles, rooms and sounds are read back as one entity after another, without the
holes, and each entity as what it was: every field that it has to have, those others that it had, the
places of all frames, all tiles of a room and all of its exits. -/
theorem tables_read_back {packing : Sheet.Packing} {tiles : List (Option Tile)}
    {rooms : List (Option Room)} {sounds : List (Option Sound)} {ledger : Ledger}
    (hframes : ∀ t, some t ∈ tiles → ∀ f ∈ t.frames, f < packing.places.length)
    (htiles : ∀ t, some t ∈ tiles → t.fps.isFinite) (hsounds : ∀ s, some s ∈ sounds → s.IsFinite)
    : ∃ text ledger', Runs (tileTable packing tiles) ledger text ledger' ∧
        readTable "tiles" TileEntry.read text =
          some ((tiles.filterMap id).map fun t => (t.id, t.entry packing)) ∧
        (∀ t, some t ∈ tiles → (t.entry packing).places.map some = t.frames.map packing.place?) ∧
        readTable "rooms" Room.read (roomTable rooms) =
          some ((rooms.filterMap id).map fun r => (r.id, r.entry)) ∧
        readTable "sounds" SoundEntry.read (soundTable sounds) =
          some ((sounds.filterMap id).map fun s => (s.id, s.entry)) := by
  have hmem {γ : Type} {items : List (Option γ)} {c : γ} (h : c ∈ items.filterMap id)
      : some c ∈ items := by simpa using h
  -- only the table of tiles can fail, at a frame that is not there
  have htotal : Total (tileTable packing tiles) := by
    apply Total.bind
    . apply total_tileRecords
      intro t ht
      exact hframes t (hmem ht)
    . intro _ _ _ _
      exact .pure
  obtain ⟨text, ledger', hrun⟩ := htotal ledger
  obtain ⟨records, hrecords, rfl, -⟩ := runs_tileTable hrun
  obtain ⟨rfl, hplaces⟩ := records_eq hrecords
  refine ⟨_, ledger', hrun, ?_, ?_, ?_, ?_⟩
  . apply readTable_tableText rfl
    . intro t _
      exact t.toRecord_isNamed _
    . intro t ht
      exact Tile.read_toRecord (htiles t (hmem ht))
  . intro t ht
    exact hplaces t (by simpa using ht)
  . apply readTable_tableText rfl
    . intro r _
      exact r.toRecord_isNamed
    . intro r _
      exact r.read_toRecord
  . apply readTable_tableText rfl
    . intro s _
      exact s.toRecord_isNamed
    . intro s hs
      exact Sound.read_toRecord (hsounds s (hmem hs))

def doorTile : Tile :=
  ⟨3, "the \"door\"", ⟨0x3FF8000000000000⟩, 1, -2, true, some "line\nbreak", [1, 0]⟩

def cellarRoom : Room :=
  ⟨0, "cellar", -1, [3, -7, 3], [⟨40, -2, some 4, none, none, none, some 0⟩,
    ⟨3, 4, none, none, some 1, some "\n]]the end", none⟩]⟩

def dripSound : Sound :=
  ⟨2, "drip", 0, ⟨0x405E000000000000⟩, some [⟨0x3FE0000000000000⟩], none,
    some ⟨none, some ⟨0xBFF0000000000000⟩, none, none, none⟩⟩

theorem tables_read_back_cellar
    : ∃ text ledger', Runs (tileTable ⟨[[], [1]], [2, 1]⟩ [none, some doorTile]) {} text ledger' ∧
        readTable "tiles" TileEntry.read text = some [(3, doorTile.entry ⟨[[], [1]], [2, 1]⟩)] ∧
        readTable "rooms" Room.read (roomTable [some cellarRoom, none]) =
          some [(0, cellarRoom.entry)] ∧
        readTable "sounds" SoundEntry.read (soundTable [some dripSound]) =
          some [(2, dripSound.entry)] := by
  have hframes : ∀ t, some t ∈ [none, some doorTile] → ∀ f ∈ t.frames, f < 2 := by
    simp only [List.mem_cons, Option.some.injEq, List.not_mem_nil, or_false, reduceCtorEq, false_or]
    rintro t rfl
    decide
  have htiles : ∀ t, some t ∈ [none, some doorTile] → t.fps.isFinite := by
    simp only [List.mem_cons, Option.some.injEq, List.not_mem_nil, or_false, reduceCtorEq, false_or]
    rintro t rfl
    decide
  have hsounds : ∀ s, some s ∈ [some dripSound] → s.IsFinite := by
    simp only [List.mem_cons, Option.some.injEq, List.not_mem_nil, or_false]
    rintro s rfl
    refine ⟨by decide, by simp [dripSound]; decide, ?_⟩
    simp [dripSound, Envelope.IsFinite]
    decide
  obtain ⟨text, ledger', hrun, hread, -, hrooms, hread'⟩ :=
    @tables_read_back ⟨[[], [1]], [2, 1]⟩ [none, some doorTile] [some cellarRoom, none]
      [some dripSound] {} hframes htiles hsounds
  exact ⟨text, ledger', hrun, hread, hrooms, hread'⟩

end Entity

end PulpGame
