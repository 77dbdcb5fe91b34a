import PulpGame.Entity.Tables
import PulpGame.Proofs.Document.Finite
import PulpGame.Proofs.Program.Vocabulary

namespace PulpGame

open Lua (Token Spells anyChar outsideNumeral)
open Program (entityKeys Plain plain_of_all plain_cons plain_append)

namespace Entity

def Literal.tokens : Literal → List Token
  | .integer value => Lua.signedTokens (toString value)
  | .numeral value => Lua.signedTokens (Lua.numeral value)
  | .boolean value => [.keyword (if value then "true" else "false")]
  | .quoted value => [.string value]
  | .passage value => [.string (String.ofList (Lua.Bracket.value (Lua.bracketContent value.toList)))]

def itemTokens (ts : List Token) : List Token := ts ++ [.symbol ","]

def bracedTokens {α : Type} (item : α → List Token) (items : List α) : List Token :=
  .symbol "\x7b" :: items.flatMap item ++ [.symbol "\x7d"]

def keyedTokens (key : String) (value : List Token) : List Token :=
  itemTokens (.name key :: .symbol "=" :: value)

def Scalar.tokens (s : Scalar) : List Token := keyedTokens s.key s.value.tokens

def Content.tokens : Content → List Token
  | .literal value => value.tokens
  | .places values => bracedTokens (fun n => itemTokens [.numeral (toString n)]) values
  | .grid _ values => bracedTokens (fun n => itemTokens (Lua.signedTokens (toString n))) values
  | .numerals values => bracedTokens (fun x => itemTokens (Lua.signedTokens (Lua.numeral x))) values
  | .records values =>
    bracedTokens (fun fields => itemTokens (bracedTokens Scalar.tokens fields)) values

def Field.tokens (f : Field) : List Token := keyedTokens f.key f.content.tokens

def Record.place (table : String) (r : Record) : Lua.Expr :=
  .index (Program.runtimeField table) (.numeral (toString r.id))

def Record.tokens (table : String) (r : Record) : List Token :=
  (r.place table).tokens ++ .symbol "=" :: bracedTokens Field.tokens r.fields

def tableTokens (table : String) (records : List Record) : List Token :=
  (Program.runtimeField table).tokens ++ .symbol "=" :: .symbol "\x7b" :: .symbol "\x7d" ::
    records.flatMap (Record.tokens table)

def Literal.IsFinite : Literal → Prop
  | .numeral value => value.isFinite
  | _ => True

structure Scalar.Fits (s : Scalar) : Prop where
  key_mem : s.key ∈ entityKeys
  isFinite : s.value.IsFinite

def Content.Fits : Content → Prop
  | .literal value => value.IsFinite
  | .places _ | .grid _ _ => True
  | .numerals values => ∀ x ∈ values, x.isFinite
  | .records values => ∀ fields ∈ values, ∀ s ∈ fields, s.Fits

structure Field.Fits (f : Field) : Prop where
  key_mem : f.key ∈ entityKeys
  content : f.content.Fits

def Record.Fits (r : Record) : Prop := ∀ f ∈ r.fields, f.Fits

theorem isName_of_mem_entityKeys {key : String} (h : key ∈ entityKeys) : Lua.isName key := by
  have hall : entityKeys.all Lua.isName := by decide
  exact List.all_eq_true.mp hall key h

theorem field_fits {key : String} {content : Content} (hkey : key ∈ entityKeys) (h : content.Fits)
    : Field.Fits ⟨key, content⟩ :=
  ⟨hkey, h⟩

theorem scalar_fits {key : String} {value : Literal} (hkey : key ∈ entityKeys) (h : value.IsFinite)
    : Scalar.Fits ⟨key, value⟩ :=
  ⟨hkey, h⟩

theorem one_fits {key : String} {value : Literal} (hkey : key ∈ entityKeys) (h : value.IsFinite)
    : ∀ f ∈ one key value, f.Fits := by
  rw [one, List.forall_mem_singleton]
  exact field_fits hkey h

theorem maybe_fits {α : Type} {key : String} {make : α → Literal} {o : Option α}
    (hkey : key ∈ entityKeys) (h : ∀ a ∈ o, (make a).IsFinite)
    : ∀ f ∈ maybe key make o, f.Fits := by
  cases o with
  | none => simp [maybe]
  | some a => exact one_fits hkey (h a rfl)

end Entity

open Entity

theorem Tile.toRecord_fits {t : Tile} (h : t.fps.isFinite) (places : List Nat)
    : (t.toRecord places).Fits := by
  simp only [Record.Fits, toRecord, List.forall_mem_append]
  refine ⟨⟨⟨⟨⟨⟨⟨one_fits (by decide) trivial, one_fits (by decide) h⟩, one_fits (by decide) trivial⟩,
    one_fits (by decide) trivial⟩, one_fits (by decide) trivial⟩, one_fits (by decide) trivial⟩,
    maybe_fits (by decide) fun _ _ => trivial⟩, ?_⟩
  rw [List.forall_mem_singleton]
  exact field_fits (by decide) trivial

theorem Exit.maybe_fits {α : Type} {key : String} {make : α → Literal} {o : Option α}
    (hkey : key ∈ entityKeys) (h : ∀ a, (make a).IsFinite)
    : ∀ s ∈ toScalars.scalar key make o, s.Fits := by
  cases o with
  | none => simp [toScalars.scalar]
  | some a => simpa [toScalars.scalar] using scalar_fits hkey (h a)

theorem Exit.toScalars_fits (e : Exit) : ∀ s ∈ e.toScalars, s.Fits := by
  simp only [toScalars, List.forall_mem_append, List.forall_mem_cons]
  exact ⟨⟨⟨⟨⟨⟨scalar_fits (by decide) trivial, scalar_fits (by decide) trivial, by simp⟩,
    maybe_fits (by decide) fun _ => trivial⟩, maybe_fits (by decide) fun _ => trivial⟩,
    maybe_fits (by decide) fun _ => trivial⟩, maybe_fits (by decide) fun _ => trivial⟩,
    maybe_fits (by decide) fun _ => trivial⟩

theorem Room.toRecord_fits (r : Room) : r.toRecord.Fits := by
  simp only [Record.Fits, toRecord, List.forall_mem_append, List.forall_mem_cons]
  refine ⟨⟨⟨one_fits (by decide) trivial, one_fits (by decide) trivial⟩,
    one_fits (by decide) trivial⟩, field_fits (by decide) trivial, field_fits (by decide) ?_, by simp⟩
  simp only [Content.Fits, List.forall_mem_map]
  exact fun e _ => e.toScalars_fits

theorem Envelope.fields_fits {e : Envelope} (h : e.IsFinite) : ∀ f ∈ e.fields, f.Fits := by
  simp only [IsFinite, List.forall_mem_cons] at h
  obtain ⟨hattack, hdecay, hsustain, hrelease, hvolume, -⟩ := h
  simp only [fields, List.forall_mem_append]
  exact ⟨⟨⟨⟨maybe_fits (by decide) hdecay, maybe_fits (by decide) hattack⟩,
    maybe_fits (by decide) hrelease⟩, maybe_fits (by decide) hvolume⟩,
    maybe_fits (by decide) hsustain⟩

theorem Sound.toRecord_fits {s : Sound} (h : s.IsFinite) : s.toRecord.Fits := by
  simp only [Record.Fits, toRecord, List.forall_mem_append]
  refine ⟨⟨⟨⟨⟨one_fits (by decide) h.bpm, one_fits (by decide) trivial⟩, one_fits (by decide) trivial⟩,
    ?_⟩, maybe_fits (by decide) fun _ _ => trivial⟩, ?_⟩
  . split
    . next notes hnotes =>
      rw [List.forall_mem_singleton]
      exact field_fits (by decide) (h.notes notes hnotes)
    . simp
  . split
    . next e he => exact Envelope.fields_fits (h.envelope e he)
    . simp

namespace Entity

theorem Literal.spells {l : Literal} (h : l.IsFinite) : Spells outsideNumeral l.text l.tokens := by
  cases l with
  | integer n => exact Lua.spells_signed (Lua.isSigned_int n)
  | numeral x => exact Lua.spells_signed (Lua.isSigned_layout _ h)
  | boolean b =>
    cases b
    . exact (Lua.spells_open [] "false" rfl rfl).ofName
    . exact (Lua.spells_open [] "true" rfl rfl).ofName
  | quoted s => exact (Lua.spells_quote s).weaken
  | passage s => exact (Lua.spells_longBracket s).weaken

theorem spells_keyed {key text : String} {ts : List Token} (indent : Nat) (hkey : Lua.isName key)
    (h : Spells outsideNumeral text ts)
    : Spells anyChar (String.ofList (List.replicate indent ' ') ++ key ++ " = " ++ text ++ ",\n")
      (keyedTokens key ts) := by
  have hfront := (Lua.spells_blanks indent).append_anyChar (Lua.spells_name hkey)
  have := ((hfront.append Lua.spells_equals rfl).append_anyChar h).append Lua.spells_commaBreak rfl
  simpa [keyedTokens, itemTokens] using this

theorem spells_braced {α : Type} {opening closing : String} {text : α → String}
    {ts : α → List Token} {items : List α} (hopening : Spells anyChar opening [.symbol "\x7b"])
    (hclosing : Spells anyChar closing [.symbol "\x7d"])
    (h : ∀ a ∈ items, Spells anyChar (text a) (ts a))
    : Spells anyChar (opening ++ String.join (items.map text) ++ closing) (bracedTokens ts items) :=
  (hopening.append_anyChar (Spells.join_map h)).append_anyChar hclosing

theorem spells_item {text : String} {ts : List Token} (h : Spells outsideNumeral text ts)
    {closing : String} (hclosing : Spells anyChar closing [.symbol ","])
    (hstart : closing.toList.head?.any outsideNumeral)
    : Spells anyChar (text ++ closing) (itemTokens ts) :=
  h.append hclosing hstart

theorem spells_openBrace : Spells anyChar "\x7b" [.symbol "\x7b"] :=
  Lua.spells_closed [] (.symbol "\x7b") rfl rfl fun _ => rfl

theorem spells_openLine : Spells anyChar "\x7b\n" [.symbol "\x7b"] :=
  Lua.spells_closed [.symbol "\x7b"] (.space '\n') rfl rfl fun _ => rfl

theorem spells_closeBrace : Spells anyChar "\x7d" [.symbol "\x7d"] :=
  Lua.spells_closed [] (.symbol "\x7d") rfl rfl fun _ => rfl

theorem spells_closeBlank : Spells anyChar " \x7d" [.symbol "\x7d"] :=
  Lua.spells_closed [.space ' '] (.symbol "\x7d") rfl rfl fun _ => rfl

theorem spells_openRecord : Spells anyChar "    \x7b\n" [.symbol "\x7b"] :=
  Lua.spells_closed [.space ' ', .space ' ', .space ' ', .space ' ', .symbol "\x7b"] (.space '\n')
    rfl rfl fun _ => rfl

theorem spells_closeRecord : Spells anyChar "    \x7d" [.symbol "\x7d"] :=
  Lua.spells_closed [.space ' ', .space ' ', .space ' ', .space ' '] (.symbol "\x7d") rfl rfl
    fun _ => rfl

theorem spells_closeRecords : Spells anyChar "  \x7d" [.symbol "\x7d"] :=
  Lua.spells_closed [.space ' ', .space ' '] (.symbol "\x7d") rfl rfl fun _ => rfl

theorem spells_comma : Spells anyChar "," [.symbol ","] :=
  Lua.spells_closed [] (.symbol ",") rfl rfl fun _ => rfl

theorem Scalar.spells {s : Scalar} (h : s.Fits) (indent : Nat)
    : Spells anyChar (s.line indent) s.tokens :=
  spells_keyed indent (isName_of_mem_entityKeys h.key_mem) (Literal.spells h.isFinite)

theorem spells_cellBreak (width place : Nat)
    : Spells anyChar (if place % width = 0 then "\n    " else "") [] := by
  split
  . exact Lua.spells_closed [.space '\n', .space ' ', .space ' ', .space ' '] (.space ' ') rfl rfl
      fun _ => rfl
  . exact Spells.empty

theorem spells_cell (width place : Nat) (n : Int)
    : Spells anyChar (cellText width place n) (itemTokens (Lua.signedTokens (toString n))) := by
  have hnumber := (Lua.spells_blanks (4 - (toString n).length)).append_anyChar
    (Lua.spells_signed (Lua.isSigned_int n))
  have := spells_item ((spells_cellBreak width place).append_anyChar hnumber) spells_comma rfl
  simpa [cellText, padded] using this

theorem bracedTokens_zipIdx {α : Type} (item : α → List Token) (items : List α)
    : bracedTokens (fun p : α × Nat => item p.1) items.zipIdx = bracedTokens item items := by
  have hitems : items.zipIdx.flatMap (fun p => item p.1) = items.flatMap item := by
    rw [← List.flatMap_map Prod.fst item, List.zipIdx_map_fst]
  rw [bracedTokens, bracedTokens, hitems]

theorem spells_record {fields : List Scalar} (h : ∀ s ∈ fields, s.Fits)
    : Spells anyChar (recordText fields) (itemTokens (bracedTokens Scalar.tokens fields)) := by
  have hfields := spells_braced spells_openRecord spells_closeRecord
    fun s hs => Scalar.spells (h s hs) 6
  have := hfields.append_anyChar Lua.spells_commaBreak
  simpa [recordText, itemTokens, String.append_assoc] using this

theorem Content.spells {c : Content} (h : c.Fits) : Spells outsideNumeral c.text c.tokens := by
  cases c with
  | literal l => exact Literal.spells h
  | places values =>
    have hitem (n : Nat) : Spells anyChar s!" {n}," (itemTokens [.numeral (toString n)]) :=
      spells_item (Lua.spells_blank.append_anyChar (Lua.spells_numeral (Lua.isDecimal_nat n)))
        spells_comma rfl
    exact (spells_braced spells_openBrace spells_closeBlank fun n _ => hitem n).weaken
  | grid width values =>
    have hcells := spells_braced spells_openBrace spells_closeBlank
      fun (p : Int × Nat) (_ : p ∈ values.zipIdx) => spells_cell width p.2 p.1
    rw [bracedTokens_zipIdx fun n => itemTokens (Lua.signedTokens (toString n))] at hcells
    exact hcells.weaken
  | numerals values =>
    refine (spells_braced spells_openBrace spells_closeBrace fun x hx => ?_).weaken
    exact spells_item (Lua.spells_signed (Lua.isSigned_layout _ (h x hx))) Lua.spells_comma rfl
  | records values =>
    have hrecords := spells_braced spells_openLine spells_closeRecords
      fun fields hf => spells_record (h fields hf)
    exact hrecords.weaken

theorem Field.spells {f : Field} (h : f.Fits) (indent : Nat)
    : Spells anyChar (f.text indent) f.tokens :=
  spells_keyed indent (isName_of_mem_entityKeys h.key_mem) (Content.spells h.content)

theorem runtimeField_text {table : String} (htable : Lua.isName table)
    : (Program.runtimeField table).text = "__pulp." ++ table := by
  simp [Program.runtimeField, Program.runtime, Lua.Expr.text, Lua.Expr.fieldText, htable]

theorem Record.spells {r : Record} {table : String} (htable : Lua.isName table) (h : r.Fits)
    (indent : Nat) : Spells anyChar (r.text table indent) (r.tokens table) := by
  have hplace : (r.place table).Fits :=
    .index rfl (Program.runtimeField_fits table) (.numeral (Lua.isSigned_int r.id))
  have hopening : Spells anyChar " = \x7b\n" [.symbol "=", .symbol "\x7b"] :=
    Lua.spells_closed [.space ' ', .symbol "=", .space ' ', .symbol "\x7b"] (.space '\n') rfl rfl
      fun _ => rfl
  have hclosing : Spells anyChar "\x7d\n" [.symbol "\x7d"] :=
    Lua.spells_closed [.symbol "\x7d"] (.space '\n') rfl rfl fun _ => rfl
  have hfields := Spells.join_map fun f hf => Field.spells (h f hf) indent
  have hall := ((hplace.spells.ofNext.append hopening rfl).append_anyChar hfields).append_anyChar
    hclosing
  have htext : r.text table indent = "__pulp." ++ table ++ "[" ++ toString r.id ++ "]" ++
      " = \x7b\n" ++ String.join (r.fields.map (Field.text indent)) ++ "\x7d\n" := by
    simp only [text, String.append_assoc]
    rfl
  rw [htext, ← runtimeField_text htable]
  simpa [tokens, place, bracedTokens, Lua.Expr.text] using hall

theorem spells_table {table : String} (htable : Lua.isName table) {records : List Record}
    (h : ∀ r ∈ records, r.Fits) (indent : Nat)
    : Spells anyChar (tableText table indent records) (tableTokens table records) := by
  have hempty : Spells anyChar " = \x7b\x7d\n" [.symbol "=", .symbol "\x7b", .symbol "\x7d"] :=
    Lua.spells_closed [.space ' ', .symbol "=", .space ' ', .symbol "\x7b", .symbol "\x7d"]
      (.space '\n') rfl rfl fun _ => rfl
  have hrecords := Spells.join_map fun r hr => Record.spells htable (h r hr) indent
  have hfield := (Program.runtimeField_fits table).spells.ofNext
  have hall := ((Lua.spells_break.append_anyChar hfield).append hempty rfl).append_anyChar hrecords
  have htext : tableText table indent records = "\n" ++ ("__pulp." ++ table) ++ " = \x7b\x7d\n" ++
      String.join (records.map (Record.text table indent)) := by
    simp only [tableText, String.append_assoc]
    rfl
  rw [htext, ← runtimeField_text htable]
  simpa [tableTokens] using hall

variable {taken : String → Prop}

theorem Literal.plain (l : Literal) : Plain taken l.tokens := by
  cases l with
  | integer | numeral => exact Program.plain_signed _
  | boolean b => cases b <;> exact plain_of_all (by decide)
  | quoted | passage => simp [tokens]

theorem plain_item {ts : List Token} (h : Plain taken ts) : Plain taken (itemTokens ts) := by
  rw [itemTokens, plain_append]
  exact ⟨h, plain_of_all (by decide)⟩

theorem plain_braced {α : Type} {item : α → List Token} {items : List α}
    (h : ∀ a ∈ items, Plain taken (item a)) : Plain taken (bracedTokens item items) := by
  rw [bracedTokens, List.cons_append, plain_cons, plain_append, Program.plain_flatMap]
  exact ⟨Program.allowed_of_isFixed rfl, h, plain_of_all (by decide)⟩

theorem plain_keyed {key : String} (hkey : key ∈ entityKeys) {ts : List Token} (h : Plain taken ts)
    : Plain taken (keyedTokens key ts) := by
  have hname : key ∈ Program.names :=
    List.mem_append_left _ (List.mem_append_right _ hkey)
  apply plain_item
  rw [plain_cons, plain_cons]
  exact ⟨.inl hname, Program.allowed_of_isFixed rfl, h⟩

theorem Content.plain {c : Content} (h : c.Fits) : Plain taken c.tokens := by
  cases c with
  | literal l => exact l.plain
  | places values => exact plain_braced fun n _ => plain_item (by simp)
  | grid width values => exact plain_braced fun n _ => plain_item (Program.plain_signed _)
  | numerals values => exact plain_braced fun x _ => plain_item (Program.plain_signed _)
  | records values =>
    apply plain_braced
    intro fields hfields
    apply plain_item
    apply plain_braced
    exact fun s hs => plain_keyed (h fields hfields s hs).key_mem s.value.plain

theorem Record.plain {r : Record} (h : r.Fits) {table : String} (htable : table ∈ Program.names)
    : Plain taken (r.tokens table) := by
  have hfixed : Plain taken [.symbol "[", .symbol "]", .symbol "="] := plain_of_all (by decide)
  simp only [plain_cons] at hfixed
  have hfields : Plain taken (bracedTokens Field.tokens r.fields) :=
    plain_braced fun f hf => plain_keyed (h f hf).key_mem (Content.plain (h f hf).content)
  simp [tokens, place, Lua.Expr.tokens, hfixed, hfields, Program.plain_runtimeField htable,
    Program.plain_signed]

theorem plain_table {table : String} (htable : table ∈ Program.names) {records : List Record}
    (h : ∀ r ∈ records, r.Fits) : Plain taken (tableTokens table records) := by
  have hfixed : Plain taken [.symbol "=", .symbol "\x7b", .symbol "\x7d"] := plain_of_all (by decide)
  simp only [plain_cons] at hfixed
  have hrecords : Plain taken (records.flatMap (Record.tokens table)) :=
    Program.plain_flatMap.mpr fun r hr => Record.plain (h r hr) htable
  simp [tableTokens, hfixed, hrecords, Program.plain_runtimeField htable]

end Entity

end PulpGame
