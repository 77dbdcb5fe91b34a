import PulpGame.Proofs.Build
import PulpGame.Proofs.Entity.Spelling
import PulpGame.Proofs.Lua.Composition

namespace PulpGame

open Lua (Term Statement Expresses Lists States anyChar Spells)
open Program (entityKeys)

namespace Entity

def numberTerm (x : Binary64) : Term :=
  match x.value with
  | .nan => .name "NaN"
  | .infinity false => .name "inf"
  | .infinity true => .unary "-" (.name "inf")
  | .finite _ _ _ => Lua.numeralTerm (Lua.numeral x)

def Literal.term : Literal → Term
  | .integer value => Lua.numeralTerm (toString value)
  | .numeral value => numberTerm value
  | .boolean value => .boolean value
  | .quoted value => .string value
  | .passage value => .string (String.ofList (Lua.Bracket.value (Lua.bracketContent value.toList)))

def item (t : Term) : Option Term × Term := (none, t)

def Scalar.entry (s : Scalar) : Option Term × Term := (some (.string s.key), s.value.term)

def Content.term : Content → Term
  | .literal value => value.term
  | .places values => .table (values.map fun n => item (Lua.numeralTerm (toString n)))
  | .grid _ values => .table (values.map fun n => item (Lua.numeralTerm (toString n)))
  | .numerals values => .table (values.map fun x => item (numberTerm x))
  | .records values => .table (values.map fun fields => item (.table (fields.map Scalar.entry)))

def Field.entry (f : Field) : Option Term × Term := (some (.string f.key), f.content.term)

def Record.term (r : Record) : Term := .table (r.fields.map Field.entry)

def Record.statement (table : String) (r : Record) : Statement :=
  .assign [(r.place table).term] [r.term]

def tableStatements (table : String) (records : List Record) : List Statement :=
  .assign [(Program.runtimeField table).term] [.table []] :: records.map (Record.statement table)

def Content.IsNamed : Content → Prop
  | .records values => ∀ fields ∈ values, ∀ s ∈ fields, s.key ∈ entityKeys
  | _ => True

structure Field.IsNamed (f : Field) : Prop where
  key_mem : f.key ∈ entityKeys
  content : f.content.IsNamed

def Record.IsNamed (r : Record) : Prop := ∀ f ∈ r.fields, f.IsNamed

theorem isFinite_of_value {x : Binary64} {negative : Bool} {m : Nat} {q : Int}
    (h : x.value = .finite negative m q) : x.isFinite := by
  by_contra hinfinite
  have hmagnitude : x.magnitude < 2 ^ 63 := Nat.mod_lt _ (by decide)
  have hbiased : x.magnitude / Nat.pow 2 52 = 0x7FF := by
    have hle : Binary64.infinityBits ≤ x.magnitude := by
      simpa [Binary64.isFinite] using hinfinite
    simp only [Binary64.infinityBits, Nat.pow_eq] at hle ⊢
    omega
  unfold Binary64.value at h
  rw [if_pos hbiased] at h
  split at h <;> cases h

theorem expresses_signed {digits : String} (h : Lua.IsSigned digits.toList)
    : Expresses digits (Lua.numeralTerm digits) :=
  ⟨_, Lua.spells_signed h, Lua.denotes_signed digits⟩

theorem expresses_int (n : Int) : Expresses (toString n) (Lua.numeralTerm (toString n)) :=
  expresses_signed (Lua.isSigned_int n)

theorem expresses_number (x : Binary64) : Expresses (Lua.numeral x) (numberTerm x) := by
  unfold numberTerm
  split
  . next h =>
    have htext : Lua.numeral x = "NaN" := by
      unfold Lua.numeral Layout.text
      rw [h]
    rw [htext]
    exact ⟨_, (Lua.spells_open [] "NaN" rfl rfl).ofName, Lua.denotes_name "NaN"⟩
  . next h =>
    have htext : Lua.numeral x = "inf" := by
      unfold Lua.numeral Layout.text
      rw [h]
      rfl
    rw [htext]
    exact ⟨_, (Lua.spells_open [] "inf" rfl rfl).ofName, Lua.denotes_name "inf"⟩
  . next h =>
    have htext : Lua.numeral x = "-inf" := by
      unfold Lua.numeral Layout.text
      rw [h]
      rfl
    rw [htext]
    exact ⟨_, (Lua.spells_open [.symbol "-"] "inf" rfl rfl).ofName, Lua.denotes_minus⟩
  . next h =>
    exact expresses_signed (Lua.isSigned_layout _ (isFinite_of_value h))

theorem Literal.expresses (l : Literal) : Expresses l.text l.term := by
  cases l with
  | integer n => exact expresses_int n
  | numeral x => exact expresses_number x
  | boolean b =>
    cases b
    . exact ⟨_, (Lua.spells_open [] "false" rfl rfl).ofName, Lua.denotes_boolean false⟩
    . exact ⟨_, (Lua.spells_open [] "true" rfl rfl).ofName, Lua.denotes_boolean true⟩
  | quoted s => exact ⟨_, (Lua.spells_quote s).weaken, Lua.denotes_string s⟩
  | passage s => exact ⟨_, (Lua.spells_longBracket s).weaken, Lua.denotes_string _⟩

theorem lists_cell (width place : Nat) (n : Int)
    : Lists (cellText width place n) [item (Lua.numeralTerm (toString n))] := by
  have hbreak : Lists (if place % width = 0 then "\n    " else "") [] :=
    Lists.ofNothing (spells_cellBreak width place)
  have hblanks : Lists (String.ofList (List.replicate (4 - (toString n).length) ' ')) [] :=
    Lists.ofNothing (Lua.spells_blanks _)
  have := (hbreak.append hblanks).append (Lists.item (expresses_int n) spells_comma rfl)
  simpa [cellText, padded, String.append_assoc, item] using this

theorem lists_record {fields : List Scalar} (h : ∀ s ∈ fields, s.key ∈ entityKeys)
    : Lists (recordText fields) [item (.table (fields.map Scalar.entry))] := by
  have hfields : Lists (String.join (fields.map (Scalar.line 6))) (fields.map Scalar.entry) := by
    apply Lists.join_map
    intro s hs
    exact Lists.keyed 6 (isName_of_mem_entityKeys (h s hs)) s.value.expresses
  have := Lists.item (hfields.table spells_openRecord spells_closeRecord) Lua.spells_commaBreak rfl
  simpa [recordText, item, String.append_assoc] using this

theorem Content.expresses {c : Content} (h : c.IsNamed) : Expresses c.text c.term := by
  cases c with
  | literal l => exact l.expresses
  | places values =>
    have hitems : Lists (String.join (values.map fun n => s!" {n},"))
        (values.map fun n => item (Lua.numeralTerm (toString n))) := by
      apply Lists.join_map
      intro n _
      have hblank : Lists " " [] := Lists.ofNothing Lua.spells_blank
      have hnumber := expresses_signed (.plain (Lua.isDecimal_nat n))
      have hitem := hblank.append (Lists.item hnumber spells_comma rfl)
      rw [← String.append_assoc] at hitem
      exact hitem
    exact hitems.table spells_openBrace spells_closeBlank
  | grid width values =>
    have hcells : Lists (gridText width values)
        (values.zipIdx.map fun p => item (Lua.numeralTerm (toString p.1))) := by
      apply Lists.join_map
      intro p _
      exact lists_cell width p.2 p.1
    have hterms : values.zipIdx.map (fun p => item (Lua.numeralTerm (toString p.1))) =
        (values.zipIdx.map Prod.fst).map fun n => item (Lua.numeralTerm (toString n)) := by
      rw [List.map_map]
      rfl
    rw [hterms, List.zipIdx_map_fst] at hcells
    exact hcells.table spells_openBrace spells_closeBlank
  | numerals values =>
    have hitems : Lists (String.join (values.map fun x => Lua.numeral x ++ ", "))
        (values.map fun x => item (numberTerm x)) := by
      apply Lists.join_map
      intro x _
      exact Lists.item (expresses_number x) Lua.spells_comma rfl
    exact hitems.table spells_openBrace spells_closeBrace
  | records values =>
    have hrecords : Lists (String.join (values.map recordText))
        (values.map fun fields => item (.table (fields.map Scalar.entry))) := by
      apply Lists.join_map
      intro fields hfields
      exact lists_record (h fields hfields)
    exact hrecords.table spells_openLine spells_closeRecords

theorem Record.states {r : Record} {table : String} (htable : Lua.isName table) (h : r.IsNamed)
    (indent : Nat) : States (r.text table indent) [r.statement table] := by
  have hplace : (r.place table).Fits :=
    .index rfl (Program.runtimeField_fits table) (.numeral (Lua.isSigned_int r.id))
  have hfields : Lists (String.join (r.fields.map (Field.text indent)))
      (r.fields.map Field.entry) := by
    apply Lists.join_map
    intro f hf
    have hnamed := h f hf
    exact Lists.keyed indent (isName_of_mem_entityKeys hnamed.key_mem)
      (Content.expresses hnamed.content)
  have hassign := States.assign rfl hplace Lua.spells_equals rfl
    (hfields.table spells_openLine spells_closeBrace) Lua.spells_break rfl
  have htext : r.text table indent = (r.place table).text ++ " = " ++
      ("\x7b\n" ++ String.join (r.fields.map (Field.text indent)) ++ "\x7d") ++ "\n" := by
    rw [place, Lua.Expr.text, runtimeField_text htable, Lua.Expr.text]
    simp only [text, String.append_assoc]
    rfl
  rw [htext]
  exact hassign

theorem states_table {table : String} (htable : Lua.isName table) {records : List Record}
    (h : ∀ r ∈ records, r.IsNamed) (indent : Nat)
    : States (tableText table indent records) (tableStatements table records) := by
  have hnothing : Lists "" [] := Lists.ofNothing Spells.empty
  have hempty := States.assign rfl (Program.runtimeField_fits table) Lua.spells_equals rfl
    (hnothing.table spells_openBrace spells_closeBrace) Lua.spells_break rfl
  have hrecords : States (String.join (records.map (Record.text table indent)))
      (records.flatMap fun r => [r.statement table]) := by
    apply States.join_map
    intro r hr
    exact Record.states htable (h r hr) indent
  have htext : tableText table indent records = "\n" ++ ((Program.runtimeField table).text ++ " = " ++
      ("\x7b" ++ "" ++ "\x7d") ++ "\n") ++ String.join (records.map (Record.text table indent)) := by
    rw [runtimeField_text htable]
    simp only [tableText, String.append_assoc]
    rfl
  have hall := ((States.ofNothing Lua.spells_break).append hempty).append hrecords
  rw [← htext, ← List.map_eq_flatMap] at hall
  exact hall

theorem field_isNamed {key : String} {content : Content} (hkey : key ∈ entityKeys)
    (h : content.IsNamed) : Field.IsNamed ⟨key, content⟩ :=
  ⟨hkey, h⟩

theorem one_isNamed {key : String} {value : Literal} (hkey : key ∈ entityKeys)
    : ∀ f ∈ one key value, f.IsNamed := by
  rw [one, List.forall_mem_singleton]
  exact field_isNamed hkey trivial

theorem maybe_isNamed {α : Type} {key : String} {make : α → Literal} {o : Option α}
    (hkey : key ∈ entityKeys) : ∀ f ∈ maybe key make o, f.IsNamed := by
  cases o with
  | none => simp [maybe]
  | some a => exact one_isNamed hkey

end Entity

open Entity

theorem Tile.toRecord_isNamed (t : Tile) (places : List Nat) : (t.toRecord places).IsNamed := by
  simp only [Record.IsNamed, toRecord, List.forall_mem_append]
  refine ⟨⟨⟨⟨⟨⟨⟨one_isNamed (by decide), one_isNamed (by decide)⟩, one_isNamed (by decide)⟩,
    one_isNamed (by decide)⟩, one_isNamed (by decide)⟩, one_isNamed (by decide)⟩,
    maybe_isNamed (by decide)⟩, ?_⟩
  rw [List.forall_mem_singleton]
  exact field_isNamed (by decide) trivial

theorem Exit.maybe_key {α : Type} {key : String} {make : α → Literal} {o : Option α}
    (hkey : key ∈ entityKeys) : ∀ s ∈ toScalars.scalar key make o, s.key ∈ entityKeys := by
  cases o with
  | none => simp [toScalars.scalar]
  | some a => simpa [toScalars.scalar] using hkey

theorem Exit.toScalars_keys (e : Exit) : ∀ s ∈ e.toScalars, s.key ∈ entityKeys := by
  simp only [toScalars, List.forall_mem_append, List.forall_mem_cons]
  exact ⟨⟨⟨⟨⟨⟨by decide, by decide, by simp⟩, maybe_key (by decide)⟩, maybe_key (by decide)⟩,
    maybe_key (by decide)⟩, maybe_key (by decide)⟩, maybe_key (by decide)⟩

theorem Room.toRecord_isNamed (r : Room) : r.toRecord.IsNamed := by
  simp only [Record.IsNamed, toRecord, List.forall_mem_append, List.forall_mem_cons]
  refine ⟨⟨⟨one_isNamed (by decide), one_isNamed (by decide)⟩, one_isNamed (by decide)⟩,
    field_isNamed (by decide) trivial, field_isNamed (by decide) ?_, by simp⟩
  simp only [Content.IsNamed, List.forall_mem_map]
  exact fun e _ => e.toScalars_keys

theorem Sound.toRecord_isNamed (s : Sound) : s.toRecord.IsNamed := by
  simp only [Record.IsNamed, toRecord, List.forall_mem_append]
  refine ⟨⟨⟨⟨⟨one_isNamed (by decide), one_isNamed (by decide)⟩, one_isNamed (by decide)⟩, ?_⟩,
    maybe_isNamed (by decide)⟩, ?_⟩
  . split
    . rw [List.forall_mem_singleton]
      exact field_isNamed (by decide) trivial
    . simp
  . split
    . simp only [Envelope.fields, List.forall_mem_append]
      exact ⟨⟨⟨⟨maybe_isNamed (by decide), maybe_isNamed (by decide)⟩, maybe_isNamed (by decide)⟩,
        maybe_isNamed (by decide)⟩, maybe_isNamed (by decide)⟩
    . simp

end PulpGame
