import PulpGame.Proofs.Script.Mention
import PulpGame.Proofs.Text.Lines
import PulpGame.Proofs.Variable.Trace

namespace PulpGame

namespace Variable

open Lua (Stat)

theorem nodup_ranked {usage : List (String × Nat)} (h : (usage.map (·.1)).Nodup)
    : (ranked usage).Nodup :=
  ((List.mergeSort_perm usage before).map _).nodup_iff.mpr h

theorem Storage.nodup_of_allot {usage : List (String × Nat)} {capacity : Nat} {s : Storage}
    (h : allot usage capacity = .ok s) (hnodup : (usage.map (·.1)).Nodup) : s.all.Nodup := by
  obtain ⟨hfast, hdynamic⟩ := allot_eq h
  rw [all, List.nodup_append']
  refine ⟨?_, ?_, ?_⟩
  . rw [hfast]
    exact ((nodup_ranked hnodup).filter _).sublist (List.take_sublist _ _)
  . rw [hdynamic]
    exact (nodup_ranked hnodup).filter _
  . intro n hn hn'
    rw [hdynamic, List.mem_filter] at hn'
    simp [hn] at hn'

namespace Storage

variable {s : Storage}

def declaringLine (s : Storage) (v : String) : String :=
  if s.isFast v then "local " ++ v ++ " = 0" else (place v).text ++ " = 0"

def zeroingLine (v : String) : String := "  " ++ (place v).text ++ " = 0"

def declaration (s : Storage) (v : String) : Stat :=
  if s.isFast v then .action (.declare v (.numeral "0")) else reset v

theorem declare_eq (hnodup : s.all.Nodup) : s.declare = s.all.map s.declaration := by
  rw [declare, all, List.map_append]
  congr 1
  . apply List.map_congr_left
    intro n hn
    simp [declaration, isFast, hn]
  . apply List.map_congr_left
    intro n hn
    have hslow : n ∉ s.fast := fun hn' => (List.nodup_append'.mp hnodup).2.2 hn' hn
    simp [declaration, isFast, hslow]

theorem text_declaration (s : Storage) (v : String)
    : (s.declaration v).text 0 = s.declaringLine v ++ "\n" := by
  unfold declaration declaringLine
  split
  . simp [Stat.text, Stat.line, Lua.Action.text, Lua.Expr.text, String.append_assoc]
  . simp [reset, Stat.text, Stat.line, Lua.Action.text, Lua.Expr.text, String.append_assoc]

theorem text_reset (v : String) : (reset v).text 1 = zeroingLine v ++ "\n" := by
  have hindent : String.ofList (List.replicate (2 * 1) ' ') = "  " := rfl
  rw [reset, Stat.text, Stat.line, Lua.Action.text, hindent]
  simp [zeroingLine, Lua.Expr.text, String.append_assoc]

theorem declare_text (hnodup : s.all.Nodup)
    : Lua.chunkText s.declare = String.join ((s.all.map s.declaringLine).map (· ++ "\n")) := by
  rw [declare_eq hnodup, Lua.chunkText, Stat.texts_eq, List.map_map, List.map_map]
  congr 1
  apply List.map_congr_left
  intro v _
  exact s.text_declaration v

theorem text_resetting (s : Storage)
    : (Stat.define (Program.runtimeField "resetvars") [] (s.all.map reset)).text 0 =
        "function __pulp.resetvars()\n" ++
          String.join ((s.all.map zeroingLine).map (· ++ "\n")) ++ "end\n" := by
  have hresets : Stat.texts 1 (s.all.map reset) = (s.all.map zeroingLine).map (· ++ "\n") := by
    rw [Stat.texts_eq, List.map_map, List.map_map]
    apply List.map_congr_left
    intro v _
    exact text_reset v
  rw [Stat.text, hresets]
  rfl

theorem access_text (s : Storage)
    : Lua.chunkText s.access = Lua.chunkText s.access.dropLast ++
        ("function __pulp.resetvars()\n" ++
          String.join ((s.all.map zeroingLine).map (· ++ "\n")) ++ "end\n") := by
  rw [← text_resetting]
  simp [access, Lua.chunkText, Stat.texts, String.append_assoc]

theorem no_lineFeed_name {n : String} (h : Lua.isName n) : '\n' ∉ n.toList := by
  simp only [Lua.isName, Bool.and_eq_true] at h
  cases hchars : n.toList with
  | nil => simp
  | cons c cs =>
    simp only [hchars, Lua.isWord, Bool.and_eq_true, List.all_eq_true] at h
    intro hmem
    rcases List.mem_cons.mp hmem with rfl | hmem
    . exact absurd h.1.1 (by decide)
    . exact absurd (h.1.2 _ hmem) (by decide)

theorem no_lineFeed_place (v : String) : '\n' ∉ (place v).text.toList := by
  unfold place
  split
  . next h => exact no_lineFeed_name (isName_of_isBare h)
  . have hquote := List.all_eq_true.mp (Block.quote_no_lineEnd (namespaced v)) '\n'
    have hfeed : '\n' ∉ (Lua.quote (namespaced v)).toList := fun hmem =>
      absurd (hquote hmem) (by decide)
    simpa [Lua.Expr.text] using hfeed

theorem isLine_assigning {target : String} (h : '\n' ∉ target.toList)
    : Text.IsLine (target ++ " = 0") := by
  constructor
  . simpa using h
  . rw [String.toList_append, List.getLast?_append]
    simp

theorem isLine_declaring (hbare : ∀ n ∈ s.fast, isBare n) (v : String)
    : Text.IsLine (s.declaringLine v) := by
  unfold declaringLine
  split
  . next hfast =>
    have hname := isName_of_isBare (hbare v (by simpa [isFast] using hfast))
    exact isLine_assigning (by simpa using no_lineFeed_name hname)
  . exact isLine_assigning (no_lineFeed_place v)

theorem isLine_zeroing (v : String) : Text.IsLine (zeroingLine v) :=
  isLine_assigning (by simpa using no_lineFeed_place v)

theorem eq_of_place_tokens {v w : String} {ts : List Lua.Token}
    (h : (place v).tokens ++ ts = (place w).tokens ++ ts) : v = w := by
  have htokens := List.append_cancel_right h
  unfold place at htokens
  split at htokens <;> split at htokens <;> simp [Lua.Expr.tokens] at htokens
  . exact htokens
  . exact namespaced_injective htokens

theorem declare_tokens_ne (v w : String)
    : (Stat.action (.declare v (.numeral "0"))).tokens ≠ (reset w).tokens := by
  unfold reset place
  split <;> simp [Stat.tokens, Lua.Action.tokens, Lua.Expr.tokens]

theorem declaringLine_injective (hbare : ∀ n ∈ s.fast, isBare n)
    : Function.Injective s.declaringLine := by
  intro v w h
  have hfits (u : String) : (s.declaration u).Fits := by
    unfold declaration
    split
    . next hu =>
      have hmem : u ∈ s.fast := by simpa [isFast] using hu
      exact .action (.declare (isName_of_isBare (hbare u hmem)) numeral_zero_fits)
    . exact reset_fits u
  -- Equal lines have equal tokens, and these tell the place of the variable.
  have htokens (u : String)
      : Lua.tokens? (s.declaringLine u ++ "\n").toList = some (s.declaration u).tokens := by
    rw [← text_declaration]
    exact ((hfits u).spells 0).tokens?_eq
  have heq : (s.declaration v).tokens = (s.declaration w).tokens := by
    apply Option.some.inj
    rw [← htokens, h, htokens]
  unfold declaration at heq
  split at heq <;> split at heq
  . simpa [Stat.tokens, Lua.Action.tokens] using heq
  . exact absurd heq (declare_tokens_ne v w)
  . exact absurd heq.symm (declare_tokens_ne w v)
  . exact eq_of_place_tokens heq

theorem zeroingLine_injective : Function.Injective zeroingLine := by
  intro v w h
  have htokens (u : String)
      : Lua.tokens? (zeroingLine u ++ "\n").toList = some (reset u).tokens := by
    rw [← text_reset]
    exact ((reset_fits u).spells 1).tokens?_eq
  have heq : (reset v).tokens = (reset w).tokens := by
    apply Option.some.inj
    rw [← htokens, h, htokens]
  exact eq_of_place_tokens heq

end Storage

end Variable

/-- There is one line for each variable that the document mentions, and no other line; no two
variables have the same one. -/
structure Document.Covers (doc : Document) (line : String → String) (lines : List String) : Prop where
  once : ∀ v, doc.Mentions Block.statementVariables v → lines.count (line v) = 1
  only : ∀ l ∈ lines, ∃ v, doc.Mentions Block.statementVariables v ∧ l = line v
  apart : Function.Injective line

theorem Document.covers_map {doc : Document} {line : String → String} {names : List String}
    (hinjective : Function.Injective line) (hnodup : names.Nodup)
    (hnames : ∀ v, v ∈ names ↔ doc.Mentions Block.statementVariables v)
    : doc.Covers line (names.map line) := by
  constructor
  . intro v hv
    apply List.count_eq_one_of_mem (hnodup.map hinjective)
    exact List.mem_map_of_mem ((hnames v).mpr hv)
  . intro l hl
    obtain ⟨v, hv, rfl⟩ := List.mem_map.mp hl
    exact ⟨v, (hnames v).mp hv, rfl⟩
  . exact hinjective

namespace Makings.Make

variable {doc : Document} {m : Makings doc} {settings : Settings} {product : Product}

theorem mem_all (h : m.Make settings product) (v : String)
    : v ∈ product.storage.all ↔ doc.Mentions Block.statementVariables v := by
  rw [Variable.Storage.mem_all_of_allot h.allot_eq, Ledger.usage_names, mem_sortedOnce, h.mem_uses]

theorem nodup_all (h : m.Make settings product) : product.storage.all.Nodup := by
  apply Variable.Storage.nodup_of_allot h.allot_eq
  rw [Ledger.usage_names]
  exact nodup_sortedOnce _

theorem isBare_fast (h : m.Make settings product) : ∀ n ∈ product.storage.fast, Variable.isBare n :=
  Variable.Storage.isBare_of_allot h.allot_eq

end Makings.Make

open Variable (Storage)

/-- The variables of a document are those that its handlers mention. Each is in one place, and has
one line that declares it and one line that resets it, on which it is written as in the handlers. -/
theorem storage_covers {doc : Document} {settings : Settings} {product : Product}
    {journal journal' : List Journal.Entry}
    (h : doc.build settings journal = (.ok product, journal'))
    : ∃ parts : Sections, product.program = Program.text doc parts ∧
        List.Forall₂ Script.IsHandled doc.scripts parts.scripts ∧
        (∀ v, doc.Mentions Block.statementVariables v ↔
          product.storage.fast.count v + product.storage.dynamic.count v = 1) ∧
        (∀ v, ¬doc.Mentions Block.statementVariables v →
          v ∉ product.storage.fast ∧ v ∉ product.storage.dynamic) ∧
        doc.Covers product.storage.declaringLine (Text.lines parts.declarations) ∧
        ∃ before resets, parts.accessors =
            before ++ ("function __pulp.resetvars()\n" ++ resets ++ "end\n") ∧
          doc.Covers Storage.zeroingLine (Text.lines resets) := by
  obtain ⟨m, hm⟩ := Document.build_eq_ok h
  have hall := hm.mem_all
  have hnodup := hm.nodup_all
  have hbare := hm.isBare_fast
  -- the two lists together have every variable once
  have hcount (v : String) : product.storage.fast.count v + product.storage.dynamic.count v =
      if v ∈ product.storage.all then 1 else 0 := by
    rw [← List.count_append]
    exact hnodup.count
  refine ⟨_, hm.program_eq, hm.isHandled, ?_, ?_, ?_, _, _, Storage.access_text _, ?_⟩
  . intro v
    rw [hcount, ← hall]
    split <;> simp_all
  . intro v hv
    rw [← hall, Storage.all, List.mem_append, not_or] at hv
    exact hv
  . have hlines : Text.lines (m.sections settings product.storage).declarations =
        product.storage.all.map product.storage.declaringLine := by
      rw [Makings.sections, Storage.declare_text hnodup]
      apply Text.lines_join
      intro l hl
      obtain ⟨v, -, rfl⟩ := List.mem_map.mp hl
      exact Storage.isLine_declaring hbare v
    rw [hlines]
    exact Document.covers_map (Storage.declaringLine_injective hbare) hnodup hall
  . rw [Text.lines_join]
    . exact Document.covers_map Storage.zeroingLine_injective hnodup hall
    . intro l hl
      obtain ⟨v, -, rfl⟩ := List.mem_map.mp hl
      exact Storage.isLine_zeroing v

theorem storage_covers_coins
    : ∃ product journal', coinDocument.build {} [] = (.ok product, journal') ∧
        product.storage = ⟨["coins"], ["event", "keys.gold"]⟩ ∧
        coinDocument.Mentions Block.statementVariables "coins" ∧
        coinDocument.Mentions Block.statementVariables "keys.gold" ∧
        ¬coinDocument.Mentions Block.statementVariables "silver" ∧
        ∃ parts : Sections, product.program = Program.text coinDocument parts ∧
          List.Forall₂ Script.IsHandled coinDocument.scripts parts.scripts ∧
          coinDocument.Covers product.storage.declaringLine (Text.lines parts.declarations) := by
  obtain ⟨product, journal', hbuild, hstorage⟩ := coinDocument_builds
  obtain ⟨parts, hprogram, hscripts, hmentions, -, hdeclarations, -⟩ := storage_covers hbuild
  refine ⟨product, journal', hbuild, hstorage, ?_, ?_, ?_, parts, hprogram, hscripts, hdeclarations⟩
    <;> rw [hmentions, hstorage] <;> decide

end PulpGame
