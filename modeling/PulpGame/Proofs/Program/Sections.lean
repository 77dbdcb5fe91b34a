import PulpGame.Build
import PulpGame.Proofs.Entity.Spelling
import PulpGame.Proofs.Mimic.Plan

namespace PulpGame

open Lua (Stat)
open Program (Plain allowed_of_isFixed plain_of_all plain_cons plain_append)
open Variable (isBare)

variable {taken : String → Prop}

namespace Program

theorem images_fits (sheet : String) : (images sheet).Fits :=
  .call rfl (.field rfl (.field rfl (.field rfl (.name rfl)))) (by simp [Lua.Expr.Fits.string])

theorem runtimeTable_fits (doc : Document) : (runtimeTable doc).Fits := by
  have hnumber (n : Int) : (Lua.Expr.numeral (toString n)).Fits := .numeral (Lua.isSigned_int n)
  unfold runtimeTable
  apply Lua.Expr.Fits.tableOf
  . simp only [List.forall_mem_cons, List.not_mem_nil, false_implies, implies_true, and_true]
    exact ⟨rfl, rfl, rfl, rfl, rfl, rfl, rfl, rfl, rfl⟩
  . simp only [List.forall_mem_cons, List.not_mem_nil, false_implies, implies_true, and_true]
    exact ⟨hnumber _, hnumber _, hnumber _, hnumber _, .string, .boolean, images_fits _,
      images_fits _, images_fits _⟩

theorem round_fits : round.Fits := by
  have hhalf : (Lua.Expr.numeral "0.5").Fits :=
    .numeral (.plain (.positional (@Lua.IsMantissa.point ['0'] ['5'] (by simp) rfl rfl)))
  have hsum : (Lua.Expr.binary "+" (.name "x") (.numeral "0.5")).Fits :=
    .binary rfl (by decide) (by decide) (.name rfl) hhalf
  exact .lambda (by decide) (.call rfl (.field rfl (.name rfl)) (by simpa using hsum))

theorem aliases_fits : ∀ st ∈ aliases, st.Fits := by
  have hconst {n : String} {x : Lua.Expr} (hn : Lua.isName n) (hx : x.Fits)
      : (Stat.action (.declareConst n x)).Fits :=
    .action (.declareConst hn hx)
  have hfield {table : Lua.Expr} (key : String) (happlied : table.isPrefix) (h : table.Fits)
      : (Lua.Expr.field table key).Fits :=
    .field happlied h
  have hmath (key : String) : (Lua.Expr.field (.name "math") key).Fits := hfield key rfl (.name rfl)
  have hgraphics (key : String) : (graphics key).Fits :=
    hfield key rfl (hfield "graphics" rfl (.name rfl))
  have htau : (Lua.Expr.binary "*" (.field (.name "math") "pi") (.numeral "2")).Fits :=
    .binary rfl (by decide) (by decide) (hmath "pi") (.numeral (.plain (Lua.isDecimal_nat 2)))
  have hcolours : (Lua.Expr.tableOf (.lines 4)
      [("black", graphics "kColorBlack"), ("white", graphics "kColorWhite")]).Fits :=
    .tableOf (by simp; exact ⟨rfl, rfl⟩) (by simp [hgraphics])
  simp only [aliases, List.forall_mem_cons, List.not_mem_nil, false_implies, implies_true, and_true]
  exact ⟨hconst rfl (.name rfl), .action (.call rfl (.callString rfl (.name rfl))),
    hconst rfl (hmath _), hconst rfl (hmath _), hconst rfl (hmath _), hconst rfl (hmath _),
    hconst rfl (hmath _), hconst rfl round_fits, hconst rfl (hmath _), hconst rfl htau,
    hconst rfl (.name rfl), hconst rfl (runtimeField_fits _), hconst rfl (.name rfl),
    hconst rfl (hgraphics _), hconst rfl (hgraphics _), hconst rfl hcolours,
    .action (.declare rfl (runtimeField_fits _))⟩

theorem preamble_fits (doc : Document) : ∀ st ∈ preamble doc, st.Fits :=
  List.forall_mem_cons.mpr
    ⟨.action (.assign rfl (.name rfl) (runtimeTable_fits doc)), aliases_fits⟩

theorem songs_fits : ∀ st ∈ songs, st.Fits := by
  have hempty : (Lua.Expr.tableOf .inline []).Fits := .tableOf (by simp) (by simp)
  rw [songs, List.forall_mem_singleton]
  exact .action (.assign rfl (runtimeField_fits _) hempty)

theorem epilogue_fits : ∀ st ∈ epilogue, st.Fits := by
  simp only [epilogue, List.forall_mem_cons, List.not_mem_nil, false_implies, implies_true,
    and_true]
  exact ⟨runtimeCall_fits rfl (by simp), runtimeCall_fits rfl (by simp)⟩

theorem plain_tableOf {layout : Lua.TableLayout} {fields : List (String × Lua.Expr)}
    (h : ∀ f ∈ fields, f.1 ∈ names ∧ Plain taken f.2.tokens)
    : Plain taken (Lua.Expr.tableOf layout fields).tokens := by
  have hfixed : Plain taken [.symbol "\x7b", .symbol "\x7d", .symbol ",", .symbol "="] :=
    plain_of_all (by decide)
  simp only [plain_cons] at hfixed
  have hfields : ∀ ts ∈ Lua.Expr.fieldTokens fields, Plain taken ts := by
    rw [Lua.Expr.fieldTokens_eq, List.forall_mem_map]
    intro f hf
    simp [allowed_name, hfixed, h f hf]
  unfold Lua.Expr.tokens Lua.Expr.tableTokens
  cases layout with
  | inline =>
    have hitems : ∀ ts ∈ Lua.Expr.fieldTokens fields, Plain taken (ts ++ [.symbol ","]) := by
      intro ts hts
      simp [hfields ts hts, hfixed]
    simpa [hfixed, plain_flatten] using hitems
  | lines => simp [hfixed, plain_intercalate hfixed.2.2.1 hfields]

theorem plain_images (sheet : String) : Plain taken (images sheet).tokens := by
  have hplace : Plain taken (Lua.Expr.field (graphics "imagetable") "new").tokens :=
    plain_of_all (by decide)
  have hfixed : Plain taken [.symbol "(", .symbol ")"] := plain_of_all (by decide)
  simp only [plain_cons] at hfixed
  simp [images, Lua.Expr.tokens, Lua.Expr.tokenLists, hfixed] at hplace ⊢
  exact hplace

theorem plain_runtimeTable (doc : Document) : Plain taken (runtimeTable doc).tokens := by
  have hflag (b : Bool) : Plain taken (Lua.Expr.boolean b).tokens := by
    cases b <;> exact plain_of_all (by decide)
  have hname : Plain taken (Lua.Expr.string doc.name).tokens := by simp [Lua.Expr.tokens]
  apply plain_tableOf
  simp only [List.forall_mem_cons, List.not_mem_nil, false_implies, implies_true, and_true]
  exact ⟨⟨by decide, plain_signed _⟩, ⟨by decide, plain_signed _⟩, ⟨by decide, plain_signed _⟩,
    ⟨by decide, plain_signed _⟩, ⟨by decide, hname⟩, ⟨by decide, hflag _⟩,
    ⟨by decide, plain_images _⟩, ⟨by decide, plain_images _⟩, by decide, plain_images _⟩

theorem plain_preamble (doc : Document) : Plain taken (Stat.tokensAll (preamble doc)) := by
  have haliases : Plain taken (Stat.tokensAll aliases) := plain_of_all (by decide +kernel)
  have hruntime : Plain taken (Lua.Expr.name "___pulp").tokens := plain_of_all (by decide)
  rw [preamble, Stat.tokensAll, plain_append]
  exact ⟨plain_assign hruntime (plain_runtimeTable doc), haliases⟩

end Program

namespace Variable.Storage

variable {s : Storage}

theorem plain_reset {v : String} (h : isBare v → taken v) : Plain taken (reset v).tokens :=
  Program.plain_assign (Program.plain_place h) (Program.plain_signed "0")

theorem plain_declare (h : ∀ v ∈ s.all, isBare v → taken v) (hbare : ∀ v ∈ s.fast, isBare v)
    : Plain taken (Stat.tokensAll s.declare) := by
  have hfixed : Plain taken [.keyword "local", .symbol "="] := plain_of_all (by decide)
  simp only [plain_cons] at hfixed
  rw [Program.plain_tokensAll, declare, List.forall_mem_append, List.forall_mem_map,
    List.forall_mem_map]
  constructor
  . intro v hv
    have htaken := h v (List.mem_append_left _ hv) (hbare v hv)
    simp [Stat.tokens, Lua.Action.tokens, Lua.Expr.tokens, hfixed, Program.allowed_name, htaken,
      Program.plain_signed]
  . exact fun v hv => plain_reset (h v (List.mem_append_right _ hv))

theorem plain_dispatch {own : String → Lua.Action} {other : Lua.Action}
    (hown : ∀ v ∈ s.fast, Plain taken (own v).tokens) (hother : Plain taken other.tokens)
    : Plain taken (s.dispatch own other).tokens := by
  have hfixed : Plain taken [.keyword "if", .keyword "then", .keyword "elseif", .keyword "else",
      .keyword "end", .name "varname", Lua.operatorToken "=="] :=
    plain_of_all (by decide)
  simp only [plain_cons] at hfixed
  have harms : ∀ a ∈ s.fast.map fun v => (Lua.Expr.binary "==" asked (.string v), own v),
      Plain taken a.1.tokens ∧ Plain taken a.2.tokens := by
    rw [List.forall_mem_map]
    intro v hv
    simp [asked, Lua.Expr.tokens, hfixed, hown v hv]
  unfold dispatch
  split
  . exact hother
  . next first others hsplit =>
    rw [hsplit, List.forall_mem_cons] at harms
    have hothers : Plain taken (others.flatMap (Stat.armTokens "elseif")) := by
      rw [Program.plain_flatMap]
      intro a ha
      simp [Stat.armTokens, hfixed, harms.2 a ha]
    simp [Stat.tokens, Stat.armTokens, hfixed, harms.1, hothers, hother]

theorem plain_define {target : Lua.Expr} {parameters : List String} {body : List Stat}
    (htarget : Plain taken target.tokens) (hparameters : ∀ n ∈ parameters, n ∈ Program.names)
    (hbody : Plain taken (Stat.tokensAll body))
    : Plain taken (Stat.define target parameters body).tokens := by
  have hfixed : Plain taken [.keyword "function", .keyword "end", .symbol "(", .symbol ")",
      .symbol ","] :=
    plain_of_all (by decide)
  simp only [plain_cons] at hfixed
  have hnames : Plain taken ([.symbol ","].intercalate
      (parameters.map fun n => [Lua.Token.name n])) := by
    apply Program.plain_intercalate hfixed.2.2.2.2.1
    rw [List.forall_mem_map]
    intro n hn
    simp [Program.allowed_name, hparameters n hn]
  simp [Stat.tokens, Lua.Expr.parameterTokens, hfixed, htarget, hnames, hbody]

theorem plain_access (h : ∀ v ∈ s.all, isBare v → taken v) (hbare : ∀ v ∈ s.fast, isBare v)
    : Plain taken (Stat.tokensAll s.access) := by
  have hshadowed : Plain taken (Stat.action (.assign shadowedTable
      (.tableOf .inline (shadowed.map fun n => (n, .boolean true))))).tokens :=
    plain_of_all (by decide +kernel)
  have hnamespacing : Plain taken namespacing.tokens := plain_of_all (by decide +kernel)
  have hglobal : Plain taken (Lua.Expr.index (.name "_G") asked).tokens := plain_of_all (by decide)
  have hfixed : Plain taken [.name "value", .symbol "=", .keyword "return"] :=
    plain_of_all (by decide)
  simp only [plain_cons] at hfixed
  have hname (v : String) (hv : v ∈ s.fast) : Program.Allowed taken (.name v) :=
    .inr (h v (List.mem_append_left _ hv) (hbare v hv))
  have hbody {own : String → Lua.Action} {other : Lua.Action}
      (hown : ∀ v ∈ s.fast, Plain taken (own v).tokens) (hother : Plain taken other.tokens)
      : Plain taken (Stat.tokensAll [namespacing, s.dispatch own other]) := by
    simp [Stat.tokensAll, hnamespacing, plain_dispatch hown hother]
  rw [Program.plain_tokensAll, access]
  simp only [List.forall_mem_cons, List.not_mem_nil, false_implies, implies_true, and_true]
  refine ⟨hshadowed, ?_, ?_, ?_⟩
  . apply plain_define (Program.plain_runtimeField (by decide)) (by decide)
    apply hbody
    . intro v hv
      simp [Lua.Action.tokens, Lua.Expr.tokens, hfixed, hname v hv]
    . simp [Lua.Action.tokens, Lua.Expr.tokens, hfixed] at hglobal ⊢
      exact hglobal
  . apply plain_define (Program.plain_runtimeField (by decide)) (by decide)
    apply hbody
    . intro v hv
      simp [Lua.Action.tokens, Lua.Expr.tokens, hfixed, hname v hv]
    . simp only [Lua.Action.tokens, plain_cons]
      exact ⟨hfixed.2.2.1, hglobal⟩
  . apply plain_define (Program.plain_runtimeField (by decide)) (by simp)
    rw [Program.plain_tokensAll, List.forall_mem_map]
    exact fun v hv => plain_reset (h v hv)

end Variable.Storage

namespace Mimic

theorem plain_resolve {r : Request} (h : Lua.isName r.event → taken r.event)
    : Plain taken r.resolve.tokens := by
  have hfixed : Plain taken [.keyword "for", .name "name", .symbol ",", .name "fn", .keyword "in",
      .name "pairs", .symbol "(", .symbol ")", .keyword "do", .keyword "if", .keyword "not",
      .symbol "[", .symbol "]", Lua.operatorToken "and", .name "type", Lua.operatorToken "==",
      .keyword "then", .symbol "=", .keyword "end", Lua.operatorToken "or"] :=
    plain_of_all (by decide)
  simp only [plain_cons] at hfixed
  have hscript (s : String) : Plain taken (Program.script s).tokens := Program.plain_script s
  have hevent : Plain taken (Lua.Expr.keyTokens r.event) :=
    Program.plain_key fun hname => .inr (h hname)
  have hany : Plain taken (Lua.Expr.keyTokens anyEvent) := plain_of_all (by decide)
  unfold Request.resolve
  dsimp only
  split
  . simp [Stat.tokens, Stat.tokensAll, Lua.Action.tokens, Lua.Expr.tokens, Lua.Expr.tokenLists,
      hfixed, hscript]
  . simp [Stat.tokens, Lua.Action.tokens, Lua.Expr.tokens, hfixed, hscript, hevent, hany]

theorem plain_plan {requests : List Request} (passes : Nat)
    (h : ∀ r ∈ requests, Lua.isName r.event → taken r.event)
    : Plain taken (Stat.tokensAll ((plan requests).resolve passes)) := by
  have hperm := (isOrder_plan requests).resolves.perm
  have hresolve {rs : List Request} (hrs : ∀ r ∈ rs, r ∈ requests)
      : ∀ st ∈ rs.map Request.resolve, Plain taken st.tokens := by
    rw [List.forall_mem_map]
    exact fun r hr => plain_resolve (h r (hrs r hr))
  have hordered := hresolve fun r hr => hperm.subset (List.mem_append_left _ hr)
  have hcyclic := hresolve fun r hr => hperm.subset (List.mem_append_right _ hr)
  have hfixed : Plain taken [.keyword "for", .name "_", .symbol "=", .symbol ",", .keyword "do",
      .keyword "end"] :=
    plain_of_all (by decide)
  simp only [plain_cons] at hfixed
  rw [Program.plain_tokensAll, Plan.resolve, List.forall_mem_append]
  refine ⟨hordered, ?_⟩
  split
  . simp
  . rw [List.forall_mem_singleton]
    simp [Stat.tokens, Lua.Expr.tokens, hfixed, Program.plain_signed,
      Program.plain_tokensAll.mpr hcyclic]

end Mimic

namespace Script

theorem plain_registration (name : String) (owner : Owner) (id : Int)
    (h : Lua.isName name → taken name)
    : Plain taken (Stat.tokensAll (registration name owner id)) := by
  have hstring (s : String) : Plain taken (Lua.Expr.string s).tokens := by simp [Lua.Expr.tokens]
  have hid : Plain taken (Lua.Expr.numeral (toString id)).tokens := Program.plain_signed _
  rw [Program.plain_tokensAll]
  intro st hst
  rcases mem_registration.mp hst with rfl | ⟨hname, rfl⟩ | rfl
  . exact Program.plain_runtimeCall (by decide) (by simp [hstring])
  . have hplace : Plain taken (Lua.Expr.name name).tokens := by
      simp [Lua.Expr.tokens, Program.allowed_name, h hname]
    exact Program.plain_assign hplace (Program.plain_script name)
  . exact Program.plain_runtimeCall (by decide) (by simpa [hstring] using hid)

end Script

end PulpGame
