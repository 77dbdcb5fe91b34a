import PulpGame.Proofs.Block.Expression

namespace PulpGame.Block

open Json (Value)
open Lua (Stat)

variable {site : Site} {blocks : List Value} {notes notes' : List Note} {st : Stat}
  {block : Nat → Noting (List Stat)}

theorem ref?_eq_some {v : Value} {n : Nat} (h : ref? v = some n) : v = blockRef n := by
  unfold ref? at h
  split at h
  . cases h
    rfl
  . cases h

theorem refOfValue_eq_ok {v : Value} {n : Nat} (h : Ref.ofValue v = .ok n) : v = blockRef n := by
  unfold Ref.ofValue at h
  split at h
  . next m hm =>
    cases h
    exact ref?_eq_some hm
  . cases h

theorem refOperand_eq_ok {vs : List Value} {i n : Nat} (h : refOperand vs i = .ok n)
    : vs[i]? = some (blockRef n) := by
  unfold refOperand at h
  split at h
  . cases h
  . next v hv => rw [hv, refOfValue_eq_ok h]

theorem runs_liftExcept {ref : Ref} {n : Nat}
    : Runs (Statement.toLua.liftExcept ref) notes n notes' ↔ ref = .ok n ∧ notes = notes' := by
  cases ref with
  | ok m =>
    rw [Statement.toLua.liftExcept, runs_pure]
    simp
  | error fault =>
    rw [Statement.toLua.liftExcept]
    simp [runs_throw]

theorem runs_statementNamed {vs : List Value} {make : String → Statement}
    (h : Runs ((Statement.named vs make).toLua site block) notes st notes')
    : ∃ s rest, vs = .text s :: rest ∧ Runs ((make s).toLua site block) notes st notes' := by
  unfold Statement.named at h
  split at h
  . next s hname =>
    obtain ⟨rest, hvs⟩ := name_eq_ok hname
    exact ⟨s, rest, hvs, h⟩
  . rw [Statement.toLua] at h
    exact absurd h runs_throw

theorem means_first {vs : List Value} {x : Lua.Expr}
    (h : Runs ((Statement.operand vs 0).toLua site) notes x notes')
    : ∃ v rest new, vs = v :: rest ∧ notes' = notes ++ new ∧ x.Fits ∧ ExprMeans site v x.term new := by
  obtain ⟨v, hv, hrun⟩ := runs_operand h
  obtain ⟨rest, rfl⟩ := eq_cons_of_getElem? hv
  obtain ⟨new, rfl, hfits, -, hmeans⟩ := sound site v _ _ _ hrun
  exact ⟨v, rest, new, rfl, rfl, hfits, hmeans⟩

theorem means_second {s : String} {vs : List Value} {x : Lua.Expr}
    (h : Runs ((Statement.operand (.text s :: vs) 1).toLua site) notes x notes')
    : ∃ v rest new, vs = v :: rest ∧ notes' = notes ++ new ∧ x.Fits ∧ ExprMeans site v x.term new := by
  obtain ⟨v, hv, hrun⟩ := runs_operand h
  rw [List.getElem?_cons_succ] at hv
  obtain ⟨rest, rfl⟩ := eq_cons_of_getElem? hv
  obtain ⟨new, rfl, hfits, -, hmeans⟩ := sound site v _ _ _ hrun
  exact ⟨v, rest, new, rfl, rfl, hfits, hmeans⟩

theorem assign_place_fits (n : String) {x : Lua.Expr} (h : x.Fits)
    : (Stat.action (.assign (Variable.place n) x)).Fits :=
  .action (.assign (Variable.place_isPlace n) (Variable.place_fits n) h)

theorem runtimeCall_statements (method : String) (xs : List Lua.Expr)
    : (Program.runtimeCall method xs).statements = [callTerm method (xs.map (·.term))] := by
  rw [← Lua.Expr.terms_eq]
  rfl

theorem comment_fits (front : String) (hfront : front.toList.all (!Lua.isLineEnd ·)) {s : String}
    (hs : s.toList.all (!Lua.isLineEnd ·)) : (Stat.comment (front ++ s)).Fits := by
  apply Stat.Fits.comment
  rw [String.toList_append, List.all_append, hfront, hs]
  rfl

theorem quote_no_lineEnd (s : String) : (Lua.quote s).toList.all (!Lua.isLineEnd ·) := by
  have := Lua.all_escape_not_isLineEnd s
  simp only [Lua.quote, String.toList_append, List.all_append, this]
  rfl

def Stands (site : Site) (blocks : List Value) (v : Value) (notes : List Note) (st : Stat)
    (notes' : List Note) : Prop :=
  ∃ opened new, notes' = notes ++ new ∧ st.Fits ∧ st.isLast = false ∧
    StatementMeans site v opened st.statements new ∧
    ∀ b ∈ opened, BlockMeans site blocks b.index b.body b.notes

def Opens (site : Site) (blocks : List Value) (block : Nat → Noting (List Stat)) : Prop :=
  ∀ i notes body notes', Runs (block i) notes body notes' →
    ∃ new, notes' = notes ++ new ∧ (∀ st ∈ body, st.Fits) ∧ (∀ st ∈ body, st.isLast = false) ∧
      BlockMeans site blocks i (Stat.statementsAll body) new

theorem body_last {body : List Stat} (h : ∀ st ∈ body, st.isLast = false)
    : ∀ st ∈ body.dropLast, !st.isLast := by
  intro st hst
  simp [h st (List.dropLast_subset _ hst)]

theorem stands_plain {v : Value} {new : List Note} (hfits : st.Fits) (hlast : st.isLast = false)
    (hmeans : StatementMeans site v [] st.statements new)
    : Stands site blocks v notes st (notes ++ new) :=
  ⟨[], new, rfl, hfits, hlast, hmeans, by simp⟩

theorem stands_silent {v : Value} (hfits : st.Fits) (hlast : st.isLast = false)
    (hmeans : StatementMeans site v [] st.statements [])
    : Stands site blocks v notes st notes :=
  ⟨[], [], by simp, hfits, hlast, hmeans, by simp⟩

theorem stands_branch {operands : List Value} (hblock : Opens site blocks block)
    (h : Runs ((Statement.branch (Statement.operand operands 0) (refOperand operands 1)
      ((operands[2]?).map Ref.ofValue)).toLua site block) notes st notes')
    : Stands site blocks (.list (.text "if" :: operands)) notes st notes' := by
  simp only [Statement.toLua, runs_bind, runs_liftExcept] at h
  obtain ⟨c, mid, hc, n, _, ⟨hn, rfl⟩, b, mid', hb, hother⟩ := h
  obtain ⟨v, rest, ns, rfl, rfl, hfits, hmeans⟩ := means_first hc
  obtain ⟨ms, rfl, hbody, hlast, hopen⟩ := hblock _ _ _ _ hb
  have hn := refOperand_eq_ok hn
  rw [List.getElem?_cons_succ] at hn
  obtain ⟨rest, rfl⟩ := eq_cons_of_getElem? hn
  simp only [List.getElem?_cons_succ] at hother
  cases hrest : rest[0]? with
  | none =>
    obtain rfl : rest = [] := by cases rest <;> simp_all
    simp only [List.getElem?_nil, Option.map_none, runs_pure] at hother
    obtain ⟨rfl, rfl⟩ := hother
    refine ⟨[⟨n, Stat.statementsAll b, ms⟩], ns ++ ms, by simp, ?_, rfl, .branch hmeans,
      by simpa using hopen⟩
    exact .branch hfits hbody (body_last hlast)
  | some w =>
    obtain ⟨rest, rfl⟩ := eq_cons_of_getElem? hrest
    simp only [List.getElem?_cons_zero, Option.map_some, runs_bind, runs_liftExcept,
      runs_pure] at hother
    obtain ⟨m, _, ⟨hm, rfl⟩, o, mid'', ho, rfl, rfl⟩ := hother
    obtain rfl := refOfValue_eq_ok hm
    obtain ⟨ls, rfl, hbody', hlast', hopen'⟩ := hblock _ _ _ _ ho
    refine ⟨[⟨n, Stat.statementsAll b, ms⟩, ⟨m, Stat.statementsAll o, ls⟩], ns ++ ms ++ ls,
      by simp, ?_, rfl, .branchElse hmeans, by simpa using ⟨hopen, hopen'⟩⟩
    exact .branchElse hfits hbody (body_last hlast) hbody' (body_last hlast')

theorem stands_loop {operands : List Value} (hblock : Opens site blocks block)
    (h : Runs ((Statement.loop (Statement.operand operands 0) (refOperand operands 1)).toLua site
      block) notes st notes')
    : Stands site blocks (.list (.text "while" :: operands)) notes st notes' := by
  simp only [Statement.toLua, runs_bind, runs_liftExcept, runs_pure] at h
  obtain ⟨c, mid, hc, n, _, ⟨hn, rfl⟩, b, mid', hb, rfl, rfl⟩ := h
  obtain ⟨v, rest, ns, rfl, rfl, hfits, hmeans⟩ := means_first hc
  obtain ⟨ms, rfl, hbody, hlast, hopen⟩ := hblock _ _ _ _ hb
  have hn := refOperand_eq_ok hn
  rw [List.getElem?_cons_succ] at hn
  obtain ⟨rest, rfl⟩ := eq_cons_of_getElem? hn
  refine ⟨[⟨n, Stat.statementsAll b, ms⟩], ns ++ ms, by simp, ?_, rfl, .loop hmeans,
    by simpa using hopen⟩
  exact .loop hfits hbody (body_last hlast)

theorem stands_goto {operands : List Value}
    (h : Runs ((Statement.goto (Expr.ofValues (operands.take 3))).toLua site block) notes st notes')
    : Stands site blocks (.list (.text "goto" :: operands)) notes st notes' := by
  simp only [Statement.toLua, runs_bind] at h
  obtain ⟨xs, mid, hxs, h⟩ := h
  obtain ⟨parts, hparts, hterms, rfl, hfits, hmeans⟩ :=
    means_all (fun v _ => sound site v) hxs
  have hlength : xs.length = parts.length := by
    simpa using congrArg List.length hterms
  split at h
  . simp [runs_throw] at h
  . next hleast =>
    rw [runs_pure] at h
    obtain ⟨rfl, rfl⟩ := h
    have hcount := congrArg List.length hparts
    rw [List.length_take, List.length_map] at hcount
    have hmost : parts.length = 3 ∨ parts.length < 3 ∧ operands.drop 3 = [] := by
      rw [List.drop_eq_nil_iff]
      omega
    have hstands : StatementMeans site (.list (.text "goto" :: operands)) []
        (Program.runtimeCall "gotoroom" xs).statements (parts.flatMap (·.notes)) := by
      rw [runtimeCall_statements, hterms, ← List.take_append_drop 3 operands, hparts]
      exact .goto (by omega) hmost hmeans
    exact stands_plain (Program.runtimeCall_fits rfl hfits) rfl hstands

theorem place_operation_fits {op n : String} {x : Lua.Expr} (hop : Lua.isOperator op)
    (hreach : Lua.Expr.reach op < x.rank) (h : x.Fits)
    : (Stat.action (.assign (Variable.place n) (.binary op (Variable.place n) x))).Fits :=
  assign_place_fits n (.binary hop (place_rank n) hreach (Variable.place_fits n) h)

theorem numeral_one_fits : (Lua.Expr.numeral "1").Fits := .numeral (.plain (Lua.isDecimal_nat 1))

theorem updateOf?_symbol {word op : String} {how : Update} (hword : updateOf? word = some op)
    (hsymbol : how.symbol = op) : Lua.isOperator op ∧ Lua.Expr.reach op ≤ Lua.unaryPriority := by
  subst hsymbol
  cases how <;> decide

theorem stands_updating {word op : String} {how : Update} {operands : List Value}
    (hword : updateOf? word = some op) (hsymbol : how.symbol = op)
    (h : Runs ((Statement.updating operands how).toLua site block) notes st notes')
    : Stands site blocks (.list (.text word :: operands)) notes st notes' := by
  obtain ⟨s, rest, rfl, hmake⟩ := runs_statementNamed h
  simp only [Statement.toLua, runs_bind, runs_note, runs_pure] at hmake
  obtain ⟨x, mid, hx, -, mid', rfl, rfl, rfl⟩ := hmake
  obtain ⟨v, rest, new, rfl, rfl, hfits, hmeans⟩ := means_second hx
  obtain ⟨hop, hreach⟩ := updateOf?_symbol hword hsymbol
  rw [List.append_assoc, hsymbol]
  exact stands_plain (place_operation_fits hop (Nat.lt_succ_of_le hreach) (.group hfits)) rfl
    (.update hword hmeans)

theorem stands_calling {word : String} {operands : List Value} {make : Lua.Expr → Stat}
    (h : Runs (do
      let v ← (Statement.operand operands 0).toLua site
      return make v) notes st notes')
    (hmake : ∀ x, x.Fits → (make x).Fits ∧ (make x).isLast = false)
    (hmeans : ∀ x v rest new, ExprMeans site v x.term new →
      StatementMeans site (.list (.text word :: v :: rest)) [] (make x).statements new)
    : Stands site blocks (.list (.text word :: operands)) notes st notes' := by
  simp only [runs_bind, runs_pure] at h
  obtain ⟨x, mid, hx, rfl, rfl⟩ := h
  obtain ⟨v, rest, new, rfl, rfl, hfits, hxmeans⟩ := means_first hx
  obtain ⟨hfit, hlast⟩ := hmake x hfits
  exact stands_plain hfit hlast (hmeans x v rest new hxmeans)

theorem stands_operation (hblock : Opens site blocks block) {word : String} {operands : List Value}
    (h : Runs ((Statement.operation word operands).toLua site block) notes st notes')
    : Stands site blocks (.list (.text word :: operands)) notes st notes' := by
  have hself : (Lua.Expr.name "__self").Fits := .name rfl
  have hevent : (Lua.Expr.name "event").Fits := .name rfl
  unfold Statement.operation at h
  -- the words in the order of `Statement.operation`: what is done to a variable comes first
  split at h
  . obtain ⟨s, rest, rfl, hmake⟩ := runs_statementNamed h
    simp only [Statement.toLua, runs_bind, runs_note, runs_pure] at hmake
    obtain ⟨x, mid, hx, -, mid', rfl, rfl, rfl⟩ := hmake
    obtain ⟨v, rest, new, rfl, rfl, hfits, hmeans⟩ := means_second hx
    rw [List.append_assoc]
    exact stands_plain (assign_place_fits s hfits) rfl (.set hmeans)
  . obtain ⟨s, rest, rfl, hmake⟩ := runs_statementNamed h
    simp only [Statement.toLua, runs_bind, runs_note, runs_pure] at hmake
    obtain ⟨-, mid, rfl, rfl, rfl⟩ := hmake
    exact stands_plain (place_operation_fits rfl (by decide) numeral_one_fits) rfl .increment
  . obtain ⟨s, rest, rfl, hmake⟩ := runs_statementNamed h
    simp only [Statement.toLua, runs_bind, runs_note, runs_pure] at hmake
    obtain ⟨-, mid, rfl, rfl, rfl⟩ := hmake
    exact stands_plain (place_operation_fits rfl (by decide) numeral_one_fits) rfl .decrement
  . exact stands_updating rfl rfl h
  . exact stands_updating rfl rfl h
  . exact stands_updating rfl rfl h
  . exact stands_updating rfl rfl h
  . exact stands_branch hblock h
  . exact stands_loop hblock h
  . obtain ⟨s, rest, rfl, hmake⟩ := runs_statementNamed h
    simp only [Statement.toLua, runs_bind, runs_note, runs_pure] at hmake
    obtain ⟨-, mid, rfl, rfl, rfl⟩ := hmake
    exact stands_plain (comment_fits "mimic " rfl (quote_no_lineEnd s)) rfl .mimic
  . simp only [Statement.toLua, runs_pure] at h
    obtain ⟨rfl, rfl⟩ := h
    exact stands_silent (.action .leave) rfl .done
  . rw [Statement.toLua] at h
    apply stands_calling h
    . intro x hx
      exact ⟨.action (.call rfl (.call rfl (.name rfl) (by simpa using hx))), rfl⟩
    . intro x v rest new hmeans
      exact .log hmeans
  . rw [Statement.toLua] at h
    apply stands_calling h
    . intro x hx
      exact ⟨Program.runtimeCall_fits rfl (by simp [hself, hevent, hx]), rfl⟩
    . intro x v rest new hmeans
      exact .say hmeans
  . obtain ⟨s, rest, rfl, hmake⟩ := runs_statementNamed h
    simp only [Statement.toLua, runs_pure] at hmake
    obtain ⟨rfl, rfl⟩ := hmake
    have hfits : (Program.runtimeCall "call" [.name "__self", .string s, .name "event"]).Fits :=
      Program.runtimeCall_fits rfl (by simp [hself, hevent, Lua.Expr.Fits.string])
    exact stands_silent hfits rfl .call
  . obtain ⟨s, rest, rfl, hmake⟩ := runs_statementNamed h
    simp only [Statement.toLua, runs_pure] at hmake
    obtain ⟨rfl, rfl⟩ := hmake
    have hfits : (Program.runtimeCall "emit" [.string s, .name "event"]).Fits :=
      Program.runtimeCall_fits rfl (by simp [hevent, Lua.Expr.Fits.string])
    exact stands_silent hfits rfl .emit
  . rw [Statement.toLua] at h
    apply stands_calling h
    . intro x hx
      exact ⟨Program.runtimeCall_fits rfl (by simp [hx]), rfl⟩
    . intro x v rest new hmeans
      exact .sound hmeans
  . exact stands_goto h
  . simp only [Statement.toLua, runs_bind, runs_note, runs_pure] at h
    obtain ⟨-, mid, rfl, rfl, rfl⟩ := h
    refine stands_plain (comment_fits "unsupported: " rfl (Lua.all_escape_not_isLineEnd word)) rfl
      (.unsupported ?_)
    simp_all [statementWords]

theorem stands (hblock : Opens site blocks block) {v : Value}
    (h : Runs ((Statement.ofValue v).toLua site block) notes st notes')
    : Stands site blocks v notes st notes' := by
  unfold Statement.ofValue at h
  split at h
  . exact stands_operation hblock h
  . rw [Statement.toLua] at h
    exact absurd h runs_throw

theorem stands_all (hblock : Opens site blocks block) (items : List Value) {body : List Stat}
    (h : Runs ((items.map Statement.ofValue).mapM (Statement.toLua site block)) notes body notes')
    : ∃ parts : List Placed, items = parts.map (·.value) ∧
        Stat.statementsAll body = parts.flatMap (·.code) ∧
        notes' = notes ++ parts.flatMap (·.notes) ∧
        (∀ st ∈ body, st.Fits) ∧ (∀ st ∈ body, st.isLast = false) ∧
        (∀ p ∈ parts, StatementMeans site p.value p.blocks p.code p.notes) ∧
        ∀ p ∈ parts, ∀ b ∈ p.blocks, BlockMeans site blocks b.index b.body b.notes := by
  induction items generalizing notes body with
  | nil =>
    rw [List.map_nil, List.mapM_nil, runs_pure] at h
    obtain ⟨rfl, rfl⟩ := h
    exact ⟨[], by simp [Stat.statementsAll]⟩
  | cons v items ih =>
    rw [List.map_cons, List.mapM_cons] at h
    simp only [runs_bind, runs_pure] at h
    obtain ⟨st, mid, hst, body, mid', hbody, rfl, rfl⟩ := h
    obtain ⟨opened, new, rfl, hfits, hlast, hmeans, hopen⟩ := stands hblock hst
    obtain ⟨parts, rfl, hcode, rfl, hall, hlasts, hparts, hopens⟩ := ih hbody
    refine ⟨⟨v, opened, st.statements, new⟩ :: parts, by simp, by simp [Stat.statementsAll, hcode],
      by simp, ?_, ?_, ?_, ?_⟩
    . simpa [hfits] using hall
    . simpa [hlast] using hlasts
    . simpa [hmeans] using hparts
    . simpa using ⟨hopen, hopens⟩

theorem body_eq_some {blocks : List Value} {i : Nat} {statements : List Statement}
    (h : (blocks.map Body.ofValue)[i]? = some (some statements))
    : ∃ items, blocks[i]? = some (.list items) ∧ statements = items.map Statement.ofValue := by
  rw [List.getElem?_map, Option.map_eq_some_iff] at h
  obtain ⟨v, hv, hbody⟩ := h
  unfold Body.ofValue at hbody
  split at hbody
  . next items =>
    cases hbody
    exact ⟨items, hv, rfl⟩
  . cases hbody

/-- Only a block that is a list, and closed, is written. It is open while its statements are. -/
theorem runs_toLua {closed : List Nat} {i : Nat} {body : List Stat}
    (h : Runs (toLua site (blocks.map Body.ofValue) closed i) notes body notes')
    : ∃ items, i ∈ closed ∧ blocks[i]? = some (.list items) ∧
        Runs ((items.map Statement.ofValue).mapM
          (Statement.toLua site (toLua site (blocks.map Body.ofValue) (closed.erase i)))) notes body
            notes' := by
  rw [toLua] at h
  split at h
  . exact absurd h runs_throw
  . exact absurd h runs_throw
  . next statements hstatements =>
    split at h
    . next hmem =>
      obtain ⟨items, hitems, rfl⟩ := body_eq_some hstatements
      exact ⟨items, hmem, hitems, h⟩
    . exact absurd h runs_throw

theorem opens (site : Site) (blocks : List Value) (closed : List Nat)
    : Opens site blocks (toLua site (blocks.map Body.ofValue) closed) := by
  induction hlength : closed.length using Nat.strongRecOn generalizing closed with
  | ind n ih =>
    intro i notes body notes' h
    obtain ⟨items, hmem, hitems, hbody⟩ := runs_toLua h
    -- The block is open while those that it refers to are written, so fewer of them are closed.
    have hshorter : (closed.erase i).length < n :=
      hlength ▸ (List.length_erase_add_one hmem).le
    obtain ⟨parts, rfl, hcode, rfl, hfits, hlast, hparts, hopens⟩ :=
      stands_all (ih _ hshorter (closed.erase i) rfl) items hbody
    refine ⟨parts.flatMap (·.notes), rfl, hfits, hlast, ?_⟩
    rw [hcode]
    exact .intro hitems hparts hopens

end PulpGame.Block
