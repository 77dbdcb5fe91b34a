import PulpGame.Proofs.Block.Meaning
import PulpGame.Proofs.Outcome
import PulpGame.Proofs.Variable.Code

namespace PulpGame.Block

open Json (Value)

theorem runs_note {n : Note} {u : Unit} {notes notes' : List Note}
    : Runs (note n) notes u notes' ↔ notes' = notes ++ [n] :=
  runs_modify

theorem ofValues_eq (vs : List Value) : Expr.ofValues vs = vs.map Expr.ofValue := by
  induction vs with
  | nil => rfl
  | cons v vs ih => rw [Expr.ofValues, ih, List.map_cons]

theorem name_eq_ok {vs : List Value} {s : String} (h : name vs 0 = .ok s)
    : ∃ rest, vs = .text s :: rest := by
  unfold name at h
  split at h
  . cases h
  . next hvs =>
    cases h
    cases vs with
    | nil => simp at hvs
    | cons v vs =>
      simp only [List.getElem?_cons_zero, Option.some.injEq] at hvs
      exact ⟨vs, by rw [hvs]⟩
  . cases h

section

variable {site : Site} {notes notes' : List Note} {x : Lua.Expr}

theorem runs_malformed {fault : Fault} : ¬Runs ((Expr.malformed fault).toLua site) notes x notes' := by
  unfold Expr.toLua
  exact runs_throw

theorem runs_named {vs : List Value} {make : String → Expr}
    (h : Runs ((Expr.named vs make).toLua site) notes x notes')
    : ∃ s rest, vs = .text s :: rest ∧ Runs ((make s).toLua site) notes x notes' := by
  unfold Expr.named at h
  split at h
  . next s hname =>
    obtain ⟨rest, hvs⟩ := name_eq_ok hname
    exact ⟨s, rest, hvs, h⟩
  . exact absurd h runs_malformed

theorem runs_operand {vs : List Value} {i : Nat}
    (h : Runs ((Expr.operand (Expr.ofValues vs) i).toLua site) notes x notes')
    : ∃ v, vs[i]? = some v ∧ Runs ((Expr.ofValue v).toLua site) notes x notes' := by
  unfold Expr.operand at h
  rw [ofValues_eq, List.getElem?_map] at h
  cases hv : vs[i]? with
  | none =>
    rw [hv] at h
    exact absurd h runs_malformed
  | some v =>
    rw [hv] at h
    exact ⟨v, rfl, h⟩

end

theorem eq_cons_of_getElem? {vs : List Value} {v : Value} (h : vs[0]? = some v)
    : ∃ rest, vs = v :: rest := by
  cases vs with
  | nil => simp at h
  | cons w vs =>
    simp only [List.getElem?_cons_zero, Option.some.injEq] at h
    exact ⟨vs, by rw [h]⟩

theorem eq_cons_cons_of_getElem? {vs : List Value} {v w : Value} (hv : vs[0]? = some v)
    (hw : vs[1]? = some w) : ∃ rest, vs = v :: w :: rest := by
  obtain ⟨us, rfl⟩ := eq_cons_of_getElem? hv
  rw [List.getElem?_cons_succ] at hw
  obtain ⟨rest, rfl⟩ := eq_cons_of_getElem? hw
  exact ⟨rest, rfl⟩

/-- What is written for a value is well-formed code, which stands as it is beside an operator, and
is what the value stands for. -/
def Sound (site : Site) (v : Value) : Prop :=
  ∀ notes x notes', Runs ((Expr.ofValue v).toLua site) notes x notes' →
    ∃ new, notes' = notes ++ new ∧ x.Fits ∧ Lua.unaryPriority < x.rank ∧
      ExprMeans site v x.term new

theorem place_rank (n : String) : Lua.unaryPriority < (Variable.place n).rank := by
  unfold Variable.place
  split <;> exact Nat.lt_succ_self _

theorem symbol_eq {word : String} {op : Operator} (h : Operator.ofWord? word = some op)
    : op.symbol = operatorOf word := by
  unfold Operator.ofWord? at h
  split at h <;> cases h <;> rfl

theorem symbol_isOperator (op : Operator)
    : Lua.isOperator op.symbol ∧ Lua.Expr.reach op.symbol ≤ Lua.unaryPriority := by
  cases op <;> decide

theorem group_binary_fits (op : Operator) {l r : Lua.Expr} (hl : l.Fits) (hr : r.Fits)
    (hleft : Lua.unaryPriority < l.rank) (hright : Lua.unaryPriority < r.rank)
    : (Lua.Expr.group (.binary op.symbol l r)).Fits := by
  obtain ⟨hop, hreach⟩ := symbol_isOperator op
  exact .group (.binary hop hleft (Nat.lt_of_le_of_lt hreach hright) hl hr)

theorem localName_eq {word : String} {f : Function} (h : Function.ofWord? word = some f)
    : f.localName = "__" ++ word ∧ Lua.isName f.localName := by
  unfold Function.ofWord? at h
  split at h <;> cases h <;> exact ⟨rfl, rfl⟩

theorem means_all {site : Site} {vs : List Value} (hvs : ∀ v ∈ vs, Sound site v)
    {notes notes' : List Note} {xs : List Lua.Expr}
    (h : Runs (Expr.allToLua site (Expr.ofValues vs)) notes xs notes')
    : ∃ parts : List Written, vs = parts.map (·.value) ∧ xs.map (·.term) = parts.map (·.term) ∧
        notes' = notes ++ parts.flatMap (·.notes) ∧ (∀ x ∈ xs, x.Fits) ∧
        ∀ p ∈ parts, ExprMeans site p.value p.term p.notes := by
  induction vs generalizing notes xs with
  | nil =>
    rw [Expr.ofValues, Expr.allToLua, runs_pure] at h
    obtain ⟨rfl, rfl⟩ := h
    exact ⟨[], by simp⟩
  | cons v vs ih =>
    simp only [Expr.ofValues, Expr.allToLua, runs_bind, runs_pure] at h
    obtain ⟨x, mid, hx, ys, mid', hxs, rfl, rfl⟩ := h
    obtain ⟨new, rfl, hfits, -, hmeans⟩ := hvs v (by simp) _ _ _ hx
    obtain ⟨parts, rfl, hterms, rfl, hall, hparts⟩ := ih (fun w hw => hvs w (by simp [hw])) hxs
    refine ⟨⟨v, x.term, new⟩ :: parts, by simp, by simp [hterms], by simp, ?_, ?_⟩
    . simpa [hfits] using hall
    . simpa [hmeans] using hparts

theorem formatted_means {site : Site} {parts : List Written} {xs : List Lua.Expr}
    (hterms : xs.map (·.term) = parts.map (·.term)) (hfits : ∀ x ∈ xs, x.Fits)
    (h : ∀ p ∈ parts, ExprMeans site p.value p.term p.notes)
    : (formatted xs).Fits ∧ Lua.unaryPriority < (formatted xs).rank ∧
        ExprMeans site (.list (.text "fmt" :: parts.map (·.value))) (formatted xs).term
          (parts.flatMap (·.notes)) := by
  cases xs with
  | nil =>
    obtain rfl : parts = [] := by simpa using hterms.symm
    exact ⟨.string, Nat.lt_succ_self _, .formatNothing⟩
  | cons x xs =>
    have hne : parts ≠ [] := by
      rintro rfl
      cases hterms
    have hcalls : ∀ p ∈ (x :: xs).map fun p => Lua.Expr.call (.name "__tostring") [p], p.Fits ∧
        Lua.unaryPriority < p.rank := by
      intro p hp
      obtain ⟨y, hy, rfl⟩ := List.mem_map.mp hp
      exact ⟨.call rfl (.name rfl) (by simpa using hfits y hy), Nat.lt_succ_self _⟩
    have hterm : (formatted (x :: xs)).term = .group (Lua.concatTerm
        (parts.map fun p => .call (.name "__tostring") [p.term])) := by
      have hmap : (x :: xs).map (fun p => (Lua.Expr.call (.name "__tostring") [p]).term) =
          (parts.map (·.term)).map fun t => .call (.name "__tostring") [t] := by
        rw [← hterms, List.map_map]
        rfl
      rw [formatted, Lua.Expr.term, Lua.Expr.term, Lua.Expr.terms_eq, List.map_map]
      . rw [List.map_map] at hmap
        exact congrArg _ (congrArg _ hmap)
      . simp
    rw [hterm]
    refine ⟨?_, Nat.lt_succ_self _, .format hne h⟩
    exact .group (.concat (by simp) (fun p hp => (hcalls p hp).2) fun p hp => (hcalls p hp).1)

theorem means_pair {site : Site} {operands : List Value} (hs : ∀ v ∈ operands, Sound site v)
    {notes mid notes' : List Note} {l r : Lua.Expr}
    (hl : Runs ((Expr.operand (Expr.ofValues operands) 0).toLua site) notes l mid)
    (hr : Runs ((Expr.operand (Expr.ofValues operands) 1).toLua site) mid r notes')
    : ∃ v w rest ns ms, operands = v :: w :: rest ∧ notes' = notes ++ (ns ++ ms) ∧
        (l.Fits ∧ Lua.unaryPriority < l.rank ∧ ExprMeans site v l.term ns) ∧
        (r.Fits ∧ Lua.unaryPriority < r.rank ∧ ExprMeans site w r.term ms) := by
  obtain ⟨v, hv, hl⟩ := runs_operand hl
  obtain ⟨w, hw, hr⟩ := runs_operand hr
  obtain ⟨rest, rfl⟩ := eq_cons_cons_of_getElem? hv hw
  obtain ⟨ns, rfl, hleft⟩ := hs v (by simp) _ _ _ hl
  obtain ⟨ms, rfl, hright⟩ := hs w (by simp) _ _ _ hr
  exact ⟨v, w, rest, ns, ms, rfl, List.append_assoc .., hleft, hright⟩

theorem means_operation {site : Site} (word : String) {operands : List Value}
    (hs : ∀ v ∈ operands, Sound site v) {notes notes' : List Note} {x : Lua.Expr}
    (h : Runs ((Expr.operation word operands (Expr.ofValues operands)).toLua site) notes x notes')
    : ∃ new, notes' = notes ++ new ∧ x.Fits ∧ Lua.unaryPriority < x.rank ∧
        ExprMeans site (.list (.text word :: operands)) x.term new := by
  unfold Expr.operation at h
  -- the words in the order of `Expr.operation`: those that take a name come first
  split at h
  . obtain ⟨s, rest, rfl, hmake⟩ := runs_named h
    clear h
    simp only [Expr.toLua, runs_bind, runs_pure, runs_note] at hmake
    obtain ⟨-, mid, rfl, rfl, rfl⟩ := hmake
    exact ⟨_, rfl, Variable.place_fits s, place_rank s, .var⟩
  . obtain ⟨s, rest, rfl, hmake⟩ := runs_named h
    clear h
    rw [Expr.toLua] at hmake
    split at hmake
    . next id hid =>
      rw [runs_pure] at hmake
      obtain ⟨rfl, rfl⟩ := hmake
      exact ⟨[], by simp, .numeral (Lua.isSigned_int id), Nat.lt_succ_self _, .tile hid⟩
    . next hid =>
      simp only [runs_bind, runs_pure, runs_note] at hmake
      obtain ⟨-, mid, rfl, rfl, rfl⟩ := hmake
      exact ⟨_, rfl, .nil, Nat.lt_succ_self _, .unknownTile hid⟩
  . obtain ⟨s, rest, rfl, hmake⟩ := runs_named h
    clear h
    rw [Expr.toLua, runs_pure] at hmake
    obtain ⟨rfl, rfl⟩ := hmake
    exact ⟨[], by simp, .field rfl (.name rfl), Nat.lt_succ_self _, .event⟩
  . simp only [Expr.toLua, runs_bind, runs_pure] at h
    obtain ⟨xs, mid, hxs, rfl, rfl⟩ := h
    obtain ⟨parts, rfl, hterms, rfl, hfits, hparts⟩ := means_all hs hxs
    obtain ⟨hfit, hrank, hmeans⟩ := formatted_means hterms hfits hparts
    exact ⟨_, rfl, hfit, hrank, hmeans⟩
  . simp only [Expr.toLua, runs_bind, runs_pure] at h
    obtain ⟨l, mid, hl, r, mid', hr, rfl, rfl⟩ := h
    obtain ⟨v, w, rest, ns, ms, rfl, rfl, ⟨hlfits, -, hlmeans⟩, hrfits, -, hrmeans⟩ :=
      means_pair hs hl hr
    refine ⟨ns ++ ms, rfl, ?_, Nat.lt_succ_self _, .random hlmeans hrmeans⟩
    exact .call rfl (.name rfl) (by simp [hlfits, hrfits])
  . next hvar hid hevent hfmt hrandom =>
    -- a word without a case of its own: an operator, a function, or none that is known
    split at h
    . next op hop =>
      simp only [Expr.toLua, runs_bind, runs_pure] at h
      obtain ⟨l, mid, hl, r, mid', hr, rfl, rfl⟩ := h
      obtain ⟨v, w, rest, ns, ms, rfl, rfl, ⟨hlfits, hlrank, hlmeans⟩, hrfits, hrrank, hrmeans⟩ :=
        means_pair hs hl hr
      refine ⟨ns ++ ms, rfl, group_binary_fits op hlfits hrfits hlrank hrrank,
        Nat.lt_succ_self _, ?_⟩
      rw [symbol_eq hop]
      exact .binary (by rw [hop]; rfl) hlmeans hrmeans
    . next f hop hf =>
      simp only [Expr.toLua, runs_bind, runs_pure] at h
      obtain ⟨y, mid, hy, rfl, rfl⟩ := h
      obtain ⟨v, hv, hy⟩ := runs_operand hy
      obtain ⟨rest, rfl⟩ := eq_cons_of_getElem? hv
      obtain ⟨ns, rfl, hfits, -, hmeans⟩ := hs v (by simp) _ _ _ hy
      obtain ⟨hname, hisName⟩ := localName_eq hf
      refine ⟨ns, rfl, .call rfl (.name hisName) (by simp [hfits]), Nat.lt_succ_self _, ?_⟩
      rw [hname]
      exact .apply (by rw [hf]; rfl) hmeans
    . next hop hf =>
      simp only [Expr.toLua, runs_bind, runs_pure, runs_note] at h
      obtain ⟨-, mid, rfl, rfl, rfl⟩ := h
      refine ⟨_, rfl, .nil, Nat.lt_succ_self _, .unsupported ?_⟩
      simp_all [isExprWord]

mutual

theorem sound (site : Site) : (v : Value) → Sound site v
  | .null => by
    intro notes x notes' h
    rw [Expr.ofValue, Expr.toLua, runs_pure] at h
    obtain ⟨rfl, rfl⟩ := h
    exact ⟨[], by simp, .nil, Nat.lt_succ_self _, .null⟩
  | .boolean b => by
    intro notes x notes' h
    rw [Expr.ofValue, Expr.toLua, runs_pure] at h
    obtain ⟨rfl, rfl⟩ := h
    exact ⟨[], by simp, .boolean, Nat.lt_succ_self _, .boolean⟩
  | .number n => by
    intro notes x notes' h
    rw [Expr.ofValue, Expr.toLua, runs_pure] at h
    obtain ⟨rfl, rfl⟩ := h
    exact ⟨[], by simp, .numeral (Lua.isSigned_number n), Nat.lt_succ_self _, .number⟩
  | .text s => by
    intro notes x notes' h
    rw [Expr.ofValue, Expr.toLua, runs_pure] at h
    obtain ⟨rfl, rfl⟩ := h
    exact ⟨[], by simp, .string, Nat.lt_succ_self _, .text⟩
  | .object members => by
    intro notes x notes' h
    rw [Expr.ofValue] at h
    exact absurd h runs_malformed
  | .list (.text word :: operands) => by
    intro notes x notes' h
    rw [Expr.ofValue] at h
    exact means_operation word (sound_all site operands) h
  | .list [] => by
    intro notes x notes' h
    rw [Expr.ofValue] at h
    . exact absurd h runs_malformed
    . simp
  | .list (.null :: _) | .list (.boolean _ :: _) | .list (.number _ :: _) | .list (.list _ :: _)
  | .list (.object _ :: _) => by
    intro notes x notes' h
    rw [Expr.ofValue] at h
    . exact absurd h runs_malformed
    . simp

theorem sound_all (site : Site) : (vs : List Value) → ∀ v ∈ vs, Sound site v
  | [] => by simp
  | v :: vs => by
    intro w hw
    rcases List.mem_cons.mp hw with heq | hw
    . rw [heq]
      exact sound site v
    . exact sound_all site vs w hw

end

end PulpGame.Block
