import PulpGame.Variable.Storage
import PulpGame.Proofs.Lua.Chunk

namespace PulpGame.Program

theorem runtimeField_fits (name : String) : (runtimeField name).Fits :=
  .field rfl (.name rfl)

theorem runtimeCall_fits {method : String} {xs : List Lua.Expr} (hmethod : Lua.isName method)
    (hxs : ∀ x ∈ xs, x.Fits) : (runtimeCall method xs).Fits :=
  .action (.call rfl (.invoke rfl (.name rfl) hmethod hxs))

theorem script_fits (name : String) : (script name).Fits :=
  .invoke rfl (.name rfl) rfl (by simp [Lua.Expr.Fits.string])

end PulpGame.Program

namespace PulpGame.Variable

theorem isName_of_isBare {n : String} (h : isBare n) : Lua.isName n := by
  simp only [isBare, Bool.and_eq_true] at h
  exact h.1

theorem place_fits (n : String) : (place n).Fits := by
  unfold place
  split
  . next h => exact .name (isName_of_isBare h)
  . exact .index rfl (.name rfl) .string

theorem place_isPlace (n : String) : (place n).isPlace := by
  unfold place
  split <;> rfl

theorem isCall_place (n : String) : (place n).term.isCall = false := by
  unfold place
  split <;> rfl

theorem numeral_zero_fits : (Lua.Expr.numeral "0").Fits :=
  .numeral (.plain (Lua.isDecimal_nat 0))

theorem reset_fits (n : String) : (Storage.reset n).Fits :=
  .action (.assign (place_isPlace n) (place_fits n) numeral_zero_fits)

theorem asked_fits : Storage.asked.Fits := .name rfl

theorem namespacing_fits : Storage.namespacing.Fits := by
  apply Lua.Stat.Fits.branchAction
  . have hfind : (Lua.Expr.invoke Storage.asked "find" [.string reserved]).Fits :=
      .invoke rfl asked_fits rfl (by simp [Lua.Expr.Fits.string])
    have hindex : (Lua.Expr.index Storage.shadowedTable Storage.asked).Fits :=
      .index rfl (Program.runtimeField_fits _) asked_fits
    exact .binary rfl (by decide) (by decide) hfind hindex
  . apply Lua.Action.Fits.assign rfl asked_fits
    apply Lua.Expr.Fits.concat (by simp)
    . simp [Storage.asked, Lua.Expr.rank]
    . simp [asked_fits, Lua.Expr.Fits.string]
  . rfl

theorem dispatch_fits {s : Storage} {own : String → Lua.Action} {other : Lua.Action}
    (hown : ∀ n ∈ s.fast, (own n).Fits) (hother : other.Fits) : (s.dispatch own other).Fits := by
  have harms : ∀ a ∈ s.fast.map fun n => (Lua.Expr.binary "==" Storage.asked (.string n), own n),
      a.1.Fits ∧ a.2.Fits := by
    intro a ha
    obtain ⟨n, hn, rfl⟩ := List.mem_map.mp ha
    have hreach : Lua.Expr.reach "==" < (Lua.Expr.string n).rank := by
      change Lua.Expr.reach "==" < Lua.unaryPriority + 1
      decide
    exact ⟨.binary rfl (by decide) hreach asked_fits .string, hown n hn⟩
  unfold Storage.dispatch
  split
  . exact .action hother
  . next first others hsplit =>
    rw [hsplit] at harms
    exact .choose (harms first (by simp)) (fun a ha => harms a (by simp [ha])) hother

theorem dispatch_isLast {s : Storage} {own : String → Lua.Action} {other : Lua.Action}
    : ∀ st ∈ [Storage.namespacing, s.dispatch own other].dropLast, !st.isLast := by
  simp [Storage.namespacing, Lua.Stat.isLast]

theorem declare_fits {s : Storage} (h : ∀ n ∈ s.fast, isBare n) : ∀ st ∈ s.declare, st.Fits := by
  simp only [Storage.declare, List.mem_append, List.mem_map]
  rintro st (⟨n, hn, rfl⟩ | ⟨n, hn, rfl⟩)
  . exact .action (.declare (isName_of_isBare (h n hn)) numeral_zero_fits)
  . exact reset_fits n

theorem access_fits {s : Storage} (h : ∀ n ∈ s.fast, isBare n) : ∀ st ∈ s.access, st.Fits := by
  have hname {n : String} (hn : n ∈ s.fast) : (Lua.Expr.name n).Fits :=
    .name (isName_of_isBare (h n hn))
  have hvalue : (Lua.Expr.name "value").Fits := .name rfl
  have hglobal : (Lua.Expr.index (.name "_G") Storage.asked).Fits :=
    .index rfl (.name rfl) asked_fits
  have hbody {own : String → Lua.Action} {other : Lua.Action} (hown : ∀ n ∈ s.fast, (own n).Fits)
      (hother : other.Fits) : ∀ st ∈ [Storage.namespacing, s.dispatch own other], st.Fits := by
    simp [namespacing_fits, dispatch_fits hown hother]
  simp only [Storage.access, List.forall_mem_cons, List.not_mem_nil, false_implies, implies_true,
    and_true]
  refine ⟨?_, ?_, ?_, ?_⟩
  . apply Lua.Stat.Fits.action
    apply Lua.Action.Fits.assign rfl (Program.runtimeField_fits _)
    apply Lua.Expr.Fits.tableOf
    . simp only [List.mem_map]
      rintro f ⟨n, hn, rfl⟩
      have hall : shadowed.all Lua.isName := by decide
      exact List.all_eq_true.mp hall n hn
    . simp [Lua.Expr.Fits.boolean]
  . apply Lua.Stat.Fits.define rfl (Program.runtimeField_fits _) (by decide) _ dispatch_isLast
    exact hbody (fun n hn => .assign rfl (hname hn) hvalue) (.assign rfl hglobal hvalue)
  . apply Lua.Stat.Fits.define rfl (Program.runtimeField_fits _) (by decide) _ dispatch_isLast
    exact hbody (fun n hn => .giveBack (hname hn)) (.giveBack hglobal)
  . apply Lua.Stat.Fits.define rfl (Program.runtimeField_fits _) (by decide)
    . simp only [List.mem_map]
      rintro st ⟨n, -, rfl⟩
      exact reset_fits n
    . intro st hst
      obtain ⟨n, -, rfl⟩ := List.mem_map.mp (List.dropLast_subset _ hst)
      rfl

theorem parse_declare_access {s : Storage} (h : ∀ n ∈ s.fast, isBare n)
    : Lua.parse (Lua.chunkText s.declare ++ Lua.chunkText s.access) =
        some (Lua.Stat.statementsAll (s.declare ++ s.access)) := by
  rw [← Lua.chunkText_append]
  apply Lua.parse_chunk
  . simp only [List.mem_append]
    rintro st (hst | hst)
    . exact declare_fits h st hst
    . exact access_fits h st hst
  . intro st hst
    have hst := List.dropLast_subset _ hst
    simp only [List.mem_append, Storage.declare, Storage.access, List.mem_map, List.mem_cons,
      List.not_mem_nil, or_false] at hst
    rcases hst with (⟨n, -, rfl⟩ | ⟨n, -, rfl⟩) | rfl | rfl | rfl | rfl <;> rfl

end PulpGame.Variable
