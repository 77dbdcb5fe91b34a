import PulpGame.Proofs.Script.Compilation

namespace PulpGame

namespace Script

def bind (n : String) : Lua.Stat := .action (.assign (.name n) (Program.script n))

theorem mem_registration {name : String} {owner : Owner} {id : Int} {st : Lua.Stat}
    : st ∈ registration name owner id ↔
        st = Program.runtimeCall "newScript" [.string name] ∨
        Lua.isName name ∧ st = bind name ∨
        st = Program.runtimeCall "associateScript"
          [.string name, .string owner.word, .numeral (toString id)] := by
  unfold registration bind
  split
  . next h => simp [h]
  . next h => simp [h]

theorem registration_fits (name : String) (owner : Owner) (id : Int)
    : ∀ st ∈ registration name owner id, st.Fits ∧ st.isLast = false := by
  intro st hst
  rcases mem_registration.mp hst with rfl | ⟨hname, rfl⟩ | rfl
  . exact ⟨Program.runtimeCall_fits rfl (by simp [Lua.Expr.Fits.string]), rfl⟩
  . exact ⟨.action (.assign rfl (.name hname) (Program.script_fits name)), rfl⟩
  . refine ⟨Program.runtimeCall_fits rfl ?_, rfl⟩
    simp only [List.forall_mem_cons, List.not_mem_nil, false_implies, implies_true, and_true]
    exact ⟨.string, .string, .numeral (Lua.isSigned_int id)⟩

namespace Parts

variable {p : Parts} {doc : Document} {tileId? : String → Option Int} {script : Script}

def code (p : Parts) (id : Int) : List Lua.Stat :=
  registration p.name p.owner id ++ p.handlers.map (·.code)

theorem code_fits (h : p.Compile doc tileId? script)
    : ∀ st ∈ p.code script.id, st.Fits ∧ st.isLast = false := by
  simp only [code, List.mem_append, List.mem_map]
  rintro st (hst | ⟨c, hc, rfl⟩)
  . exact registration_fits _ _ _ st hst
  . obtain ⟨body, new, -, hfits, hlast, -⟩ := Block.runs_handler (h.handlers_compile c hc)
    exact ⟨hfits, hlast⟩

theorem mem_statements_code (h : p.Compile doc tileId? script) {s : Lua.Statement}
    (hs : s ∈ Lua.Stat.statementsAll (p.code script.id))
    : (∃ st ∈ registration p.name p.owner script.id, s ∈ st.statements) ∨
        ∃ event body, s = .assign [Block.handlerPlace p.name event] [Block.handlerFunction body] := by
  rw [Lua.Stat.statementsAll_eq, List.mem_flatMap] at hs
  obtain ⟨st, hst, hs⟩ := hs
  rcases List.mem_append.mp hst with hst | hst
  . exact .inl ⟨st, hst, hs⟩
  . obtain ⟨c, hc, rfl⟩ := List.mem_map.mp hst
    obtain ⟨body, new, -, -, -, hstatements, -⟩ := Block.runs_handler (h.handlers_compile c hc)
    rw [hstatements, List.mem_singleton] at hs
    exact .inr ⟨c.event, body, hs⟩

theorem spells_code (h : p.Compile doc tileId? script)
    : Lua.Spells Lua.anyChar (p.compiled script.id).code (Lua.Stat.tokensAll (p.code script.id)) := by
  have hhandlers : Lua.Spells Lua.anyChar
      (String.join (p.handlers.map fun c => "\n" ++ Lua.chunkText [c.code]))
      (p.handlers.flatMap (·.code.tokens)) := by
    apply Lua.Spells.join_map
    intro c hc
    have hmem : c.code ∈ p.code script.id :=
      List.mem_append_right _ (List.mem_map_of_mem hc)
    have hfits : ∀ st ∈ [c.code], st.Fits := by simpa using (code_fits h c.code hmem).1
    have := Lua.spells_break.append_anyChar (Lua.spells_chunk hfits)
    simpa [Lua.Stat.tokensAll] using this
  have hregistration := Lua.spells_chunk fun st hst =>
    (registration_fits p.name p.owner script.id st hst).1
  have := hregistration.append_anyChar hhandlers
  simpa [compiled, codeText, code, Lua.Stat.tokensAll_eq, List.flatMap_def, Function.comp_def]
    using this

theorem parse_code (h : p.Compile doc tileId? script)
    : Lua.parse (p.compiled script.id).code =
        some (Lua.Stat.statementsAll (p.code script.id)) := by
  apply Lua.parse_spelled (spells_code h)
  . exact fun st hst => (code_fits h st hst).1
  . intro st hst
    simp [(code_fits h st (List.dropLast_subset _ hst)).2]

end Parts

end Script

end PulpGame
