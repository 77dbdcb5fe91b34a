import PulpGame.Proofs.Script.Code
import PulpGame.Proofs.Variable.Coverage
import PulpGame.Proofs.Variable.Naming

namespace PulpGame

open Variable (isBare needsNamespace namespaced reserved shadowed)

namespace Script

def BindsIn (statements : List Lua.Statement) (n : String) : Prop :=
  .assign [.name n] [.invoke (.name "__pulp") "getScript" [.string n]] ∈ statements

theorem Parts.bindsIn_code {p : Parts} {doc : Document} {tileId? : String → Option Int}
    {script : Script} (h : p.Compile doc tileId? script) (n : String)
    : BindsIn (Lua.Stat.statementsAll (p.code script.id)) n ↔ Lua.isName n ∧ n = p.name := by
  constructor
  . intro hbinds
    rcases mem_statements_code h hbinds with ⟨st, hst, hmem⟩ | ⟨event, body, heq⟩
    . rcases mem_registration.mp hst with rfl | ⟨hname, rfl⟩ | rfl
      . simp [Program.runtimeCall, Lua.Stat.statements, Lua.Action.statement] at hmem
      . simp only [bind, Lua.Stat.statements, Lua.Action.statement, List.mem_singleton,
          Lua.Expr.term, Lua.Statement.assign.injEq, List.cons.injEq, Lua.Term.name.injEq] at hmem
        obtain ⟨⟨rfl, -⟩, -⟩ := hmem
        exact ⟨hname, rfl⟩
      . simp [Program.runtimeCall, Lua.Stat.statements, Lua.Action.statement] at hmem
    . simp [Block.handlerPlace] at heq
  . rintro ⟨hname, rfl⟩
    have hbind : bind p.name ∈ p.code script.id :=
      List.mem_append_left _ (mem_registration.mpr (.inr (.inl ⟨hname, rfl⟩)))
    rw [BindsIn, Lua.Stat.statementsAll_eq, List.mem_flatMap]
    exact ⟨bind p.name, hbind, List.mem_singleton.mpr rfl⟩

end Script

structure Script.IsBound (doc : Document) (script : Script) (c : CompiledScript) : Prop where
  named : ∃ owner extra, Owner.ofNat? script.kind = some owner ∧
    IsNamed doc owner script.id c.name extra
  binds : ∃ statements, Lua.parse c.code = some statements ∧
    ∀ n, BindsIn statements n ↔ Lua.isName n ∧ n = c.name

theorem Script.IsBound.binds_owner {doc : Document} {script : Script} {c : CompiledScript}
    {owner : Owner} {n : String} (h : script.IsBound doc c)
    (howner : Owner.ofNat? script.kind = some owner) (hn : ownerName? doc owner script.id = some n)
    (hname : Lua.isName n)
    : ∃ statements, Lua.parse c.code = some statements ∧ BindsIn statements n := by
  obtain ⟨owner', extra, howner', hnamed⟩ := h.named
  obtain rfl : owner = owner' := Option.some.inj (howner.symm.trans howner')
  obtain ⟨statements, hparse, hbinds⟩ := h.binds
  refine ⟨statements, hparse, (hbinds n).mpr ⟨hname, ?_⟩⟩
  rcases hnamed with ⟨hsome, -⟩ | ⟨hnone, -⟩
  . exact Option.some.inj (hn.symm.trans hsome)
  . rw [hn] at hnone
    cases hnone

namespace Program

def declared? : Lua.Stat → Option String
  | .action (.declare n _) => some n
  | .action (.declareConst n _) => some n
  | _ => none

def locals (doc : Document) : List String := (preamble doc).filterMap declared?

theorem locals_eq (doc : Document) : locals doc = aliases.filterMap declared? := rfl

theorem needsNamespace_of_local {doc : Document} {n : String} (h : n ∈ locals doc)
    : needsNamespace n := by
  have hall : (aliases.filterMap declared?).all needsNamespace := by decide
  exact List.all_eq_true.mp hall n (locals_eq doc ▸ h)

end Program

/-- The name is free for a script: the program reads nothing of its own by it, and neither a local
of the preamble nor a variable of the game is kept under it. -/
structure Product.LeavesFree (doc : Document) (product : Product) (n : String) : Prop where
  not_shadowed : n ∉ shadowed
  not_local : n ∉ Program.locals doc
  not_fast : n ∉ product.storage.fast
  not_key : ∀ v ∈ product.storage.dynamic, namespaced v ≠ n

/-- What makes a name free, as it can be seen in the document. A name that variables can have must
not be that of a variable; of those that variables are kept away from, it must not be one that the
program uses. -/
def Document.IsFree (doc : Document) (n : String) : Prop :=
  if needsNamespace n then
    n ∉ shadowed ∧ n ∉ Program.locals doc ∧
      ∀ v, doc.Mentions Block.statementVariables v → needsNamespace v → reserved ++ v ≠ n
  else ¬doc.Mentions Block.statementVariables n

namespace Makings.Make

variable {doc : Document} {m : Makings doc} {settings : Settings} {product : Product}

theorem leavesFree_iff_keys (h : m.Make settings product) (n : String)
    : product.LeavesFree doc n ↔ n ∉ shadowed ∧ n ∉ Program.locals doc ∧
        ∀ v, doc.Mentions Block.statementVariables v → namespaced v ≠ n := by
  have hfast (v : String) (hv : v ∈ product.storage.fast) : namespaced v = v :=
    Variable.namespaced_of_isBare (h.isBare_fast v hv)
  have hmentions (v : String) : doc.Mentions Block.statementVariables v ↔
      v ∈ product.storage.fast ∨ v ∈ product.storage.dynamic := by
    rw [← h.mem_all, Variable.Storage.all, List.mem_append]
  constructor
  . intro hfree
    refine ⟨hfree.not_shadowed, hfree.not_local, ?_⟩
    intro v hv
    rcases (hmentions v).mp hv with hv | hv
    . rw [hfast v hv]
      rintro rfl
      exact hfree.not_fast hv
    . exact hfree.not_key v hv
  . rintro ⟨hshadowed, hlocal, hkeys⟩
    refine ⟨hshadowed, hlocal, ?_, ?_⟩
    . intro hn
      exact hkeys n ((hmentions n).mpr (.inl hn)) (hfast n hn)
    . intro v hv
      exact hkeys v ((hmentions v).mpr (.inr hv))

theorem leavesFree_iff (h : m.Make settings product) (n : String)
    : product.LeavesFree doc n ↔ doc.IsFree n := by
  rw [h.leavesFree_iff_keys, Document.IsFree]
  -- A name that needs a namespace can only be the key of a variable that needs one, too.
  split
  . next hn =>
    refine and_congr_right fun _ => and_congr_right fun _ => forall_congr' fun v => ?_
    refine forall_congr' fun _ => ?_
    rw [namespaced]
    split
    . next hv => simp [hv]
    . next hv =>
      have hne : v ≠ n := by
        rintro rfl
        exact hv hn
      simp [hv, hne]
  . next hn =>
    have hshadowed : n ∉ shadowed := by
      intro hmem
      simp [needsNamespace, hmem] at hn
    have hlocal : n ∉ Program.locals doc := fun hmem => hn (Program.needsNamespace_of_local hmem)
    simp only [hshadowed, hlocal, not_false_eq_true, true_and]
    constructor
    . intro hkeys hmention
      exact hkeys n hmention (Variable.namespaced_of_not (by simpa using hn))
    . rintro hmention v hv rfl
      cases hneeds : needsNamespace v with
      | true =>
        have := Variable.needsNamespace_namespaced hneeds
        simp [needsNamespace, this] at hn
      | false =>
        rw [Variable.namespaced_of_not hneeds] at hmention
        exact hmention hv

theorem isBound (h : m.Make settings product)
    : List.Forall₂ (Script.IsBound doc) doc.scripts (m.sections settings product.storage).scripts := by
  rw [h.scripts_eq, sections, List.forall₂_map_left_iff, List.forall₂_map_right_iff,
    List.forall₂_same]
  intro i hi
  have hcompile := h.items_compile i hi
  exact {
    named := ⟨_, _, hcompile.owner_eq, hcompile.named⟩
    binds := ⟨_, Script.Parts.parse_code hcompile, Script.Parts.bindsIn_code hcompile⟩ }

end Makings.Make

/-- Every script whose name can be one in Lua is bound to it, whether or not the name is free. It is
free exactly if the document leaves it free. -/
theorem bindings_free {doc : Document} {settings : Settings} {product : Product}
    {journal journal' : List Journal.Entry}
    (h : doc.build settings journal = (.ok product, journal'))
    : ∃ parts : Sections, product.program = Program.text doc parts ∧
        List.Forall₂ (Script.IsBound doc) doc.scripts parts.scripts ∧
        ∀ n, product.LeavesFree doc n ↔ doc.IsFree n := by
  obtain ⟨m, hm⟩ := Document.build_eq_ok h
  exact ⟨_, hm.program_eq, hm.isBound, hm.leavesFree_iff⟩

theorem bindings_free_coins
    : ∃ product journal', coinDocument.build {} [] = (.ok product, journal') ∧
        ∃ parts : Sections, product.program = Program.text coinDocument parts ∧
          List.Forall₂ (Script.IsBound coinDocument) coinDocument.scripts parts.scripts ∧
          ¬product.LeavesFree coinDocument "coins" ∧ product.LeavesFree coinDocument "game" := by
  obtain ⟨product, journal', hbuild, hstorage⟩ := coinDocument_builds
  obtain ⟨parts, hprogram, hscripts, -⟩ := bindings_free hbuild
  refine ⟨product, journal', hbuild, parts, hprogram, hscripts, ?_, ?_⟩
  . intro hfree
    exact hfree.not_fast (by rw [hstorage]; decide)
  . constructor <;> try rw [hstorage]
    all_goals decide

def clashDocument : Document where
  name := "clash"
  player := ⟨0, 0, 0, 0⟩
  font := ⟨1, [], []⟩
  frames := []
  tiles := ["type", "__floor", "score"].zipIdx.map fun (name, i) =>
    some ⟨i, name, ⟨0⟩, 0, 0, false, none, []⟩
  rooms := []
  sounds := []
  scripts := [⟨0, 2, none⟩, ⟨1, 2, none⟩, ⟨2, 2, some [("load", Block.blockRef 0),
    (Script.blocksKey, .list [.list [.list [.text "inc", .text "score"]]])]⟩]

theorem clashDocument_builds
    : ∃ product journal', clashDocument.build {} [] = (.ok product, journal') ∧
        product.storage = ⟨["score"], []⟩ := by
  have hcompiles : clashDocument.compiles ["score"] := by decide +kernel
  apply Document.build_succeeds hcompiles
  rw [Variable.Storage.allot, Variable.ranked_of_sorted (by decide) (by decide)]
  rfl

theorem bindings_clash
    : ∃ product journal', clashDocument.build {} [] = (.ok product, journal') ∧
        ∃ parts : Sections, product.program = Program.text clashDocument parts ∧
          ∀ n ∈ ["type", "__floor", "score"], ¬product.LeavesFree clashDocument n ∧
            ∃ c ∈ parts.scripts, ∃ statements, Lua.parse c.code = some statements ∧
              Script.BindsIn statements n := by
  obtain ⟨product, journal', hbuild, hstorage⟩ := clashDocument_builds
  obtain ⟨m, hm⟩ := Document.build_eq_ok hbuild
  refine ⟨product, journal', hbuild, _, hm.program_eq, ?_⟩
  have hbound := hm.isBound
  generalize (m.sections {} product.storage).scripts = scripts at hbound
  obtain _ | ⟨htype, _ | ⟨hfloor, _ | ⟨hscore, _ | _⟩⟩⟩ := hbound
  simp only [List.forall_mem_cons, List.not_mem_nil, false_implies, implies_true, and_true]
  refine ⟨⟨?_, _, by simp, htype.binds_owner rfl rfl rfl⟩,
    ⟨?_, _, by simp, hfloor.binds_owner rfl rfl rfl⟩, ?_, _, by simp, hscore.binds_owner rfl rfl rfl⟩
  . exact fun hfree => hfree.not_shadowed (by decide)
  . exact fun hfree => hfree.not_local (by decide)
  . exact fun hfree => hfree.not_fast (by rw [hstorage]; decide)

end PulpGame
