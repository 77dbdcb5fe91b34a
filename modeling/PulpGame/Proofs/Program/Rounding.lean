import PulpGame.Proofs.Block.Expression
import PulpGame.Proofs.Lua.Effects
import PulpGame.Proofs.Sheet.Places
/-!
The function that rounds numbers of a game.

It gives back the least integer that is not below its argument and a half. Rounding needs the
greatest one that is not above, so the result is too great except half way between two integers.
-/

namespace PulpGame.Program

open Json (Value)
open Lua (Scope Store Closure Statement Stat Outcome Reaches Term evaluate_global evaluate_local
  evaluate_index evaluate_string evaluate_numeral evaluate_arithmetic evaluateAll_one run_proceed
  run_declare tableOf_cons)

variable {scope before : Scope} {σ σ₁ : Store}

def Rounds (x r : ℚ) : Prop := (∃ n : ℤ, r = n) ∧ |r - x| ≤ 1 / 2

theorem ceil_int (n : ℤ) : ⌈(n : ℚ) + 1 / 2⌉ = n + 1 := by
  rw [Int.ceil_intCast_add]
  norm_num

theorem rounds_ceil (x : ℚ) : Rounds x ⌈x + 1 / 2⌉ ↔ ∃ n : ℤ, x = n + 1 / 2 := by
  constructor
  . rintro ⟨-, hnear⟩
    -- The integer is at least a half above, so it is just that.
    have hle : x + 1 / 2 ≤ ⌈x + 1 / 2⌉ := Int.le_ceil _
    have hge : (⌈x + 1 / 2⌉ : ℚ) - x ≤ 1 / 2 := (le_abs_self _).trans hnear
    refine ⟨⌈x + 1 / 2⌉ - 1, ?_⟩
    push_cast
    linarith
  . rintro ⟨n, rfl⟩
    have hceil : ⌈(n : ℚ) + 1 / 2 + 1 / 2⌉ = n + 1 := by
      rw [add_assoc, Int.ceil_intCast_add]
      norm_num
    refine ⟨⟨_, rfl⟩, ?_⟩
    rw [hceil]
    push_cast
    ring_nf
    norm_num

/-- In the store `math.ceil` is a function that gives back the least integer not below a number. -/
def HasCeiling (σ : Store) : Prop :=
  ∃ t f c, σ.getField? Lua.globals (.string "math") = some (.table t) ∧
    σ.getField? t (.string "ceil") = some (.function f) ∧ σ.closures[f]? = some c ∧
    ∀ (x : ℚ) (σ : Store), ∃ σ', Lua.enter c [.number x] σ = some ([.number ⌈x⌉], σ')

def roundingBody : List Statement :=
  [.giveBack [.call (.index (.name "math") (.string "ceil"))
    [.binary "+" (.name "x") (.numeral "0.5")]]]

def rounding (scope : Scope) : Closure := ⟨scope, ["x"], roundingBody⟩

theorem evaluate_half : Lua.evaluate scope (.numeral "0.5") σ = some (.number (1 / 2), σ) := by
  apply evaluate_numeral
  simp only [Lua.decimalValue?, Lua.Short.ofDigits, String.reduceToList]
  simp
  norm_num

theorem enter_rounding (hmath : scope.lookup "math" = none) (h : HasCeiling σ) (x : ℚ)
    (others : List Lua.Value)
    : ∃ σ', Lua.enter (rounding scope) (.number x :: others) σ =
        some ([.number ⌈x + 1 / 2⌉], σ') := by
  obtain ⟨t, f, c, ht, hf, hc, hceil⟩ := h
  obtain ⟨σ', hσ'⟩ := hceil (x + 1 / 2) (σ.addCells [.number x])
  refine ⟨σ', ?_⟩
  rw [Lua.enter_eq]
  change Option.map _ (Lua.run (scope.extend ["x"] σ.cells.length) roundingBody
    (σ.addCells [.number x])) = _
  have hlookup : (scope.extend ["x"] σ.cells.length).lookup "math" = none := by
    rw [Scope.lookup_extend_of_not_mem (by decide), hmath]
  have hargument : (scope.extend ["x"] σ.cells.length).lookup "x" = some σ.cells.length := by
    simp [Scope.extend]
  have hcell : (σ.addCells [.number x]).cell? σ.cells.length = some (.number x) := by
    simp [Store.cell?, Store.addCells]
  generalize scope.extend ["x"] σ.cells.length = inside at hlookup hargument ⊢
  have hsum : Lua.evaluate inside (.binary "+" (.name "x") (.numeral "0.5"))
      (σ.addCells [.number x]) = some (.number (x + 1 / 2), σ.addCells [.number x]) :=
    evaluate_arithmetic (evaluate_local hargument hcell) evaluate_half rfl
  have hfunction : Lua.evaluate inside (.index (.name "math") (.string "ceil"))
      (σ.addCells [.number x]) = some (.function f, σ.addCells [.number x]) :=
    evaluate_index (evaluate_global hlookup ht) (evaluate_string "ceil") hf
  have hcall := Lua.results_call hfunction (evaluateAll_one rfl hsum) hc
  rw [roundingBody,
    Lua.run_leave [] (Lua.execute_giveBack (Lua.evaluateAll_call (hcall.trans hσ')))]
  rfl

theorem preamble_split (doc : Document)
    : ∃ front back : List Statement,
        Stat.statementsAll (preamble doc) = front ++
          .declare [("__round", some "const")] [.function ["x"] false roundingBody] :: back ∧
        (∀ s ∈ front, s.isSimple ∧ "math" ∉ s.declares) ∧
        ∀ s ∈ back, s.isQuiet ∧ "__round" ∉ s.declares := by
  let other (s : Statement) : Bool := "__round" ∉ s.declares
  have hall : ∀ s ∈ Stat.statementsAll (preamble doc), s.isSimple ∧ "math" ∉ s.declares := by
    have haliases : ∀ s ∈ Stat.statementsAll aliases, s.isSimple ∧ "math" ∉ s.declares := by
      decide
    exact List.forall_mem_cons.mpr ⟨⟨rfl, List.not_mem_nil⟩, haliases⟩
  have hbehind : ∀ s ∈ ((Stat.statementsAll aliases).dropWhile other).tail,
      s.isQuiet ∧ "__round" ∉ s.declares := by
    decide
  refine ⟨(Stat.statementsAll (preamble doc)).takeWhile other, _, rfl, ?_, hbehind⟩
  intro s hs
  exact hall s ((List.takeWhile_sublist other).subset hs)

theorem preamble_reaches {doc : Document} {outcome : Outcome}
    (h : Lua.run [] (Stat.statementsAll (preamble doc)) σ = some (outcome, σ₁))
    : ∃ scope before, outcome = .proceed scope ∧ before.lookup "math" = none ∧
        Reaches scope "__round" σ₁ (rounding before) := by
  obtain ⟨front, back, hsplit, hfront, hback⟩ := preamble_split doc
  rw [hsplit, Lua.run_append, Option.bind_eq_some_iff] at h
  obtain ⟨⟨first, σ₀⟩, hrun, h⟩ := h
  obtain ⟨before, rfl, hbefore⟩ := Lua.run_simple (fun s hs => (hfront s hs).1) hrun
  obtain ⟨scope, houtcome, hreaches⟩ := Lua.reaches_declared hback h
  refine ⟨scope, before, houtcome, ?_, hreaches⟩
  rw [hbefore "math" fun s hs => (hfront s hs).2]
  rfl

theorem runs_round {site : Block.Site} {operand : Value} {rest : List Value}
    {notes notes' : List Note} {code : Lua.Expr}
    : Runs ((Block.Expr.ofValue (.list (.text "round" :: operand :: rest))).toLua site) notes code
          notes' ↔
        ∃ x, Runs ((Block.Expr.ofValue operand).toLua site) notes x notes' ∧
          code = .call (.name "__round") [x] := by
  have hcode : Block.Expr.ofValue (.list (.text "round" :: operand :: rest)) =
      .apply .round (Block.Expr.ofValue operand) := by
    rw [Block.Expr.ofValue]
    rfl
  simp only [hcode, Block.Expr.toLua, runs_bind, runs_pure]
  constructor
  . rintro ⟨x, mid, hx, rfl, rfl⟩
    exact ⟨x, hx, rfl⟩
  . rintro ⟨x, hx, rfl⟩
    exact ⟨x, notes', hx, rfl, rfl⟩

def ceiling : Closure where
  scope := []
  parameters := ["x"]
  body :=
    [.declare [("n", none)] [.numeral "0"],
      .loop (.binary ">=" (.name "n") (.name "x"))
        [.assign [.name "n"] [.binary "-" (.name "n") (.numeral "1")]],
      .loop (.binary "<" (.name "n") (.name "x"))
        [.assign [.name "n"] [.binary "+" (.name "n") (.numeral "1")]],
      .giveBack [.name "n"]]

section

def counting (σ : Store) (x : ℚ) (n : ℤ) : Store := (σ.addCells [.number x]).addCells [.number n]

def countingScope (a : Nat) : Scope := [("n", a + 1), ("x", a)]

variable {x : ℚ} {n : ℤ}

theorem cell?_counting
    : (counting σ x n).cell? σ.cells.length = some (.number x) ∧
        (counting σ x n).cell? (σ.cells.length + 1) = some (.number n) := by
  constructor <;> simp [Store.cell?, counting, Store.addCells]

theorem setCell_counting (m : ℤ)
    : (counting σ x n).setCell (σ.cells.length + 1) (.number m) = counting σ x m := by
  simp [counting, Store.setCell, Store.addCells]

theorem evaluate_counting {op : String} {v : Lua.Value} (h : Lua.arithmetic? op n x = some v)
    : Lua.evaluate (countingScope σ.cells.length) (.binary op (.name "n") (.name "x"))
        (counting σ x n) = some (v, counting σ x n) :=
  evaluate_arithmetic (evaluate_local rfl cell?_counting.2) (evaluate_local rfl cell?_counting.1) h

theorem inBlock_counting {op : String} {m : ℤ} (h : Lua.arithmetic? op n 1 = some (.number m))
    : Lua._inBlock (countingScope σ.cells.length)
        [.assign [.name "n"] [.binary op (.name "n") (.numeral "1")]] (counting σ x n) =
          some (.proceed (countingScope σ.cells.length), counting σ x m) := by
  have hn : (countingScope σ.cells.length).lookup "n" = some (σ.cells.length + 1) := rfl
  have hone : Lua.evaluate (countingScope σ.cells.length) (.numeral "1") (counting σ x n) =
      some (.number 1, counting σ x n) :=
    Lua.evaluate_nat 1
  have hassign := Lua.execute_assign_local hn
    (evaluate_arithmetic (evaluate_local hn cell?_counting.2) hone h)
  rw [setCell_counting] at hassign
  apply Lua.inBlock_one hassign
  rintro _ ⟨⟩
  rfl

theorem execute_down (σ : Store) (x : ℚ) (n : ℤ)
    : ∃ m : ℤ, m < x ∧
        Lua.execute (countingScope σ.cells.length) (.loop (.binary ">=" (.name "n") (.name "x"))
            [.assign [.name "n"] [.binary "-" (.name "n") (.numeral "1")]]) (counting σ x n) =
          some (.proceed (countingScope σ.cells.length), counting σ x m) := by
  have hcondition := @evaluate_counting σ x n ">=" _ rfl
  by_cases hn : x ≤ n
  . have hceil : ⌈x⌉ ≤ n := Int.ceil_le.mpr hn
    obtain ⟨m, hm, hrest⟩ := execute_down σ x (n - 1)
    refine ⟨m, hm, ?_⟩
    rw [← hrest]
    exact Lua.execute_loop_step hcondition (decide_eq_true hn)
      (inBlock_counting (by simp [Lua.arithmetic?]))
  . exact ⟨n, not_le.mp hn, Lua.execute_loop_end hcondition (decide_eq_false hn)⟩
termination_by (n + 1 - ⌈x⌉).toNat

theorem execute_up (σ : Store) (x : ℚ) (n : ℤ) (hle : n ≤ ⌈x⌉)
    : Lua.execute (countingScope σ.cells.length) (.loop (.binary "<" (.name "n") (.name "x"))
        [.assign [.name "n"] [.binary "+" (.name "n") (.numeral "1")]]) (counting σ x n) =
      some (.proceed (countingScope σ.cells.length), counting σ x ⌈x⌉) := by
  have hcondition := @evaluate_counting σ x n "<" _ rfl
  by_cases hn : (n : ℚ) < x
  . have hlt : n < ⌈x⌉ := Int.lt_ceil.mpr hn
    rw [← execute_up σ x (n + 1) hlt]
    exact Lua.execute_loop_step hcondition (decide_eq_true hn)
      (inBlock_counting (by simp [Lua.arithmetic?]))
  . obtain rfl : n = ⌈x⌉ := le_antisymm hle (Int.ceil_le.mpr (not_lt.mp hn))
    exact Lua.execute_loop_end hcondition (decide_eq_false hn)
termination_by (⌈x⌉ - n).toNat

end

theorem enter_ceiling (x : ℚ) (σ : Store)
    : ∃ σ', Lua.enter ceiling [.number x] σ = some ([.number ⌈x⌉], σ') := by
  obtain ⟨m, hm, hdown⟩ := execute_down σ x 0
  have hup := execute_up σ x m (Int.lt_ceil.mpr hm).le
  have hzero : Lua.evaluate [("x", σ.cells.length)] (.numeral "0") (σ.addCells [.number x]) =
      some (.number 0, σ.addCells [.number x]) :=
    Lua.evaluate_nat 0
  have hresult : Lua.evaluate (countingScope σ.cells.length) (.name "n") (counting σ x ⌈x⌉) =
      some (.number ⌈x⌉, counting σ x ⌈x⌉) :=
    evaluate_local rfl cell?_counting.2
  have hstart : (σ.addCells [.number x]).addCells [.number 0] = counting σ x 0 := by
    simp [counting]
  have hscope : Scope.extend [("x", σ.cells.length)] ["n"] (σ.addCells [.number x]).cells.length =
      countingScope σ.cells.length := by
    simp [Scope.extend, countingScope, Store.addCells]
  refine ⟨counting σ x ⌈x⌉, ?_⟩
  rw [Lua.enter_eq]
  change Option.map _ (Lua.run [("x", σ.cells.length)] ceiling.body (σ.addCells [.number x])) = _
  rw [ceiling, run_declare hzero, hstart, hscope, run_proceed hdown,
    run_proceed hup, Lua.run_leave [] (Lua.execute_giveBack (evaluateAll_one rfl hresult))]
  rfl

def console : Store where
  cells := []
  tables :=
    [[(.string "math", .table 1), (.string "playdate", .table 2),
        (.string "import", .function 0)],
      [(.string "pi", .number (355 / 113)), (.string "ceil", .function 1)],
      [(.string "graphics", .table 3)], [(.string "imagetable", .table 4)],
      [(.string "new", .function 0)]]
  closures := [⟨[], [], []⟩, ceiling]

theorem evaluate_nothing {f : Term} (hf : Lua.evaluate scope f σ = some (.function 0, σ))
    (argument : String) (hc : σ.closures[0]? = some ⟨[], [], []⟩)
    : Lua.evaluate scope (.call f [.string argument]) σ = some (.nil, σ) := by
  have hcall := Lua.results_call hf (evaluateAll_one rfl (evaluate_string argument)) hc
  have henter : Lua.enter ⟨[], [], []⟩ [.string argument] σ = some ([], σ) := by
    rw [Lua.enter_eq, Lua.run_nil]
    simp [Lua.fit, Store.addCells, Outcome.values]
  exact Lua.evaluate_call (hcall.trans henter)

section

variable {n key : String} {a b : Nat} {v : Lua.Value}

theorem evaluate_field (hscope : scope.lookup n = none)
    (ht : σ.getField? Lua.globals (.string n) = some (.table a))
    (hv : σ.getField? a (.string key) = some v)
    : Lua.evaluate scope (.index (.name n) (.string key)) σ = some (v, σ) :=
  evaluate_index (evaluate_global hscope ht) (evaluate_string key) hv

theorem evaluate_field_local (hscope : scope.lookup n = some b) (ht : σ.cell? b = some (.table a))
    (hv : σ.getField? a (.string key) = some v)
    : Lua.evaluate scope (.index (.name n) (.string key)) σ = some (v, σ) :=
  evaluate_index (evaluate_local hscope ht) (evaluate_string key) hv

theorem evaluate_graphics (hscope : scope.lookup "playdate" = none)
    (ht : σ.getField? Lua.globals (.string "playdate") = some (.table a))
    (hgraphics : σ.getField? a (.string "graphics") = some (.table b))
    (hv : σ.getField? b (.string key) = some v)
    : Lua.evaluate scope (graphics key).term σ = some (v, σ) :=
  evaluate_index (evaluate_field hscope ht hgraphics) (evaluate_string key) hv

end

theorem evaluate_int (n : Int)
    : Lua.evaluate scope (Lua.Expr.numeral (toString n)).term σ = some (.number n, σ) := by
  rw [Lua.Expr.term]
  cases n with
  | ofNat n =>
    change Lua.evaluate scope (Lua.numeralTerm (toString n)) σ = _
    rw [Lua.numeralTerm_of_isDecimal (Lua.isDecimal_nat n), Lua.evaluate_nat]
    rfl
  | negSucc n =>
    have hminus : Lua.numeralTerm (toString (Int.negSucc n)) =
        .unary "-" (.numeral (toString (n + 1))) := by
      rw [Lua.numeralTerm, Lua.toList_toString_negSucc]
      exact congrArg (fun s => Lua.Term.unary "-" (.numeral s)) String.ofList_toList
    rw [hminus, Lua.evaluate_minus (Lua.evaluate_nat (n + 1))]
    simp [Int.negSucc_eq]

theorem evaluate_images (sheet : String)
    : Lua.evaluate [] (images sheet).term console = some (.nil, console) :=
  evaluate_nothing (evaluate_index (evaluate_graphics rfl rfl rfl rfl) (evaluate_string "new") rfl)
    sheet rfl

theorem run_console (doc : Document)
    : ∃ scope σ₁, Lua.run [] (Stat.statementsAll (preamble doc)) console =
        some (.proceed scope, σ₁) ∧ HasCeiling σ₁ := by
  have htable := (tableOf_cons (k := "playerid") (evaluate_int doc.player.id) [] _).trans <|
    (tableOf_cons (k := "startroom") (evaluate_int doc.player.room) _ _).trans <|
    (tableOf_cons (k := "startx") (evaluate_int doc.player.x) _ _).trans <|
    (tableOf_cons (k := "starty") (evaluate_int doc.player.y) _ _).trans <|
    (tableOf_cons (k := "gamename") (evaluate_string doc.name) _ _).trans <|
    (tableOf_cons (k := "halfwidth") (Lua.evaluate_boolean doc.font.isHalfWidth) _ _).trans <|
    (tableOf_cons (k := "pipe_img") (evaluate_images "pipe") _ _).trans <|
    (tableOf_cons (k := "font_img") (evaluate_images "font") _ _).trans <|
    (tableOf_cons (k := "tile_img") (evaluate_images "tiles") _ _).trans <| Lua.tableOf_nil _
  apply Exists.intro
  apply Exists.intro
  constructor
  case left =>
    refine (run_proceed (Lua.execute_assign_global rfl (Lua.evaluate_table htable))).trans ?_
    -- One step for each of the aliases, by the shape of what it stands for.
    repeat
      first
      | refine (run_declare (evaluate_global rfl rfl)).trans ?_
      | refine (run_declare (evaluate_field rfl rfl rfl)).trans ?_
      | refine (run_declare (evaluate_field_local rfl rfl rfl)).trans ?_
      | refine (run_declare (evaluate_graphics rfl rfl rfl rfl)).trans ?_
      | refine (run_declare (Lua.evaluate_function _ _)).trans ?_
      | refine (run_declare (evaluate_arithmetic (evaluate_field rfl rfl rfl) (Lua.evaluate_nat 2)
          rfl)).trans ?_
      | refine (run_declare (Lua.evaluate_table <|
          (tableOf_cons (evaluate_graphics rfl rfl rfl rfl) _ _).trans <|
          (tableOf_cons (evaluate_graphics rfl rfl rfl rfl) _ _).trans <|
          Lua.tableOf_nil _)).trans ?_
      | refine (run_proceed (Lua.execute_call
          (evaluate_nothing (evaluate_global rfl rfl) "pulp" rfl))).trans ?_
    exact Lua.run_nil
  case right => exact ⟨1, 1, ceiling, rfl, rfl, rfl, enter_ceiling⟩

/-- The function that the preamble makes known as `__round` gives back the least integer that is not
below its argument and a half. So its argument is rounded exactly if it is half way between two
integers, and an integer is made the next one. The code for rounding comes to the same for its
operand. -/
theorem rounds_iff_half {doc : Document}
    (h : Lua.run [] (Stat.statementsAll (preamble doc)) σ = some (.proceed scope, σ₁))
    : ∃ c, Reaches scope "__round" σ₁ c ∧
        (∀ σ₂, HasCeiling σ₂ → ∀ x : ℚ, ∃ r σ₃,
          Lua.enter c [.number x] σ₂ = some ([.number r], σ₃) ∧ r = ⌈x + 1 / 2⌉ ∧
            (Rounds x r ↔ ∃ n : ℤ, x = n + 1 / 2) ∧ ∀ n : ℤ, x = n → r = n + 1) ∧
        ∀ site operand rest notes notes' code,
          Runs ((Block.Expr.ofValue (.list (.text "round" :: operand :: rest))).toLua site) notes code
              notes' →
            ∃ t, Runs ((Block.Expr.ofValue operand).toLua site) notes t notes' ∧
              ∀ inside σ₂ σ₃ (x : ℚ), Reaches inside "__round" σ₂ c →
                Lua.evaluate inside t.term σ₂ = some (.number x, σ₃) →
                  σ₂.closures <+: σ₃.closures → HasCeiling σ₃ →
                    ∃ σ₄, Lua.evaluate inside code.term σ₂ = some (.number ⌈x + 1 / 2⌉, σ₄) := by
  obtain ⟨_, before, houtcome, hmath, hreaches⟩ := preamble_reaches h
  cases houtcome
  refine ⟨rounding before, hreaches, ?_, ?_⟩
  . intro σ₂ hceiling x
    obtain ⟨σ₃, hσ₃⟩ := enter_rounding hmath hceiling x []
    refine ⟨_, σ₃, hσ₃, rfl, rounds_ceil x, ?_⟩
    rintro n rfl
    rw [ceil_int]
    push_cast
    rfl
  . intro site operand rest notes notes' code hcode
    obtain ⟨t, ht, rfl⟩ := runs_round.mp hcode
    refine ⟨t, ht, ?_⟩
    -- the argument may make closures of its own, behind which the function is still found
    intro inside σ₂ σ₃ x hinside hx hkept hceiling
    obtain ⟨others, hcall⟩ := hinside.results_call hx (by simp) hkept
    obtain ⟨σ₄, hσ₄⟩ := enter_rounding hmath hceiling x others
    exact ⟨σ₄, Lua.evaluate_call (hcall.trans hσ₄)⟩

theorem rounds_iff_half_two
    : ∃ scope σ₁ code σ₂,
        Lua.run [] (Stat.statementsAll (preamble (framesDocument []))) console =
          some (.proceed scope, σ₁) ∧
        Runs ((Block.Expr.ofValue (.list [.text "round", .number (.integer 2)])).toLua
          ⟨"game", "load", fun _ => none⟩) [] code [] ∧
        Lua.evaluate scope code.term σ₁ = some (.number 3, σ₂) := by
  obtain ⟨scope, σ₁, hrun, hceiling⟩ := run_console (framesDocument [])
  obtain ⟨c, hreaches, -, hcalls⟩ := rounds_iff_half hrun
  have hcode : Runs ((Block.Expr.ofValue (.list [.text "round", .number (.integer 2)])).toLua
      ⟨"game", "load", fun _ => none⟩) [] (.call (.name "__round") [.numeral "2"]) [] :=
    runs_round.mpr ⟨_, rfl, rfl⟩
  obtain ⟨t, ht, hvalue⟩ := hcalls _ _ _ _ _ _ hcode
  obtain rfl : t = .numeral "2" := by
    cases ht
    rfl
  have htwo : Lua.evaluate scope (Lua.Expr.numeral "2").term σ₁ = some (.number 2, σ₁) :=
    Lua.evaluate_nat 2
  obtain ⟨σ₂, hσ₂⟩ := hvalue scope σ₁ σ₁ 2 hreaches htwo List.prefix_rfl hceiling
  have hthree : ((⌈(2 : ℚ) + 1 / 2⌉ : ℤ) : ℚ) = 3 := by
    norm_num
  rw [hthree] at hσ₂
  exact ⟨scope, σ₁, _, σ₂, hrun, hcode, hσ₂⟩

theorem two_not_rounded
    : ∃ scope σ₁ c,
        Lua.run [] (Stat.statementsAll (preamble (framesDocument []))) console =
          some (.proceed scope, σ₁) ∧
        Reaches scope "__round" σ₁ c ∧ HasCeiling σ₁ ∧
        ∃ r σ₂, Lua.enter c [.number 2] σ₁ = some ([.number r], σ₂) ∧ ¬Rounds 2 r := by
  obtain ⟨scope, σ₁, hrun, hceiling⟩ := run_console (framesDocument [])
  obtain ⟨_, before, houtcome, hmath, hreaches⟩ := preamble_reaches hrun
  cases houtcome
  obtain ⟨σ₂, hσ₂⟩ := enter_rounding hmath hceiling 2 []
  refine ⟨scope, σ₁, rounding before, hrun, hreaches, hceiling, _, σ₂, hσ₂, ?_⟩
  rw [rounds_ceil]
  rintro ⟨n, hn⟩
  have hodd : (2 * n + 1 : ℚ) = 4 := by linarith
  norm_cast at hodd
  omega

end PulpGame.Program
