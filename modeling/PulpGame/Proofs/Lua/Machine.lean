import PulpGame.Proofs.Lua.Grammar
/-!
How parsed code runs.

Local variables are cells, which functions share with the code around them; a name that is no local
is a field of the table of globals. Numbers are exact. A run that does something else than what is
described here has no result.
-/

namespace PulpGame.Lua

inductive Value where
  | nil
  | boolean (value : Bool)
  | number (value : ℚ)
  | string (value : String)
  | table (address : Nat)
  | function (address : Nat)
deriving DecidableEq

instance : Inhabited Value := ⟨.nil⟩

namespace Value

def isTrue : Value → Bool
  | .nil => false
  | .boolean b => b
  | _ => true

end Value

abbrev Table := List (Value × Value)

namespace Table

def get (t : Table) (key : Value) : Value := (t.lookup key).getD .nil

def set : Table → Value → Value → Table
  | [], key, v => [(key, v)]
  | (k, w) :: t, key, v => if k = key then (k, v) :: t else (k, w) :: set t key v

theorem get_set (t : Table) (key other v : Value)
    : (t.set key v).get other = if other = key then v else t.get other := by
  have hbeq {v w : Value} (h : v ≠ w) : (v == w) = false := beq_false_of_ne h
  induction t with
  | nil => by_cases h : other = key <;> simp [set, get, List.lookup_cons, h, hbeq]
  | cons f t ih =>
    obtain ⟨k, w⟩ := f
    simp only [get] at ih
    by_cases hk : k = key
    . subst hk
      by_cases h : other = k <;> simp [set, get, List.lookup_cons, h, hbeq]
    . by_cases h : other = k
      . subst h
        simp [set, get, hk]
      . simp [set, get, List.lookup_cons, hk, hbeq h, ih]

end Table

/-- The local variables that can be seen, the newest first, with their cells. -/
abbrev Scope := List (String × Nat)

structure Closure where
  scope : Scope
  parameters : List String
  body : List Statement

structure Store where
  cells : List Value
  tables : List Table
  closures : List Closure

namespace Store

def cell? (σ : Store) (a : Nat) : Option Value := σ.cells[a]?

def setCell (σ : Store) (a : Nat) (v : Value) : Store := { σ with cells := σ.cells.set a v }

def getField? (σ : Store) (a : Nat) (key : Value) : Option Value := (σ.tables[a]?).map (·.get key)

def setField (σ : Store) (a : Nat) (key v : Value) : Store :=
  { σ with tables := σ.tables.modify a (·.set key v) }

def addCells (σ : Store) (vs : List Value) : Store := { σ with cells := σ.cells ++ vs }

def addTable (σ : Store) (t : Table) : Store := { σ with tables := σ.tables ++ [t] }

def addClosure (σ : Store) (c : Closure) : Store := { σ with closures := σ.closures ++ [c] }

end Store

def globals : Nat := 0

def Scope.extend (scope : Scope) : List String → Nat → Scope
  | [], _ => scope
  | n :: ns, a => Scope.extend ((n, a) :: scope) ns (a + 1)

def fit : List String → List Value → List Value
  | [], _ => []
  | _ :: ns, [] => .nil :: fit ns []
  | _ :: ns, v :: vs => v :: fit ns vs

def decimalValue? (text : String) : Option ℚ :=
  let digits (cs : List Char) : ℚ := Short.ofDigits cs
  let whole := text.toList.takeWhile Char.isDigit
  let (fraction, rest) :=
    match text.toList.dropWhile Char.isDigit with
    | '.' :: cs => (cs.takeWhile Char.isDigit, cs.dropWhile Char.isDigit)
    | cs => ([], cs)
  let mantissa := digits (whole ++ fraction) / 10 ^ fraction.length
  match rest with
  | [] => some mantissa
  | 'e' :: '-' :: es => some (mantissa / 10 ^ Short.ofDigits es)
  | 'e' :: '+' :: es => some (mantissa * 10 ^ Short.ofDigits es)
  | 'e' :: es => some (mantissa * 10 ^ Short.ofDigits es)
  | _ => none

def position? (needle : List Char) : List Char → Option Nat
  | [] => if needle.isEmpty then some 0 else none
  | c :: cs => if needle.isPrefixOf (c :: cs) then some 0 else (position? needle cs).map (· + 1)

def isMagic (c : Char) : Bool := "^$()%.[]*+-?".toList.contains c

/-- A method of a string; of searching, only for plain text. The start and the end of what is found
are counted in bytes from one. -/
def stringMethod? (s method : String) : List Value → Option (List Value)
  | [.string needle] =>
    if method = "find" && needle.toList.all (!isMagic ·) then
      match position? needle.toList s.toList with
      | none => some [.nil]
      | some n =>
        let before := (String.ofList (s.toList.take n)).utf8ByteSize
        some [.number (before + 1), .number (before + needle.utf8ByteSize)]
    else none
  | _ => none

def arithmetic? (op : String) (x y : ℚ) : Option Value :=
  match op with
  | "+" => some (.number (x + y))
  | "-" => some (.number (x - y))
  | "*" => some (.number (x * y))
  | "/" => if y = 0 then none else some (.number (x / y))
  | "<" => some (.boolean (x < y))
  | ">" => some (.boolean (y < x))
  | "<=" => some (.boolean (x ≤ y))
  | ">=" => some (.boolean (y ≤ x))
  | _ => none

def binary? (op : String) (x y : Value) : Option Value :=
  match op, x, y with
  | "==", x, y => some (.boolean (x = y))
  | "~=", x, y => some (.boolean (x ≠ y))
  | "..", .string x, .string y => some (.string (x ++ y))
  | op, .number x, .number y => arithmetic? op x y
  | _, _, _ => none

def unaryValue? (op : String) (x : Value) : Option Value :=
  match op, x with
  | "not", x => some (.boolean !x.isTrue)
  | "-", .number x => some (.number (-x))
  | _, _ => none

inductive Outcome where
  | proceed (scope : Scope)
  | leave (values : List Value)

def Outcome.values : Outcome → List Value
  | .proceed _ => []
  | .leave vs => vs

def getField? (t key : Value) (σ : Store) : Option Value :=
  match t with
  | .table a => σ.getField? a key
  | _ => none

def setField? (t key v : Value) (σ : Store) : Option Store :=
  match t with
  | .table a => if key = .nil || σ.tables.length ≤ a then none else some (σ.setField a key v)
  | _ => none

-- The block is compiled to one function with the name of its first one, whose term records where in
-- the file the block stands. The underscore marks this name as internal.
mutual

def _inBlock (scope : Scope) (body : List Statement) (σ : Store) : Option (Outcome × Store) := do
  let (outcome, σ) ← run scope body σ
  match outcome with
  | .proceed _ => return (.proceed scope, σ)
  | .leave vs => return (.leave vs, σ)
partial_fixpoint

def evaluate (scope : Scope) (t : Term) (σ : Store) : Option (Value × Store) :=
  match t with
  | .nil => some (.nil, σ)
  | .boolean b => some (.boolean b, σ)
  | .numeral text => (decimalValue? text).map fun x => (.number x, σ)
  | .string s => some (.string s, σ)
  | .name n =>
    match scope.lookup n with
    | some a => (σ.cell? a).map (·, σ)
    | none => (σ.getField? globals (.string n)).map (·, σ)
  | .index table key => do
    let (t, σ) ← evaluate scope table σ
    let (k, σ) ← evaluate scope key σ
    let v ← getField? t k σ
    return (v, σ)
  | .call f xs => do
    let (vs, σ) ← results scope (.call f xs) σ
    return (vs.head?.getD .nil, σ)
  | .invoke object method xs => do
    let (vs, σ) ← results scope (.invoke object method xs) σ
    return (vs.head?.getD .nil, σ)
  | .group t => evaluate scope t σ
  | .function ps false body =>
    some (.function σ.closures.length, σ.addClosure ⟨scope, ps, body⟩)
  | .table fields => do
    let (t, σ) ← tableOf scope [] fields σ
    return (.table σ.tables.length, σ.addTable t)
  | .unary op t => do
    let (v, σ) ← evaluate scope t σ
    let v ← unaryValue? op v
    return (v, σ)
  | .binary "and" x y => do
    let (v, σ) ← evaluate scope x σ
    if v.isTrue then evaluate scope y σ else return (v, σ)
  | .binary "or" x y => do
    let (v, σ) ← evaluate scope x σ
    if v.isTrue then return (v, σ) else evaluate scope y σ
  | .binary op x y => do
    let (v, σ) ← evaluate scope x σ
    let (w, σ) ← evaluate scope y σ
    let v ← binary? op v w
    return (v, σ)
  | .rest => none
  | .function _ true _ => none
partial_fixpoint

def results (scope : Scope) (t : Term) (σ : Store) : Option (List Value × Store) :=
  match t with
  | .call f xs => do
    let (f, σ) ← evaluate scope f σ
    let (vs, σ) ← evaluateAll scope xs σ
    call f vs σ
  | .invoke object method xs => do
    let (o, σ) ← evaluate scope object σ
    let (vs, σ) ← evaluateAll scope xs σ
    invoke o method vs σ
  | _ => none
partial_fixpoint

def evaluateAll (scope : Scope) (ts : List Term) (σ : Store) : Option (List Value × Store) :=
  match ts with
  | [] => some ([], σ)
  | [t] =>
    if t.isCall then results scope t σ
    else do
      let (v, σ) ← evaluate scope t σ
      return ([v], σ)
  | t :: ts => do
    let (v, σ) ← evaluate scope t σ
    let (vs, σ) ← evaluateAll scope ts σ
    return (v :: vs, σ)
partial_fixpoint

def tableOf (scope : Scope) (t : Table) (fields : List (Option Term × Term)) (σ : Store) :
    Option (Table × Store) :=
  match fields with
  | [] => some (t, σ)
  | (some key, value) :: fields => do
    let (k, σ) ← evaluate scope key σ
    let (v, σ) ← evaluate scope value σ
    if k = .nil then none else tableOf scope (t.set k v) fields σ
  | (none, _) :: _ => none
partial_fixpoint

def call (f : Value) (vs : List Value) (σ : Store) : Option (List Value × Store) :=
  match f with
  | .function a => do
    let c ← σ.closures[a]?
    enter c vs σ
  | _ => none
partial_fixpoint

def enter (c : Closure) (vs : List Value) (σ : Store) : Option (List Value × Store) := do
  let scope := c.scope.extend c.parameters σ.cells.length
  let (outcome, σ) ← run scope c.body (σ.addCells (fit c.parameters vs))
  return (outcome.values, σ)
partial_fixpoint

def invoke (object : Value) (method : String) (vs : List Value) (σ : Store) :
    Option (List Value × Store) :=
  match object with
  | .string s => (stringMethod? s method vs).map (·, σ)
  | .table a => do
    let f ← σ.getField? a (.string method)
    call f (.table a :: vs) σ
  | _ => none
partial_fixpoint

def run (scope : Scope) (body : List Statement) (σ : Store) : Option (Outcome × Store) :=
  match body with
  | [] => some (.proceed scope, σ)
  | s :: ss => do
    let (outcome, σ) ← execute scope s σ
    match outcome with
    | .proceed scope => run scope ss σ
    | .leave vs => return (.leave vs, σ)
partial_fixpoint

def execute (scope : Scope) (s : Statement) (σ : Store) : Option (Outcome × Store) :=
  match s with
  | .assign [.name n] [value] => do
    let (v, σ) ← evaluate scope value σ
    match scope.lookup n with
    | some a => return (.proceed scope, σ.setCell a v)
    | none => return (.proceed scope, σ.setField globals (.string n) v)
  | .assign [.index table key] [value] => do
    let (t, σ) ← evaluate scope table σ
    let (k, σ) ← evaluate scope key σ
    let (v, σ) ← evaluate scope value σ
    let σ ← setField? t k v σ
    return (.proceed scope, σ)
  | .call t => do
    let (_, σ) ← evaluate scope t σ
    return (.proceed scope, σ)
  | .block body => _inBlock scope body σ
  | .loop condition body => do
    let (v, σ) ← evaluate scope condition σ
    if v.isTrue then do
      let (outcome, σ) ← _inBlock scope body σ
      match outcome with
      | .proceed _ => execute scope (.loop condition body) σ
      | .leave vs => return (.leave vs, σ)
    else return (.proceed scope, σ)
  | .choose condition body other => do
    let (v, σ) ← evaluate scope condition σ
    _inBlock scope (if v.isTrue then body else other) σ
  | .declare [(n, _)] [value] => do
    let (v, σ) ← evaluate scope value σ
    return (.proceed (scope.extend [n] σ.cells.length), σ.addCells [v])
  | .giveBack ts => do
    let (vs, σ) ← evaluateAll scope ts σ
    return (.leave vs, σ)
  | _ => none
partial_fixpoint

end

end PulpGame.Lua
