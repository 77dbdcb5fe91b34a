import PulpGame.Proofs.Lua.Token
/-!
The grammar of Lua 5.4, as a reader of trees out of tokens.

A reader gives back what it read and the tokens that follow. Operators are read by their priorities:
the right operand of an operator takes in all operators that bind more than it does.
-/

namespace PulpGame.Lua

mutual

inductive Term where
  | nil
  | boolean (value : Bool)
  | rest
  | numeral (text : String)
  | string (value : String)
  | name (name : String)
  | index (table key : Term)
  | call (function : Term) (arguments : List Term)
  | invoke (object : Term) (method : String) (arguments : List Term)
  | group (inner : Term)
  | function (parameters : List String) (takesRest : Bool) (body : List Statement)
  | table (fields : List (Option Term × Term))
  | unary (operator : String) (operand : Term)
  | binary (operator : String) (left right : Term)

inductive Statement where
  | assign (targets values : List Term)
  | call (call : Term)
  | block (body : List Statement)
  | loop (condition : Term) (body : List Statement)
  | loopUntil (body : List Statement) (condition : Term)
  | choose (condition : Term) (body : List Statement) (other : List Statement)
  | forRange (counter : String) (first last : Term) (step : Option Term) (body : List Statement)
  | forEach (names : List String) (values : List Term) (body : List Statement)
  | declare (names : List (String × Option String)) (values : List Term)
  | declareFunction (name : String) (function : Term)
  | giveBack (values : List Term)
  | leaveLoop
  | goto (label : String)
  | label (name : String)

end

instance : Inhabited Term := ⟨.nil⟩

instance : Inhabited Statement := ⟨.leaveLoop⟩

def priority? : Token → Option (String × Nat × Nat)
  | .keyword "or" => some ("or", 1, 1)
  | .keyword "and" => some ("and", 2, 2)
  | .symbol s =>
    if ["<", ">", "<=", ">=", "~=", "=="].contains s then some (s, 3, 3)
    else if s = "|" then some (s, 4, 4)
    else if s = "~" then some (s, 5, 5)
    else if s = "&" then some (s, 6, 6)
    else if ["<<", ">>"].contains s then some (s, 7, 7)
    else if s = ".." then some (s, 9, 8)
    else if ["+", "-"].contains s then some (s, 10, 10)
    else if ["*", "/", "//", "%"].contains s then some (s, 11, 11)
    else if s = "^" then some (s, 14, 13)
    else none
  | _ => none

def unary? : Token → Option String
  | .keyword "not" => some "not"
  | .symbol "-" => some "-"
  | .symbol "#" => some "#"
  | .symbol "~" => some "~"
  | _ => none

def unaryPriority : Nat := 12

def endsBlock (t : Token) : Bool :=
  [.keyword "end", .keyword "else", .keyword "elseif", .keyword "until"].contains t

def take (t : Token) : List Token → Option (List Token)
  | [] => none
  | u :: ts => if u = t then some ts else none

def names : List Token → Option (List String × List Token)
  | .name n :: .symbol "," :: ts => (names ts).map fun (ns, ts) => (n :: ns, ts)
  | .name n :: ts => some ([n], ts)
  | _ => none

def parameters : List Token → Option (List String × Bool × List Token)
  | .symbol ")" :: ts => some ([], false, ts)
  | .symbol "..." :: .symbol ")" :: ts => some ([], true, ts)
  | .name n :: .symbol ")" :: ts => some ([n], false, ts)
  | .name n :: .symbol "," :: .symbol "..." :: .symbol ")" :: ts => some ([n], true, ts)
  | .name n :: .symbol "," :: .name m :: ts =>
    (parameters (.name m :: ts)).map fun (ns, takesRest, ts) => (n :: ns, takesRest, ts)
  | _ => none

def attributeOf : List Token → Option (Option String × List Token)
  | .symbol "<" :: .name a :: .symbol ">" :: ts => some (some a, ts)
  | .symbol "<" :: _ => none
  | ts => some (none, ts)

def declared : Nat → List Token → Option (List (String × Option String) × List Token)
  | fuel + 1, .name n :: ts => do
    let (a, ts) ← attributeOf ts
    match ts with
    | .symbol "," :: ts => do
      let (ns, ts) ← declared fuel ts
      return ((n, a) :: ns, ts)
    | _ => return ([(n, a)], ts)
  | _, _ => none

def functionName (place : Term) : List Token → Option (Term × Option String × List Token)
  | .symbol "." :: .name n :: ts => functionName (.index place (.string n)) ts
  | .symbol ":" :: .name n :: ts => some (place, some n, ts)
  | ts => some (place, none, ts)

/-- A function that is stored in a field as a method has its object for a parameter. -/
def Statement.define (place : Term) (method : Option String) (function : Term) : Statement :=
  match method, function with
  | none, _ => .assign [place] [function]
  | some m, .function ps takesRest body =>
    .assign [.index place (.string m)] [.function ("self" :: ps) takesRest body]
  | some m, _ => .assign [.index place (.string m)] [function]

def Term.isPlace : Term → Bool
  | name _ => true
  | index _ _ => true
  | _ => false

def Term.isCall : Term → Bool
  | call _ _ => true
  | invoke _ _ _ => true
  | _ => false

-- The block is compiled to one function with the name of its first one, whose term records where in
-- the file the block stands. The underscore marks this name as internal.
mutual

def _functionBody (ts : List Token) : Option (Term × List Token) := do
  let ts ← take (.symbol "(") ts
  let (ps, takesRest, ts) ← parameters ts
  let (body, ts) ← block ts
  let ts ← take (.keyword "end") ts
  return (.function ps takesRest body, ts)
partial_fixpoint

/-- An expression of operators that bind more than `limit` to the left. -/
def expression (limit : Nat) (ts : List Token) : Option (Term × List Token) := do
  let (left, ts) ← operand ts
  operators limit left ts
partial_fixpoint

def operators (limit : Nat) (left : Term) (ts : List Token) : Option (Term × List Token) :=
  match ts with
  | [] => some (left, [])
  | t :: ts =>
    match priority? t with
    | none => some (left, t :: ts)
    | some (operator, before, behind) =>
      if limit < before then do
        let (right, ts) ← expression behind ts
        operators limit (.binary operator left right) ts
      else some (left, t :: ts)
partial_fixpoint

def operand (ts : List Token) : Option (Term × List Token) :=
  match ts with
  | [] => none
  | t :: ts =>
    match unary? t with
    | some operator => do
      let (x, ts) ← expression unaryPriority ts
      return (.unary operator x, ts)
    | none =>
      match t with
      | .keyword "nil" => some (.nil, ts)
      | .keyword "true" => some (.boolean true, ts)
      | .keyword "false" => some (.boolean false, ts)
      | .symbol "..." => some (.rest, ts)
      | .numeral text => some (.numeral text, ts)
      | .string value => some (.string value, ts)
      | .symbol "\x7b" => do
        let (fs, ts) ← fields ts
        return (.table fs, ts)
      | .keyword "function" => _functionBody ts
      | t => suffixed (t :: ts)
partial_fixpoint

def suffixed (ts : List Token) : Option (Term × List Token) :=
  match ts with
  | .name n :: ts => suffixes (.name n) ts
  | .symbol "(" :: ts => do
    let (x, ts) ← expression 0 ts
    let ts ← take (.symbol ")") ts
    suffixes (.group x) ts
  | _ => none
partial_fixpoint

def suffixes (x : Term) (ts : List Token) : Option (Term × List Token) :=
  match ts with
  | .symbol "." :: .name n :: ts => suffixes (.index x (.string n)) ts
  | .symbol "[" :: ts => do
    let (key, ts) ← expression 0 ts
    let ts ← take (.symbol "]") ts
    suffixes (.index x key) ts
  | .symbol ":" :: .name n :: ts => do
    let (xs, ts) ← arguments ts
    suffixes (.invoke x n xs) ts
  | .symbol "(" :: _ | .symbol "\x7b" :: _ | .string _ :: _ => do
    let (xs, ts) ← arguments ts
    suffixes (.call x xs) ts
  | _ => some (x, ts)
partial_fixpoint

def arguments (ts : List Token) : Option (List Term × List Token) :=
  match ts with
  | .string value :: ts => some ([.string value], ts)
  | .symbol "\x7b" :: ts => do
    let (fs, ts) ← fields ts
    return ([.table fs], ts)
  | .symbol "(" :: .symbol ")" :: ts => some ([], ts)
  | .symbol "(" :: ts => do
    let (xs, ts) ← expressions ts
    let ts ← take (.symbol ")") ts
    return (xs, ts)
  | _ => none
partial_fixpoint

def expressions (ts : List Token) : Option (List Term × List Token) := do
  let (x, ts) ← expression 0 ts
  match ts with
  | .symbol "," :: ts => do
    let (xs, ts) ← expressions ts
    return (x :: xs, ts)
  | ts => return ([x], ts)
partial_fixpoint

def fields (ts : List Token) : Option (List (Option Term × Term) × List Token) :=
  match ts with
  | .symbol "\x7d" :: ts => some ([], ts)
  | ts => do
    let (f, ts) ← field ts
    match ts with
    | .symbol "," :: ts | .symbol ";" :: ts => do
      let (fs, ts) ← fields ts
      return (f :: fs, ts)
    | ts => do
      let ts ← take (.symbol "\x7d") ts
      return ([f], ts)
partial_fixpoint

def field (ts : List Token) : Option ((Option Term × Term) × List Token) :=
  match ts with
  | .name n :: .symbol "=" :: ts => do
    let (x, ts) ← expression 0 ts
    return ((some (.string n), x), ts)
  | .symbol "[" :: ts => do
    let (key, ts) ← expression 0 ts
    let ts ← take (.symbol "]") ts
    let ts ← take (.symbol "=") ts
    let (x, ts) ← expression 0 ts
    return ((some key, x), ts)
  | ts => do
    let (x, ts) ← expression 0 ts
    return ((none, x), ts)
partial_fixpoint

def block (ts : List Token) : Option (List Statement × List Token) :=
  match ts with
  | [] => some ([], [])
  | t :: ts =>
    if endsBlock t then some ([], t :: ts)
    else if t = .symbol ";" then block ts
    else if t = .keyword "return" then do
      let (xs, ts) ← values ts
      return ([.giveBack xs], ts)
    else do
      let (s, ts) ← statement (t :: ts)
      let (ss, ts) ← block ts
      return (s :: ss, ts)
partial_fixpoint

def values (ts : List Token) : Option (List Term × List Token) :=
  match ts with
  | [] => some ([], [])
  | .symbol ";" :: ts => some ([], ts)
  | t :: ts =>
    if endsBlock t then some ([], t :: ts)
    else do
      let (xs, ts) ← expressions (t :: ts)
      match ts with
      | .symbol ";" :: ts => return (xs, ts)
      | ts => return (xs, ts)
partial_fixpoint

def statement (ts : List Token) : Option (Statement × List Token) :=
  match ts with
  | .keyword "do" :: ts => do
    let (body, ts) ← block ts
    let ts ← take (.keyword "end") ts
    return (.block body, ts)
  | .keyword "while" :: ts => do
    let (condition, ts) ← expression 0 ts
    let ts ← take (.keyword "do") ts
    let (body, ts) ← block ts
    let ts ← take (.keyword "end") ts
    return (.loop condition body, ts)
  | .keyword "repeat" :: ts => do
    let (body, ts) ← block ts
    let ts ← take (.keyword "until") ts
    let (condition, ts) ← expression 0 ts
    return (.loopUntil body condition, ts)
  | .keyword "if" :: ts => choice ts
  | .keyword "for" :: .name n :: .symbol "=" :: ts => do
    let (xs, ts) ← expressions ts
    let ts ← take (.keyword "do") ts
    let (body, ts) ← block ts
    let ts ← take (.keyword "end") ts
    match xs with
    | [first, last] => return (.forRange n first last none body, ts)
    | [first, last, step] => return (.forRange n first last (some step) body, ts)
    | _ => none
  | .keyword "for" :: ts => do
    let (ns, ts) ← names ts
    let ts ← take (.keyword "in") ts
    let (xs, ts) ← expressions ts
    let ts ← take (.keyword "do") ts
    let (body, ts) ← block ts
    let ts ← take (.keyword "end") ts
    return (.forEach ns xs body, ts)
  | .keyword "function" :: .name n :: ts => do
    let (place, method, ts) ← functionName (.name n) ts
    let (function, ts) ← _functionBody ts
    return (.define place method function, ts)
  | .keyword "local" :: .keyword "function" :: .name n :: ts => do
    let (function, ts) ← _functionBody ts
    return (.declareFunction n function, ts)
  | .keyword "local" :: ts => do
    let (ns, ts) ← declared ts.length ts
    match ts with
    | .symbol "=" :: ts => do
      let (xs, ts) ← expressions ts
      return (.declare ns xs, ts)
    | ts => return (.declare ns [], ts)
  | .keyword "break" :: ts => some (.leaveLoop, ts)
  | .keyword "goto" :: .name n :: ts => some (.goto n, ts)
  | .symbol "::" :: .name n :: .symbol "::" :: ts => some (.label n, ts)
  | ts => do
    let (x, ts) ← suffixed ts
    match ts with
    | .symbol "=" :: ts => do
      let (xs, ts) ← expressions ts
      if x.isPlace then return (.assign [x] xs, ts) else none
    | .symbol "," :: ts => do
      let (places, ts) ← targets ts
      let ts ← take (.symbol "=") ts
      let (xs, ts) ← expressions ts
      if x.isPlace then return (.assign (x :: places) xs, ts) else none
    | ts => if x.isCall then return (.call x, ts) else none
partial_fixpoint

def targets (ts : List Token) : Option (List Term × List Token) := do
  let (x, ts) ← suffixed ts
  if x.isPlace then
    match ts with
    | .symbol "," :: ts => do
      let (xs, ts) ← targets ts
      return (x :: xs, ts)
    | ts => return ([x], ts)
  else none
partial_fixpoint

/-- A choice from its first condition on; another condition is a choice inside the other part. -/
def choice (ts : List Token) : Option (Statement × List Token) := do
  let (condition, ts) ← expression 0 ts
  let ts ← take (.keyword "then") ts
  let (body, ts) ← block ts
  match ts with
  | .keyword "elseif" :: ts => do
    let (other, ts) ← choice ts
    return (.choose condition body [other], ts)
  | .keyword "else" :: ts => do
    let (other, ts) ← block ts
    let ts ← take (.keyword "end") ts
    return (.choose condition body other, ts)
  | ts => do
    let ts ← take (.keyword "end") ts
    return (.choose condition body [], ts)
partial_fixpoint

end

def parse (text : String) : Option (List Statement) := do
  let ts ← tokens? text.toList
  let (body, ts) ← block ts
  if ts.isEmpty then return body else none

end PulpGame.Lua
