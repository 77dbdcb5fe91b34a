import PulpGame.Block.Handler
import PulpGame.Proofs.Lua.Chunk

namespace PulpGame.Block

open Json (Value)
open Lua (Term)

def operatorOf (word : String) : String := if word = "!=" then "~=" else word

def isExprWord (word : String) : Bool :=
  ["var", "id", "event", "fmt", "random"].contains word || (Operator.ofWord? word).isSome ||
    (Function.ofWord? word).isSome

structure Written where
  value : Value
  term : Term
  notes : List Note

inductive ExprMeans (site : Site) : Value → Term → List Note → Prop
  | number {n : Json.Number} : ExprMeans site (.number n) (Lua.numeralTerm n.text) []
  | text {s : String} : ExprMeans site (.text s) (.string s) []
  | boolean {b : Bool} : ExprMeans site (.boolean b) (.boolean b) []
  | null : ExprMeans site .null .nil []
  | var {v : String} {rest : List Value}
    : ExprMeans site (.list (.text "var" :: .text v :: rest)) (Variable.place v).term [.use v]
  | tile {name : String} {id : Int} {rest : List Value} (h : site.tileId? name = some id)
    : ExprMeans site (.list (.text "id" :: .text name :: rest)) (Lua.numeralTerm (toString id)) []
  | unknownTile {name : String} {rest : List Value} (h : site.tileId? name = none)
    : ExprMeans site (.list (.text "id" :: .text name :: rest)) .nil
        [.diagnostic s!"unknown tile `{name}`"]
  | event {key : String} {rest : List Value}
    : ExprMeans site (.list (.text "event" :: .text key :: rest))
        (.index (.name "event") (.string key)) []
  | formatNothing : ExprMeans site (.list [.text "fmt"]) (.string "") []
  | format {parts : List Written} (hne : parts ≠ [])
      (h : ∀ p ∈ parts, ExprMeans site p.value p.term p.notes)
    : ExprMeans site (.list (.text "fmt" :: parts.map (·.value)))
        (.group (Lua.concatTerm (parts.map fun p => .call (.name "__tostring") [p.term])))
        (parts.flatMap (·.notes))
  | binary {word : String} {x y : Value} {l r : Term} {ns ms : List Note} {rest : List Value}
      (hword : (Operator.ofWord? word).isSome) (hx : ExprMeans site x l ns)
      (hy : ExprMeans site y r ms)
    : ExprMeans site (.list (.text word :: x :: y :: rest)) (.group (.binary (operatorOf word) l r))
        (ns ++ ms)
  | apply {word : String} {x : Value} {t : Term} {ns : List Note} {rest : List Value}
      (hword : (Function.ofWord? word).isSome) (hx : ExprMeans site x t ns)
    : ExprMeans site (.list (.text word :: x :: rest)) (.call (.name ("__" ++ word)) [t]) ns
  | random {x y : Value} {l r : Term} {ns ms : List Note} {rest : List Value}
      (hx : ExprMeans site x l ns) (hy : ExprMeans site y r ms)
    : ExprMeans site (.list (.text "random" :: x :: y :: rest)) (.call (.name "__random") [l, r])
        (ns ++ ms)
  | unsupported {word : String} {rest : List Value} (hword : isExprWord word = false)
    : ExprMeans site (.list (.text word :: rest)) .nil [site.unsupported "expression" word]

def blockRef (n : Nat) : Value := .list [.text "block", .number (.integer n)]

def updateOf? : String → Option String
  | "add" => some "+"
  | "sub" => some "-"
  | "mul" => some "*"
  | "div" => some "/"
  | _ => none

def callTerm (method : String) (arguments : List Term) : Lua.Statement :=
  .call (.invoke (.name "__pulp") method arguments)

def statementWords : List String :=
  ["set", "inc", "dec", "add", "sub", "mul", "div", "if", "while", "mimic", "done", "log", "say",
    "call", "emit", "sound", "goto"]

structure Opened where
  index : Nat
  body : List Lua.Statement
  notes : List Note

/-- What a statement stands for, if the blocks that it refers to stand for what they are opened as.
A statement may leave nothing but a comment. -/
inductive StatementMeans (site : Site) : Value → List Opened → List Lua.Statement → List Note → Prop
  | set {v : String} {x : Value} {t : Term} {ns : List Note} {rest : List Value}
      (hx : ExprMeans site x t ns)
    : StatementMeans site (.list (.text "set" :: .text v :: x :: rest)) []
        [.assign [(Variable.place v).term] [t]] (ns ++ [.use v])
  | increment {v : String} {rest : List Value}
    : StatementMeans site (.list (.text "inc" :: .text v :: rest)) []
        [.assign [(Variable.place v).term] [.binary "+" (Variable.place v).term (.numeral "1")]]
        [.use v]
  | decrement {v : String} {rest : List Value}
    : StatementMeans site (.list (.text "dec" :: .text v :: rest)) []
        [.assign [(Variable.place v).term] [.binary "-" (Variable.place v).term (.numeral "1")]]
        [.use v]
  | update {word op v : String} {x : Value} {t : Term} {ns : List Note} {rest : List Value}
      (hword : updateOf? word = some op) (hx : ExprMeans site x t ns)
    : StatementMeans site (.list (.text word :: .text v :: x :: rest)) []
        [.assign [(Variable.place v).term] [.binary op (Variable.place v).term (.group t)]]
        (ns ++ [.use v])
  | branch {x : Value} {t : Term} {n : Nat} {body : List Lua.Statement} {ns ms : List Note}
      (hx : ExprMeans site x t ns)
    : StatementMeans site (.list [.text "if", x, blockRef n]) [⟨n, body, ms⟩] [.choose t body []]
        (ns ++ ms)
  | branchElse {x : Value} {t : Term} {n m : Nat} {body other : List Lua.Statement}
      {ns ms ls : List Note} {rest : List Value} (hx : ExprMeans site x t ns)
    : StatementMeans site (.list (.text "if" :: x :: blockRef n :: blockRef m :: rest))
        [⟨n, body, ms⟩, ⟨m, other, ls⟩] [.choose t body other] (ns ++ ms ++ ls)
  | loop {x : Value} {t : Term} {n : Nat} {body : List Lua.Statement} {ns ms : List Note}
      {rest : List Value} (hx : ExprMeans site x t ns)
    : StatementMeans site (.list (.text "while" :: x :: blockRef n :: rest)) [⟨n, body, ms⟩]
        [.loop t body] (ns ++ ms)
  | mimic {target : String} {rest : List Value}
    : StatementMeans site (.list (.text "mimic" :: .text target :: rest)) [] []
        [.mimic ⟨site.script, site.event, target⟩]
  | done {rest : List Value}
    : StatementMeans site (.list (.text "done" :: rest)) [] [.block [.giveBack []]] []
  | log {x : Value} {t : Term} {ns : List Note} {rest : List Value} (hx : ExprMeans site x t ns)
    : StatementMeans site (.list (.text "log" :: x :: rest)) [] [.call (.call (.name "__print") [t])]
        ns
  | say {x : Value} {t : Term} {ns : List Note} {rest : List Value} (hx : ExprMeans site x t ns)
    : StatementMeans site (.list (.text "say" :: x :: rest)) []
        [callTerm "say" [.name "__self", .name "event", t]] ns
  | call {event : String} {rest : List Value}
    : StatementMeans site (.list (.text "call" :: .text event :: rest)) []
        [callTerm "call" [.name "__self", .string event, .name "event"]] []
  | emit {event : String} {rest : List Value}
    : StatementMeans site (.list (.text "emit" :: .text event :: rest)) []
        [callTerm "emit" [.string event, .name "event"]] []
  | sound {x : Value} {t : Term} {ns : List Note} {rest : List Value} (hx : ExprMeans site x t ns)
    : StatementMeans site (.list (.text "sound" :: x :: rest)) [] [callTerm "sound" [t]] ns
  | goto {parts : List Written} {rest : List Value} (hleast : 2 ≤ parts.length)
      (hmost : parts.length = 3 ∨ parts.length < 3 ∧ rest = [])
      (h : ∀ p ∈ parts, ExprMeans site p.value p.term p.notes)
    : StatementMeans site (.list (.text "goto" :: (parts.map (·.value) ++ rest))) []
        [callTerm "gotoroom" (parts.map (·.term))] (parts.flatMap (·.notes))
  | unsupported {word : String} {rest : List Value} (hword : word ∉ statementWords)
    : StatementMeans site (.list (.text word :: rest)) [] [] [site.unsupported "statement" word]

structure Placed where
  value : Value
  blocks : List Opened
  code : List Lua.Statement
  notes : List Note

/-- What a block stands for: its statements one after another, with the blocks they refer to in
their places. -/
inductive BlockMeans (site : Site) (blocks : List Value) : Nat → List Lua.Statement → List Note → Prop
  | intro {i : Nat} {parts : List Placed} (hblock : blocks[i]? = some (.list (parts.map (·.value))))
      (hparts : ∀ p ∈ parts, StatementMeans site p.value p.blocks p.code p.notes)
      (hopened : ∀ p ∈ parts, ∀ b ∈ p.blocks, BlockMeans site blocks b.index b.body b.notes)
    : BlockMeans site blocks i (parts.flatMap (·.code)) (parts.flatMap (·.notes))

end PulpGame.Block
