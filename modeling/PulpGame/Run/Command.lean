import PulpGame.Build
import PulpGame.Text.Plain
/-!
The command line.

Words are taken from left to right. An option of two words is complete when the next word is looked
at: only then is its value read and does it count as given, and so an unknown option or a surplus
word behind a bad value is reported first.
-/

namespace PulpGame

structure Command where
  input : String
  output : String := "out"
  runtime : String := "pulp.lua"
  fastSlots : Nat := Variable.fastDefault
deriving DecidableEq, Repr

def Command.settings (c : Command) : Settings := { fastSlots := c.fastSlots }

namespace Command

inductive NumberFault where
  | empty
  | badDigit
  | tooLarge
  | outOfBounds
deriving DecidableEq, Repr

def NumberFault.message : NumberFault → String
  | .empty => "cannot parse integer from empty string"
  | .badDigit => "invalid digit found in string"
  | .tooLarge => "number too large to fit in target type"
  | .outOfBounds => s!"must be between 1 and {Variable.fastLimit}"

inductive Refusal where
  | missingInput
  | unknownWord
  /-- An option without its value, or an empty path. -/
  | missingValue
  | repeatedOption
  | surplusValue
  | badSlots (value : String) (fault : NumberFault)
  | help
  | version
deriving DecidableEq, Repr

def slotsMessage (value : String) (fault : NumberFault) : String :=
  s!"error: invalid value '{Text.plain value}' for '--fast-slots <FAST_SLOTS>': {fault.message}"

def Refusal.isAnswer : Refusal → Bool
  | .help | .version => true
  | _ => false

def usage : String :=
  "usage: [--runtime FILE] [--fast-slots NUMBER] INPUT [OUTPUT]\n" ++
    "  INPUT                the document\n" ++
    "  OUTPUT               the directory of the results, \"out\" by default\n" ++
    "  --runtime FILE       the runtime beside the program, \"pulp.lua\" by default\n" ++
    s!"  --fast-slots NUMBER  the number of locals, {Variable.fastDefault} by default"

def Refusal.message : Refusal → String
  | .missingInput => "error: no document is given\n" ++ usage
  | .unknownWord => "error: unexpected argument\n" ++ usage
  | .missingValue => "error: a value is missing\n" ++ usage
  | .repeatedOption => "error: an option is given twice\n" ++ usage
  | .surplusValue => "error: unexpected value\n" ++ usage
  | .badSlots value fault => slotsMessage value fault
  | .help => usage
  | .version => "1.0"

def natural (n : Nat) : List Char → Except NumberFault Nat
  | [] => .ok n
  | c :: cs =>
    if !c.isDigit then .error .badDigit
    else if UInt64.size ≤ n * 10 + (c.toNat - 48) then .error .tooLarge
    else natural (n * 10 + (c.toNat - 48)) cs

def naturalText (s : String) : Except NumberFault Nat :=
  match s.toList with
  | [] => .error .empty
  | ['+'] => .error .badDigit
  | '+' :: cs => natural 0 cs
  | cs => natural 0 cs

def slots (s : String) : Except NumberFault Nat := do
  let n ← naturalText s
  if n = 0 ∨ Variable.fastLimit < n then throw .outOfBounds else return n

inductive Target where
  | input
  | output
  | runtime
  | slots
deriving DecidableEq, Repr

structure Draft where
  input : Option String := none
  output : Option String := none
  runtime : Option String := none
  slots : Option Nat := none
  pending : Option (Target × Option String) := none
  positionals : Nat := 0
  escaped : Bool := false

def path (s : String) : Except Refusal String :=
  if s.isEmpty then .error .missingValue else .ok s

def Draft.give (d : Draft) (target : Target) (value : String) : Except Refusal Draft :=
  match target with
  | .input => return { d with input := some (← path value) }
  | .output => return { d with output := some (← path value) }
  | .runtime =>
    if d.runtime.isSome then throw .repeatedOption
    else return { d with runtime := some (← path value) }
  | .slots =>
    if d.slots.isSome then throw .repeatedOption
    else
      match Command.slots value with
      | .ok n => return { d with slots := some n }
      | .error fault => throw (.badSlots value fault)

def Draft.settle (d : Draft) : Except Refusal Draft :=
  match d.pending with
  | none => return d
  | some (_, none) => throw .missingValue
  | some (target, some value) => { d with pending := none }.give target value

def longOption? (word : String) : Option (String × Option String) :=
  match word.toList with
  | '-' :: '-' :: cs =>
    let name := String.ofList (cs.takeWhile (· != '='))
    match cs.dropWhile (· != '=') with
    | _ :: value => some (name, some (String.ofList value))
    | [] => some (name, none)
  | _ => none

def shortOptions? (word : String) : Option (List Char) :=
  match word.toList with
  | '-' :: c :: cs => if c = '-' then none else some (c :: cs)
  | _ => none

def Draft.inform (d : Draft) (refusal : Refusal) (value : Option String) :
    Except Refusal Draft := do
  if value.isSome then throw .surplusValue
  let _ ← d.settle
  throw refusal

def Draft.option (d : Draft) (target : Target) (value : Option String) : Except Refusal Draft := do
  let d ← d.settle
  match value with
  | some v => d.give target v
  | none => return { d with pending := some (target, none) }

def Draft.long (d : Draft) (name : String) (value : Option String) : Except Refusal Draft :=
  match name with
  | "runtime" => d.option .runtime value
  | "fast-slots" => d.option .slots value
  | "help" => d.inform .help value
  | "version" => d.inform .version value
  | _ => throw .unknownWord

def Draft.short (d : Draft) : List Char → Except Refusal Draft
  | 'h' :: _ => d.inform .help none
  | 'V' :: _ => d.inform .version none
  | _ => throw .unknownWord

def Draft.positional (d : Draft) (word : String) : Except Refusal Draft := do
  match d.positionals with
  | 0 => return { ← d.settle with pending := some (.input, some word), positionals := 1 }
  | 1 => return { ← d.settle with pending := some (.output, some word), positionals := 2 }
  | _ => throw .unknownWord

/-- A word that is no option is the value of the option before it, if that waits for one. -/
def Draft.value (d : Draft) (word : String) : Except Refusal Draft :=
  match d.pending with
  | some (target, none) => return { d with pending := some (target, some word) }
  | _ => d.positional word

def Draft.word (d : Draft) (word : String) : Except Refusal Draft :=
  if d.escaped then d.positional word
  else if word == "--" then return { d with escaped := true }
  else
    match longOption? word, shortOptions? word with
    | some (name, value), _ => d.long name value
    | none, some letters => d.short letters
    | none, none => d.value word

def ofWords (words : List String) : Except Refusal Command := do
  let d ← (← words.foldlM Draft.word {}).settle
  match d.input with
  | none => throw .missingInput
  | some input =>
    return {
      input := input
      output := d.output.getD "out"
      runtime := d.runtime.getD "pulp.lua"
      fastSlots := d.slots.getD Variable.fastDefault }

end Command

end PulpGame
