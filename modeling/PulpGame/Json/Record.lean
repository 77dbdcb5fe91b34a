import PulpGame.Json.Tree

namespace PulpGame.Json

abbrev Reader (α : Type) := Tree → Except Fault α

namespace Reader

def mismatch {α : Type} (wanted : String) : Reader α
  | .null => .error (.unexpected .null wanted)
  | .boolean b => .error (.unexpected (.boolean b) wanted)
  | .number n => do throw (.unexpected (.number (← n).val) wanted)
  | .text s => do throw (.unexpected (.text (← s)) wanted)
  | .sequence _ _ => .error (.unexpected .sequence wanted)
  | .mapping _ _ => .error (.unexpected .mapping wanted)
  | .broken defect => .error defect.kept

def integer (name : String) (least greatest : Int) : Reader Int
  | .number n => do
    match (← n).val with
    | .integer i =>
      if least ≤ i ∧ i ≤ greatest then return i else throw (.outOfRange i name)
    | .double x h => throw (.unexpected (.number (.double x h)) name)
  | tree => mismatch name tree

def int64 : Reader Int := integer "i64" Int64.minValue.toInt Int64.maxValue.toInt

def nat64 : Reader Nat := fun tree => Int.toNat <$> integer "u64" 0 (UInt64.size - 1 : Nat) tree

def byte : Reader UInt8 := fun tree => (UInt8.ofNat ·.toNat) <$> integer "u8" 0 255 tree

def real : Reader Binary64
  | .number n => do
    match (← n).val with
    | .integer i => return .ofRatio (i < 0) i.natAbs 1
    | .double x _ => return x
  | tree => mismatch "f64" tree

def boolean : Reader Bool
  | .boolean b => .ok b
  | tree => mismatch "a boolean" tree

def text : Reader String
  | .text s => s
  | tree => mismatch "a string" tree

def list {α : Type} (item : Reader α) : Reader (List α)
  | .sequence items close => do
    let found ← items.mapM item
    Tree.closeKept close
    return found
  | tree => mismatch "a sequence" tree

def optional {α : Type} (value : Reader α) : Reader (Option α)
  | .null => .ok none
  | tree => some <$> value tree

def members (room : Nat) : Reader (List (String × Value))
  | .mapping found close => do
    let values ← Tree.keepMembers room [] found
    Tree.closeKept close
    return values
  | tree => mismatch "a map" tree

end Reader

structure Draft (σ : Type) where
  empty : σ
  member : σ → String → Reader σ

structure Shape where
  name : String
  fields : List String
  required : Nat

def once {α : Type} (name : String) (place : Option α) (reader : Reader α) (tree : Tree) :
    Except Fault (Option α) :=
  match place with
  | some _ => .error (.duplicateField name)
  | none => some <$> reader tree

def need {α : Type} (name : String) (place : Option α) : Except Fault α :=
  match place with
  | some a => .ok a
  | none => .error (.missingField name)

def closeRecord (others : List Tree) (close : Option Defect) : Except Fault Unit :=
  match others, close with
  | [], none => .ok ()
  | [], some defect =>
    match defect.kept with
    | .trailingComma => .error .trailingComma
    | .endInList => .error .endInList
    | _ => .error .trailingText
  | _ :: _, _ => .error .trailingText

def Reader.record {σ α : Type} (shape : Shape) (draft : Draft σ) (finish : σ → Except Fault α) :
    Reader α
  | .mapping found close => do
    let s ← found.foldlM (fun s (key, tree) => do draft.member s (← key) tree) draft.empty
    Tree.closeKept close
    finish s
  | .sequence items close => do
    let size := shape.fields.length
    let s ← (shape.fields.zip items).foldlM (fun s (key, tree) => draft.member s key tree)
      draft.empty
    if items.length < size then
      Tree.closeKept close
      if items.length < shape.required then throw (.tooShort items.length shape.name size)
      finish s
    else
      let record ← finish s
      closeRecord (items.drop size) close
      return record
  | tree => mismatch shape.name tree

end PulpGame.Json
