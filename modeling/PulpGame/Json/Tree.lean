import PulpGame.Json.Numeral
import PulpGame.Json.Literal
/-!
A JSON text as a tree with its defects in place.

Whether a defect matters depends on what the text is read for: a value that nobody asks for is only
skipped, and then numbers may be of any size, halves of surrogate pairs may stand alone and nesting
may be of any depth. So `Tree.ofText` does not fail. It reads as far as any reader could and leaves
in the tree what is wrong and where, in the order of the text. `keep` turns a tree into a value;
`skip` passes over it.
-/

namespace PulpGame.Json

inductive Tree where
  | null
  | boolean (value : Bool)
  | number (value : Except Fault {n : Number // n.isExact})
  | text (value : Except Fault String)
  | sequence (items : List Tree) (close : Option Defect)
  | mapping (members : List (Except Fault String × Tree)) (close : Option Defect)
  | broken (defect : Defect)

namespace Tree

def isBlank (c : Char) : Bool := c == ' ' || c == '\t' || c == '\n' || c == '\r'

def dropBlanks (cs : List Char) : List Char := cs.dropWhile isBlank

abbrev Rest := Option (List Char)

def word (tree : Tree) : List Char → List Char → Tree × Rest
  | [], cs => (tree, some cs)
  | _ :: _, [] => (.broken (.plain .endInValue), none)
  | w :: ws, c :: cs => if c = w then word tree ws cs else (.broken (.plain .wordExpected), none)

def numeral (negative : Bool) (cs : List Char) : Tree × Rest :=
  match Numeral.scan negative cs with
  | .ok (n, rest) => (.number n.value, some rest)
  | .error defect => (.broken defect, none)

def literal (cs : List Char) : Except Defect (Except Fault String × List Char) :=
  let (pieces, stop, rest) := Literal.scan cs
  let content := Literal.value pieces stop
  match stop with
  | .closed => .ok (content, rest)
  | .broken fault _ =>
    match content with
    | .error kept => .error ⟨kept, fault⟩
    | .ok _ => .error (.plain fault)

mutual

def value (fuel : Nat) (cs : List Char) : Tree × Rest :=
  match fuel with
  | 0 => (.broken (.plain .endInValue), none)
  | fuel + 1 =>
    match dropBlanks cs with
    | [] => (.broken (.plain .endInValue), none)
    | 'n' :: cs => word .null ['u', 'l', 'l'] cs
    | 't' :: cs => word (.boolean true) ['r', 'u', 'e'] cs
    | 'f' :: cs => word (.boolean false) ['a', 'l', 's', 'e'] cs
    | '-' :: cs => numeral true cs
    | '"' :: cs =>
      match literal cs with
      | .ok (content, rest) => (.text content, some rest)
      | .error defect => (.broken defect, none)
    | '[' :: cs =>
      let (trees, close, rest) := items fuel true cs
      (.sequence trees close, rest)
    | '\x7b' :: cs =>
      let (found, close, rest) := members fuel true cs
      (.mapping found close, rest)
    | c :: cs =>
      if c.isDigit then numeral false (c :: cs) else (.broken (.plain .valueExpected), none)

def items (fuel : Nat) (first : Bool) (cs : List Char) : List Tree × Option Defect × Rest :=
  match fuel with
  | 0 => ([], some (.plain .endInList), none)
  | fuel + 1 =>
    match dropBlanks cs with
    | [] => ([], some (.plain .endInList), none)
    | ']' :: cs => ([], none, some cs)
    | c :: cs =>
      if first then item fuel (c :: cs)
      else if c ≠ ',' then ([], some (.plain .listSeparatorExpected), none)
      else
        match dropBlanks cs with
        | [] => ([], some (.plain .endInValue), none)
        | ']' :: _ => ([], some ⟨.trailingComma, .valueExpected⟩, none)
        | cs => item fuel cs

def item (fuel : Nat) (cs : List Char) : List Tree × Option Defect × Rest :=
  match fuel with
  | 0 => ([], some (.plain .endInList), none)
  | fuel + 1 =>
    match value fuel cs with
    | (tree, none) => ([tree], none, none)
    | (tree, some cs) =>
      let (trees, close, rest) := items fuel false cs
      (tree :: trees, close, rest)

def members (fuel : Nat) (first : Bool) (cs : List Char) :
    List (Except Fault String × Tree) × Option Defect × Rest :=
  match fuel with
  | 0 => ([], some (.plain .endInObject), none)
  | fuel + 1 =>
    match dropBlanks cs with
    | [] => ([], some (.plain .endInObject), none)
    | '\x7d' :: cs => ([], none, some cs)
    | c :: cs =>
      if first then member fuel (c :: cs)
      else if c ≠ ',' then ([], some (.plain .objectSeparatorExpected), none)
      else
        match dropBlanks cs with
        | [] => ([], some ⟨.endInValue, .endInObject⟩, none)
        | '\x7d' :: _ => ([], some ⟨.trailingComma, .keyExpected⟩, none)
        | cs => member fuel cs

def member (fuel : Nat) (cs : List Char) :
    List (Except Fault String × Tree) × Option Defect × Rest :=
  match fuel, cs with
  | fuel + 1, '"' :: cs =>
    match literal cs with
    | .error defect => ([], some defect, none)
    | .ok (key, cs) =>
      match dropBlanks cs with
      | [] => ([(key, .broken (.plain .endInObject))], none, none)
      | ':' :: cs =>
        match value fuel cs with
        | (tree, none) => ([(key, tree)], none, none)
        | (tree, some cs) =>
          let (found, close, rest) := members fuel false cs
          ((key, tree) :: found, close, rest)
      | _ => ([(key, .broken (.plain .colonExpected))], none, none)
  | _, _ => ([], some (.plain .keyExpected), none)

end

def ofText (text : String) : Tree × Rest :=
  let cs := text.toList
  -- Every step takes a character or is followed by one that does, so the fuel does not run out.
  value (3 * cs.length + 3) cs

def depthLimit : Nat := 127

def closeKept : Option Defect → Except Fault Unit
  | none => .ok ()
  | some defect => .error defect.kept

def closeSkipped : Option Defect → Except Fault Unit
  | none => .ok ()
  | some defect => .error defect.skipped

mutual

/-- The value of a tree, with no more than `room` sequences and mappings open in it at once. Of two
members with one key the later counts, at the place of the earlier. -/
def keep (room : Nat) : Tree → Except Fault Value
  | .null => .ok .null
  | .boolean b => .ok (.boolean b)
  | .number n => (.number ·.val) <$> n
  | .text s => .text <$> s
  | .sequence trees close => do
    if room = 0 then throw .tooDeep
    let values ← keepItems (room - 1) trees
    closeKept close
    return .list values
  | .mapping found close => do
    if room = 0 then throw .tooDeep
    let values ← keepMembers (room - 1) [] found
    closeKept close
    return .object values
  | .broken defect => .error defect.kept

def keepItems (room : Nat) : List Tree → Except Fault (List Value)
  | [] => .ok []
  | t :: ts => do
    let v ← t.keep room
    let vs ← keepItems room ts
    return v :: vs

def keepMembers (room : Nat) (found : List (String × Value)) :
    List (Except Fault String × Tree) → Except Fault (List (String × Value))
  | [] => .ok found
  | (key, t) :: ts => do
    let k ← key
    let v ← t.keep room
    keepMembers room (putMember found k v) ts

end

mutual

def skip : Tree → Except Fault Unit
  | .sequence trees close => do
    skipItems trees
    closeSkipped close
  | .mapping found close => do
    skipMembers found
    closeSkipped close
  | .broken defect => .error defect.skipped
  | _ => .ok ()

def skipItems : List Tree → Except Fault Unit
  | [] => .ok ()
  | t :: ts => do
    t.skip
    skipItems ts

def skipMembers : List (Except Fault String × Tree) → Except Fault Unit
  | [] => .ok ()
  | (_, t) :: ts => do
    t.skip
    skipMembers ts

end

end Tree

end PulpGame.Json
