namespace PulpGame.Text

def pieces (separator : Char) : List Char → List (List Char)
  | [] => [[]]
  | c :: cs =>
    if c = separator then [] :: pieces separator cs
    else
      match pieces separator cs with
      | [] => [[c]]
      | p :: ps => (c :: p) :: ps

/-- The lines of a text without their ends: a line ends with a line feed, which a return may stand
in front of. What follows the last end is a line if there is anything. -/
def lines (s : String) : List String :=
  let ps := pieces '\n' s.toList
  let ended := ps.dropLast.map fun l => if l.getLast? == some '\r' then l.dropLast else l
  (ended ++ (ps.getLast?.toList.filter (!·.isEmpty))).map String.ofList

def isWithin (ranges : List (Nat × Nat)) (c : Char) : Bool :=
  ranges.any fun (first, last) => first ≤ c.toNat && c.toNat ≤ last

def blankRanges : List (Nat × Nat) := [
  (0x9, 0xd), (0x20, 0x20), (0x85, 0x85), (0xa0, 0xa0), (0x1680, 0x1680), (0x2000, 0x200a),
  (0x2028, 0x2029), (0x202f, 0x202f), (0x205f, 0x205f), (0x3000, 0x3000)]

def isBlank (c : Char) : Bool := isWithin blankRanges c

def trimBlanks (cs : List Char) : List Char :=
  (((cs.dropWhile isBlank).reverse).dropWhile isBlank).reverse

end PulpGame.Text
