import PulpGame.Number.Shortest

namespace PulpGame

structure Layout where
  /-- The exponents of a first digit for which no exponent is written; all of them if absent. -/
  positional : Option (Int × Int)
  wholePoint : Bool
  tie : Tie

namespace Layout

def zeros (n : Nat) : String := String.ofList (List.replicate n '0')

def place (l : Layout) (digits : String) (exponent : Int) : String :=
  let point : Int := digits.length + exponent
  if 0 ≤ exponent then
    digits ++ zeros exponent.toNat ++ (if l.wholePoint then ".0" else "")
  else if 0 < point then
    String.ofList (digits.toList.take point.toNat) ++ "." ++
      String.ofList (digits.toList.drop point.toNat)
  else "0." ++ zeros (-point).toNat ++ digits

def scientific (digits : String) (leading : Int) : String :=
  let first := String.ofList (digits.toList.take 1)
  let others := String.ofList (digits.toList.drop 1)
  let mantissa := if others.isEmpty then first else first ++ "." ++ others
  let exponent := if leading < 0 then "-" ++ toString (-leading).toNat
    else "+" ++ toString leading.toNat
  mantissa ++ "e" ++ exponent

def decimal (l : Layout) (d : Decimal) : String :=
  let digits := toString d.digits
  let leading : Int := digits.length + d.exponent - 1
  match l.positional with
  | none => l.place digits d.exponent
  | some (least, greatest) =>
    if least ≤ leading ∧ leading ≤ greatest then l.place digits d.exponent
    else scientific digits leading

def text (l : Layout) (x : Binary64) : String :=
  match x.value with
  | .nan => "NaN"
  | .infinity negative => if negative then "-inf" else "inf"
  | .finite negative m q =>
    (if negative then "-" else "") ++
      l.decimal (if m = 0 then ⟨0, 0⟩ else Decimal.shortest l.tie m q)

end Layout

end PulpGame
