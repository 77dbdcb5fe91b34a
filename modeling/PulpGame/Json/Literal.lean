import PulpGame.Json.Fault

namespace PulpGame.Json

namespace Literal

inductive Piece where
  | char (c : Char)
  | code (unit : Nat)
deriving DecidableEq, Repr

inductive End where
  | closed
  | broken (fault waiting : Fault)
deriving DecidableEq, Repr

def hexDigit? (c : Char) : Option Nat :=
  if c.isDigit then some (c.toNat - 48)
  else if 'a' ≤ c && c ≤ 'f' then some (c.toNat - 87)
  else if 'A' ≤ c && c ≤ 'F' then some (c.toNat - 55)
  else none

def codeUnit? (a b c d : Char) : Option Nat := do
  return (((← hexDigit? a) * 16 + (← hexDigit? b)) * 16 + (← hexDigit? c)) * 16 + (← hexDigit? d)

def badCode (cs : List Char) : End :=
  if (String.ofList cs).utf8ByteSize < 4 then .broken .endInText .endInText
  else .broken .badEscape .badEscape

def escaped? : Char → Option Char
  | '"' => some '"'
  | '\\' => some '\\'
  | '/' => some '/'
  | 'b' => some '\x08'
  | 'f' => some '\x0c'
  | 'n' => some '\n'
  | 'r' => some '\r'
  | 't' => some '\t'
  | _ => none

def scan : List Char → List Piece × End × List Char
  | [] => ([], .broken .endInText .endInText, [])
  | '"' :: rest => ([], .closed, rest)
  | '\\' :: 'u' :: a :: b :: c :: d :: rest =>
    match codeUnit? a b c d with
    | some unit => (scan rest).map (.code unit :: ·) id
    | none => ([], badCode (a :: b :: c :: d :: rest), rest)
  | '\\' :: 'u' :: rest => ([], badCode rest, [])
  | '\\' :: c :: rest =>
    match escaped? c with
    | some e => (scan rest).map (.char e :: ·) id
    | none => ([], .broken .badEscape .pairCutShort, rest)
  | ['\\'] => ([], .broken .endInText .endInText, [])
  | c :: rest =>
    if c.toNat < 32 then ([], .broken .controlCharacter .pairCutShort, rest)
    else (scan rest).map (.char c :: ·) id

def isHighSurrogate (n : Nat) : Bool := 0xD800 ≤ n && n ≤ 0xDBFF

def isLowSurrogate (n : Nat) : Bool := 0xDC00 ≤ n && n ≤ 0xDFFF

def pair (high low : Nat) : Char := Char.ofNat (0x10000 + (high - 0xD800) * 0x400 + (low - 0xDC00))

def End.waiting : End → Fault
  | .closed => .pairCutShort
  | .broken _ waiting => waiting

def chars (stop : End) : List Piece → Except Fault (List Char)
  | [] =>
    match stop with
    | .closed => .ok []
    | .broken fault _ => .error fault
  | .char c :: ps => (c :: ·) <$> chars stop ps
  | .code n :: ps =>
    if isLowSurrogate n then .error .loneSurrogate
    else if isHighSurrogate n then
      match ps with
      | .code m :: ps =>
        if isLowSurrogate m then (pair n m :: ·) <$> chars stop ps else .error .loneSurrogate
      | .char _ :: _ => .error .pairCutShort
      | [] => .error stop.waiting
    else (Char.ofNat n :: ·) <$> chars stop ps

def value (ps : List Piece) (stop : End) : Except Fault String := String.ofList <$> chars stop ps

end Literal

end PulpGame.Json
