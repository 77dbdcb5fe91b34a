namespace PulpGame

namespace Mimic

/-- The handler of `script` for `event` falls back on that of `target`. -/
structure Request where
  script : String
  event : String
  target : String
deriving DecidableEq, Repr

def anyEvent : String := "any"

def Request.isWildcard (r : Request) : Bool := r.event == anyEvent

end Mimic

inductive Note where
  | use (name : String)
  | mimic (request : Mimic.Request)
  | diagnostic (text : String)
deriving DecidableEq, Repr

namespace Note

def used? : Note → Option String
  | .use v => some v
  | _ => none

def request? : Note → Option Mimic.Request
  | .mimic r => some r
  | _ => none

def text? : Note → Option String
  | .diagnostic t => some t
  | _ => none

end Note

structure Ledger where
  notes : List Note := []
  tiles : List (String × Int) := []

def sortedOnce (texts : List String) : List String :=
  texts.eraseDups.mergeSort fun a b => decide (a ≤ b)

namespace Ledger

def note (l : Ledger) (n : Note) : Ledger := { l with notes := l.notes ++ [n] }

def enterTile (l : Ledger) (name : String) (id : Int) : Ledger :=
  { l with tiles := l.tiles ++ [(name, id)] }

def tileId? (l : Ledger) (name : String) : Option Int :=
  (l.tiles.reverse.find? (·.1 == name)).map (·.2)

def uses (l : Ledger) : List String := l.notes.filterMap Note.used?

def usage (l : Ledger) : List (String × Nat) :=
  let uses := l.uses
  (sortedOnce uses).map fun v => (v, uses.count v)

def mimics (l : Ledger) : List Mimic.Request := l.notes.filterMap Note.request?

def diagnostics (l : Ledger) : List String := sortedOnce (l.notes.filterMap Note.text?)

end Ledger

end PulpGame
