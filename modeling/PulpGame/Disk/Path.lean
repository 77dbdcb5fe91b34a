import PulpGame.Text.Basic
/-!
Paths: texts that name files.

Steps are what stands between slashes. Empty steps do not count, a single dot leads nowhere, and two
dots lead to the directory above.
-/

namespace PulpGame.Disk

structure Path where
  text : String
deriving DecidableEq, Repr

namespace Path

def absolute (p : Path) : Bool := p.text.toList.head? == some '/'

def steps (p : Path) : List String :=
  ((Text.pieces '/' p.text.toList).filter (!·.isEmpty)).map String.ofList

def slashed (p : Path) : Bool := p.text.toList.getLast? == some '/'

def holdsNull (p : Path) : Bool := p.text.toList.contains '\x00'

def named (p : Path) : List String := p.steps.filter (· != ".")

/-- The name of the file that a path leads to; a path that ends with the directory above, or has no
steps, names none. -/
def fileName? (p : Path) : Option String :=
  match p.named.getLast? with
  | some ".." => none
  | name => name

/-- The path of the directory that is so many named steps down. All of them lead to the path as it
is written, with the dots and slashes behind its last name. -/
def upTo (p : Path) (steps : Nat) : Path :=
  if p.named.length ≤ steps then p
  else ⟨(if p.absolute then "/" else "") ++ "/".intercalate (p.named.take steps)⟩

def join (directory file : String) : String :=
  if directory.isEmpty || directory.toList.getLast? == some '/' then directory ++ file
  else directory ++ "/" ++ file

end Path

end PulpGame.Disk
