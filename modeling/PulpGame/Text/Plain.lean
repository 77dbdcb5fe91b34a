/-!
Plain text: what a terminal shows of a text once it has taken the control sequences out.

A control sequence starts with an escape character. Commands end with a letter, texts for the
terminal with a string terminator. White space inside a command is shown; all else of a sequence is
not.
-/

namespace PulpGame.Text

namespace Terminal

inductive Stage where
  | entry
  | parameters
  | intermediates
  | spoilt
deriving DecidableEq, Repr

inductive State where
  | ground
  | escape
  | escapeMiddle
  | command (stage : Stage)
  | device (stage : Stage)
  | system
  | string
deriving DecidableEq, Repr

/-- The byte that ends a text for the terminal, which a character of several bytes may hold. -/
def terminator : UInt8 := 0x9c

def holdsTerminator (c : Char) : Bool := (String.utf8EncodeChar c).contains terminator

def isShownControl (c : Char) : Bool := c = '\t' || c = '\n' || c = '\x0c' || c = '\r'

def State.shows (s : State) (c : Char) : Bool :=
  match s with
  | .ground => isShownControl c || (0x20 ≤ c.toNat && c ≠ '\x7f')
  | .escape | .escapeMiddle | .command _ => isShownControl c
  | .device _ | .system | .string => false

def Stage.next? (stage : Stage) (c : Char) : Option Stage :=
  if c < '0' then
    match stage with
    | .spoilt => some .spoilt
    | _ => some .intermediates
  else if c < '@' then
    match stage with
    | .entry => some .parameters
    | .parameters => if c < '<' then some .parameters else some .spoilt
    | .intermediates | .spoilt => some .spoilt
  else none

def State.next? (s : State) (c : Char) : Option State :=
  if c = '\x18' ∨ c = '\x1a' then some .ground
  else if c = '\x1b' then some .escape
  else
    let printable := ' ' ≤ c && c < '\x7f'
    match s with
    | .ground => if '\x7f' < c then some .ground else none
    | .escape =>
      if !printable then none
      else if c < '0' then some .escapeMiddle
      else if c = '[' then some (.command .entry)
      else if c = 'P' then some (.device .entry)
      else if c = ']' then some .system
      else if c = 'X' ∨ c = '^' ∨ c = '_' then some .string
      else some .ground
    | .escapeMiddle => if printable && '0' ≤ c then some .ground else none
    | .command stage =>
      if printable then some (((stage.next? c).map .command).getD .ground) else none
    | .device .spoilt => if holdsTerminator c then some .ground else none
    | .device stage =>
      if printable then some (((stage.next? c).map .device).getD .string) else none
    | .system => if c = '\x07' then some .ground else none
    | .string => if holdsTerminator c then some .ground else none

def State.after (s : State) (c : Char) : State := (s.next? c).getD s

/-- What is shown if a character that is shown ends the sequence around it. -/
def shown (s : State) : List Char → List Char
  | [] => []
  | c :: cs => if s.shows c then c :: shown .ground cs else shown (s.after c) cs

/-- What is shown if a sequence goes on behind the characters that are shown inside it. These are
read as if they stood alone: `showing` says that the character before was shown. -/
def shownResuming (s : State) (showing : Bool) : List Char → List Char
  | [] => []
  | c :: cs =>
    let moved := (State.next? .ground c).getD s
    if showing && State.shows .ground c then c :: shownResuming moved true cs
    else
      let s := if showing then moved else s
      let t := s.after c
      if s.shows c then c :: shownResuming ((State.next? .ground c).getD t) true cs
      else shownResuming t false cs

end Terminal

def plain (s : String) : String := String.ofList (Terminal.shown .ground s.toList)

def plainResuming (s : String) : String :=
  String.ofList (Terminal.shownResuming .ground false s.toList)

end PulpGame.Text
