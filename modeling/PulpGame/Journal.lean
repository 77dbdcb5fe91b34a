namespace PulpGame

namespace Journal

inductive Level where
  | debug
  | info
  | warn
deriving DecidableEq, Repr

def Level.word : Level → String
  | .debug => "DEBUG"
  | .info => "INFO"
  | .warn => "WARN"

inductive Topic where
  | document
  | frames
  | scripts
  | storage
  | mimics
  | sheets
  | run
deriving DecidableEq, Repr

structure Entry where
  topic : Topic
  level : Level
  text : String
deriving DecidableEq, Repr

def Entry.line (e : Entry) : String := e.level.word ++ " " ++ e.text

end Journal

/-- A computation that keeps a journal and may fail; a failure keeps what was written before it. -/
abbrev Journaled (ε : Type) := ExceptT ε (StateM (List Journal.Entry))

namespace Journaled

variable {ε α : Type}

def write (topic : Journal.Topic) (level : Journal.Level) (text : String) : Journaled ε Unit :=
  modify (· ++ [⟨topic, level, text⟩])

def ofExcept : Except ε α → Journaled ε α
  | .ok a => pure a
  | .error e => throw e

def start (x : Journaled ε α) : Except ε α × List Journal.Entry := x.run.run []

end Journaled

end PulpGame
