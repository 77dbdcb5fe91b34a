import PulpGame.Pattern.Meaning
import PulpGame.Pattern.Reading

namespace PulpGame

structure Pattern where
  text : String
  meaning : Pattern.Regular
deriving DecidableEq, Repr

namespace Pattern

inductive Refusal where
  | faulty (fault : Fault)
  | tooLarge
  | unknownEdge
deriving DecidableEq, Repr

def weightLimit : Nat := 10485760

def Refusal.message (text : String) : Refusal → String
  | .faulty fault => fault.report text
  | .tooLarge => s!"Compiled regex exceeds size limit of {weightLimit} bytes."
  | .unknownEdge => "error building NFA"

def ofText (text : String) : Except Refusal Pattern := do
  let term ← (Term.ofText text).mapError Refusal.faulty
  let (meaning, _) ← (term.meaning.run {}).mapError Refusal.faulty
  if weightLimit < meaning.weight then throw .tooLarge
  if meaning.hasUnknownEdge then throw .unknownEdge
  return { text, meaning }

def occursIn (p : Pattern) (text : String) : Bool := p.meaning.occursIn text

end Pattern

end PulpGame
