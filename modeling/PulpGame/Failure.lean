import PulpGame.Block.Syntax

namespace PulpGame

inductive Failure where
  | schemaViolation (text : String)
  | badPixel (frame index : Nat) (value : UInt8)
  | frameSize (frame length : Nat)
  | unknownFrame (tile : String) (frame : Nat)
  | reservedVariable (name : String)
  | unknownOwner (kind : Nat)
  | malformedEvent (script event : String)
  | malformedBlock (script event : String) (fault : Block.Fault)
  | unwritable
deriving Repr

def Failure.message : Failure → String
  | .schemaViolation text => "schema violation: " ++ text
  | .badPixel frame index value => s!"frame {frame}: pixel {index} is {value}"
  | .frameSize frame length => s!"frame {frame}: expected 64 pixels, got {length}"
  | .unknownFrame tile frame => s!"tile `{tile}` references unknown frame {frame}"
  | .reservedVariable name => s!"variables cannot start with __: `{name}`"
  | .unknownOwner kind => s!"unknown script type {kind}"
  | .malformedEvent script event =>
    s!"script `{script}`, event `{event}`: expected [\"block\", n]"
  | .malformedBlock script event fault => s!"script `{script}`, event `{event}`: " ++ fault.message
  | .unwritable => "an error occurred when formatting an argument"

end PulpGame
