import PulpGame.Journal
import PulpGame.Pattern
import PulpGame.Text.Basic

namespace PulpGame

namespace Journal

inductive Threshold where
  | off
  | error
  | warn
  | info
  | debug
  | trace
deriving DecidableEq, Repr

namespace Threshold

def rank : Threshold → Nat
  | .off => 0
  | .error => 1
  | .warn => 2
  | .info => 3
  | .debug => 4
  | .trace => 5

def ofWord? (s : String) : Option Threshold :=
  match s.toLower with
  | "off" => some .off
  | "error" => some .error
  | "warn" => some .warn
  | "info" => some .info
  | "debug" => some .debug
  | "trace" => some .trace
  | _ => none

def allows (t : Threshold) (l : Level) : Bool :=
  match l with
  | .warn => warn.rank ≤ t.rank
  | .info => info.rank ≤ t.rank
  | .debug => debug.rank ≤ t.rank

end Threshold

structure Directive where
  name : Option String
  threshold : Threshold
deriving DecidableEq, Repr

structure Filter where
  directives : List Directive
  pattern : Option Pattern
deriving DecidableEq, Repr

namespace Filter

inductive Fault where
  | threshold (word : String)
  | directive (text : String)
  | slashes (text : String)
  | pattern (text : String) (refusal : Pattern.Refusal)
deriving DecidableEq, Repr

def Fault.message : Fault → String
  | .threshold word => s!"warning: invalid logging spec '{word}', ignoring it"
  | .directive text => s!"warning: invalid logging spec '{text}', ignoring it"
  | .slashes text => s!"warning: invalid logging spec '{text}' (too many '/'s), ignoring it"
  | .pattern text refusal =>
    s!"warning: invalid regex filter - {refusal.message text}, ignoring it"

def directive (cs : List Char) : Except Fault Directive :=
  match Text.pieces '=' cs with
  | [word] =>
    match Threshold.ofWord? (String.ofList word) with
    | some t => .ok ⟨none, t⟩
    | none => .ok ⟨some (String.ofList word), .trace⟩
  | [name, word] =>
    match String.ofList (Text.trimBlanks word) with
    | "" => .ok ⟨some (String.ofList name), .trace⟩
    | word =>
      match Threshold.ofWord? word with
      | some t => .ok ⟨some (String.ofList name), t⟩
      | none => .error (.threshold word)
  | _ => .error (.directive (String.ofList cs))

def addDirective (ds : List Directive) (d : Directive) : List Directive :=
  if ds.any (·.name == d.name) then ds.map fun e => if e.name == d.name then d else e
  else ds ++ [d]

/-- What holds if there is no directive: only errors are shown. -/
def orErrors (ds : List Directive) : List Directive :=
  if ds.isEmpty then [⟨none, .error⟩] else ds

def readDirectives (cs : List Char) : List Directive × List Fault :=
  let words := ((Text.pieces ',' cs).map Text.trimBlanks).filter (!·.isEmpty)
  words.foldl (fun (found, faults) word =>
    match directive word with
    | .ok d => (addDirective found d, faults)
    | .error fault => (found, faults ++ [fault])) ([], [])

def ofText (s : String) : Filter × List Fault :=
  match Text.pieces '/' s.toList with
  | _ :: _ :: _ :: _ => (⟨orErrors [], none⟩, [.slashes s])
  | parts =>
    let (found, faults) := readDirectives (parts.headD [])
    match parts[1]? with
    | none => (⟨orErrors found, none⟩, faults)
    | some cs =>
      let text := String.ofList cs
      match Pattern.ofText text with
      | .ok pattern => (⟨orErrors found, some pattern⟩, faults)
      | .error refusal => (⟨orErrors found, none⟩, faults ++ [.pattern text refusal])

def standard : Filter := ⟨[⟨none, .info⟩], none⟩

def Directive.reach (d : Directive) : Nat := (d.name.getD "").length

/-- The directive with the longest name counts among those that hold for the topic; of two with
names of one length the later. -/
def threshold (f : Filter) (topic : String) : Threshold :=
  let holding := f.directives.filter fun d => (d.name.getD "").toList.isPrefixOf topic.toList
  let best := holding.foldl (fun (best : Option Directive) d =>
    match best with
    | some b => if Directive.reach d < Directive.reach b then some b else some d
    | none => some d) none
  (best.map (·.threshold)).getD .off

def shows (f : Filter) (name : Topic → String) (e : Entry) : Bool :=
  (f.threshold (name e.topic)).allows e.level &&
    match f.pattern with
    | some p => p.occursIn e.text
    | none => true

end Filter

end Journal

end PulpGame
