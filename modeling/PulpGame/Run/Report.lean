import PulpGame.Journal.Filter
import PulpGame.Run.Session
import PulpGame.Text.Plain

namespace PulpGame

namespace Report

def lines (s : String) : List String :=
  (Text.pieces '\n' s.toList).map String.ofList

def text (ls : List String) : String := String.join (ls.map (· ++ "\n"))

def indented (first others : String) (s : String) : List String :=
  match lines s with
  | [] => [first]
  | l :: ls => (first ++ l) :: ls.map (others ++ ·)

def entry (e : Journal.Entry) : String := Text.plainResuming (text (indented "" "    " e.line))

def causes : List String → List String
  | [] => []
  | [cause] => ["", "Caused by:"] ++ indented "    " "    " cause
  | several =>
    ["", "Caused by:"] ++
      several.zipIdx.flatMap fun (cause, i) => indented s!"    {i}: " "       " cause

def failure : List String → String
  | [] => ""
  | message :: rest => text (lines ("Error: " ++ message) ++ causes rest)

def ofRun (filter : Journal.Filter) (faults : List Journal.Filter.Fault)
    (name : Journal.Topic → String) (entries : List Journal.Entry)
    (result : Except Run.Failure Unit) : String :=
  text (faults.map (·.message)) ++ String.join ((entries.filter (filter.shows name)).map entry) ++
    match result with
    | .ok () => ""
    | .error e => failure e.messages

end Report

end PulpGame
