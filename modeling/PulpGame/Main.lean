import PulpGame.Disk.Path
import PulpGame.Run.Report
import PulpGame.Sheet.Png

namespace PulpGame

namespace Disk

def Error.ofMachine (e : IO.Error) : Error :=
  match e with
  | .noFileOrDirectory .. => .notFound
  | .alreadyExists .. => .alreadyExists
  | .inappropriateType _ code _ =>
    if min code (0 - code) = 20 then .notDirectory
    else if min code (0 - code) = 21 then .isDirectory
    else .other (toString e)
  | .invalidArgument _ code _ =>
    if min code (0 - code) = 36 then .nameTooLong else .other (toString e)
  | e => .other (toString e)

def attempt {α : Type} (path : String) (x : IO α) : IO (Except Error α) := do
  if (Path.mk path).holdsNull then return .error .nullInPath
  match ← x.toBaseIO with
  | .ok a => return .ok a
  | .error e => return .error (.ofMachine e)

def probe (path : String) : IO (Except Error Unit) :=
  attempt path do let _ ← (← IO.FS.Handle.mk path .read).read 1

def Content.bytes : Content → ByteArray
  | .text s => s.toUTF8
  | .picture p => ⟨p.encode.toArray⟩

instance : FileSystem IO where
  isFile path := return (← probe path).isOk
  isDirectory path := do
    match ← probe path with
    | .error .isDirectory => return true
    | _ => return false
  readText path := do
    match ← attempt path (IO.FS.readBinFile path) with
    | .error e => return .error e
    | .ok bytes =>
      match String.fromUTF8? bytes with
      | some text => return .ok text
      | none => return .error .notText
  write path content := attempt path (IO.FS.writeBinFile path content.bytes)
  copy source target := do
    match ← probe source with
    | .error .isDirectory => return .error .notAFile
    | .error e => return .error e
    | .ok () =>
      attempt target do
        let file ← IO.FS.Handle.mk source .read
        let copied ← IO.FS.Handle.mk target .write
        copied.write (← file.readBinToEnd)
  makeDirectory path := attempt path (IO.FS.createDir path)

end Disk

namespace Program

def topicName : Journal.Topic → String
  | .document => "pulpgame::document"
  | .frames => "pulpgame::frames"
  | .scripts => "pulpgame::scripts"
  | .storage => "pulpgame::storage"
  | .mimics => "pulpgame::mimics"
  | .sheets => "pulpgame::sheets"
  | .run => "pulpgame"

def filterVariable : String := "PULPGAME_LOG"

end Program

end PulpGame

open PulpGame in
def main (words : List String) : IO UInt32 := do
  match Command.ofWords words with
  | .error refusal =>
    let text := refusal.message
    if refusal.isAnswer then
      IO.println text
      return 0
    else
      IO.eprintln text
      return 2
  | .ok command =>
    let (filter, faults) := match ← IO.getEnv Program.filterVariable with
      | some text => Journal.Filter.ofText text
      | none => (Journal.Filter.standard, [])
    let (result, journal) ← (Run.run command : Run.Running IO Unit).run.run []
    IO.eprint (Report.ofRun filter faults Program.topicName journal result)
    match result with
    | .ok () => return 0
    | .error _ => return 1
