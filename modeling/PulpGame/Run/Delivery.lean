import PulpGame.Build
import PulpGame.Disk.Basic
import PulpGame.Disk.Path

namespace PulpGame.Delivery

open Disk (FileSystem Content)

def programFile : String := "main.lua"

/-- The file of the tiles. The runtime reads the size of a frame off the names of the sheets. -/
def tilesFile : String := "tiles-table-8-8.png"

def borderFile : String := "pipe-table-8-8.png"

def fontFile : String := "font-table-8-8.png"

variable {m : Type → Type} [Monad m] [FileSystem m]

def deliverProgram (program directory runtime : String) : ExceptT Disk.Error m Unit := do
  ExceptT.mk (FileSystem.write (Disk.Path.join directory programFile) (.text program))
  match (Disk.Path.mk runtime).fileName? with
  | none => throw (.noFileName runtime)
  | some name => ExceptT.mk (FileSystem.copy runtime (Disk.Path.join directory name))

inductive SheetFailure where
  | creating (path : String) (error : Disk.Error)
  | noWidth (withAlpha : Bool) (path : String)
  | writing (path : String) (error : Disk.Error)
deriving DecidableEq, Repr

def SheetFailure.messages : SheetFailure → List String
  | .creating path e => [s!"Creating {path}", e.message]
  | .noWidth withAlpha path =>
    [(if withAlpha then "Writing " else "PNG header for ") ++ path, "Zero width not allowed"]
  | .writing path e => [s!"Writing {path}", e.message]

abbrev Delivering (m : Type → Type) := ExceptT SheetFailure (StateT (List Journal.Entry) m)

def request (fail : Disk.Error → SheetFailure) (x : m (Except Disk.Error Unit)) :
    Delivering m Unit := do
  match ← (monadLift (monadLift x : StateT (List Journal.Entry) m _) : Delivering m _) with
  | .ok () => return ()
  | .error e => throw (fail e)

def deliverSheet (image : Sheet.Image) (path : String) : Delivering m Unit := do
  if image.height = 0 then
    modify (· ++ [⟨.sheets, .warn, s!"{path} has no frames, not written"⟩])
  else
    let withAlpha := match image.samples with
      | .gray _ => false
      | .grayAlpha _ => true
    request (if withAlpha then .writing path else .creating path)
      (FileSystem.write path (.text ""))
    -- An image without columns cannot have a header, but its file is there by now.
    if image.width = 0 then throw (.noWidth withAlpha path)
    request (.writing path) (FileSystem.write path (.picture (.ofImage image)))

def deliverSheets (tiles border font : Sheet.Image) (directory : String) : Delivering m Unit := do
  deliverSheet tiles (Disk.Path.join directory tilesFile)
  deliverSheet border (Disk.Path.join directory borderFile)
  deliverSheet font (Disk.Path.join directory fontFile)

end PulpGame.Delivery
