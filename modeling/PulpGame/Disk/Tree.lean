import PulpGame.Disk.Basic
import PulpGame.Disk.Path

namespace PulpGame.Disk

inductive Node where
  | directory
  | file (content : Content)
deriving DecidableEq, Repr

abbrev Location := List String

/-- Files and directories by their locations; of two entries for one location the first counts. -/
structure Tree where
  entries : List (Location × Node) := []
  current : Location := []
deriving DecidableEq

namespace Tree

def node? (t : Tree) (l : Location) : Option Node :=
  if l.isEmpty then some .directory else (t.entries.find? (·.1 == l)).map (·.2)

def put (t : Tree) (l : Location) (n : Node) : Tree := { t with entries := (l, n) :: t.entries }

def enter (t : Tree) (l : Location) : Except Error Location :=
  match t.node? l with
  | some .directory => .ok l
  | some (.file _) => .error .notDirectory
  | none => .error .notFound

def step (l : Location) : String → Location
  | "." => l
  | ".." => l.dropLast
  | name => l ++ [name]

def nameLimit : Nat := 255

def pathLimit : Nat := 4095

def walk (t : Tree) (l : Location) : List String → Except Error Location
  | [] => .ok l
  | s :: ss => do
    let directory ← t.enter l
    if nameLimit < s.utf8ByteSize then throw .nameTooLong
    walk t (step directory s) ss

def locate (t : Tree) (p : Path) : Except Error Location :=
  if p.holdsNull then .error .nullInPath
  else if pathLimit < p.text.utf8ByteSize then .error .nameTooLong
  else if p.text.isEmpty then .error .notFound
  else t.walk (if p.absolute then [] else t.current) p.steps

def find (t : Tree) (p : Path) : Except Error Node := do
  match t.node? (← t.locate p) with
  | none => throw .notFound
  | some (.file c) => if p.slashed then throw .notDirectory else return .file c
  | some .directory => return .directory

def isFile (t : Tree) (p : Path) : Bool :=
  match t.find p with
  | .ok (.file _) => true
  | _ => false

def isDirectory (t : Tree) (p : Path) : Bool :=
  match t.find p with
  | .ok .directory => true
  | _ => false

def readText (t : Tree) (p : Path) : Except Error String := do
  match ← t.find p with
  | .file (.text s) => return s
  | .file (.picture _) => throw .notText
  | .directory => throw .isDirectory

def write (t : Tree) (p : Path) (c : Content) : Except Error Tree := do
  let l ← t.locate p
  match t.node? l with
  | some .directory => throw .isDirectory
  | some (.file _) => if p.slashed then throw .notDirectory else return t.put l (.file c)
  | none => if p.slashed then throw .isDirectory else return t.put l (.file c)

def copy (t : Tree) (source target : Path) : Except Error Tree := do
  match ← t.find source with
  | .directory => throw .notAFile
  | .file _ =>
    -- The source is read once the target is empty, so a file copied onto itself ends up empty.
    let emptied ← t.write target (.text "")
    match ← emptied.find source with
    | .file c => emptied.write target c
    | .directory => throw .notAFile

def makeDirectory (t : Tree) (p : Path) : Except Error Tree := do
  let l ← t.locate p
  match t.node? l with
  | some _ => throw .alreadyExists
  | none => return t.put l .directory

def change (f : Tree → Except Error Tree) : StateM Tree (Except Error Unit) := fun t =>
  match f t with
  | .ok t => (.ok (), t)
  | .error e => (.error e, t)

end Tree

instance : FileSystem (StateM Tree) where
  isFile path t := (t.isFile ⟨path⟩, t)
  isDirectory path t := (t.isDirectory ⟨path⟩, t)
  readText path t := (t.readText ⟨path⟩, t)
  write path content := Tree.change (·.write ⟨path⟩ content)
  copy source target := Tree.change (·.copy ⟨source⟩ ⟨target⟩)
  makeDirectory path := Tree.change (·.makeDirectory ⟨path⟩)

end PulpGame.Disk
