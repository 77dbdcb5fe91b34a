import PulpGame.Disk.Path
import PulpGame.Sheet.Png

namespace PulpGame.Disk

inductive Content where
  | text (value : String)
  | picture (value : Sheet.Png)
deriving DecidableEq, Repr

inductive Error where
  | notFound
  | isDirectory
  | notDirectory
  | alreadyExists
  | notAFile
  | noFileName (path : String)
  | nameTooLong
  | nullInPath
  | notText
  | other (message : String)
deriving DecidableEq, Repr

def Error.message : Error → String
  | .notFound => "No such file or directory (os error 2)"
  | .isDirectory => "Is a directory (os error 21)"
  | .notDirectory => "Not a directory (os error 20)"
  | .alreadyExists => "File exists (os error 17)"
  | .notAFile => "the source path is neither a regular file nor a symlink to a regular file"
  | .noFileName path => s!"runtime path {path} has no file name"
  | .nameTooLong => "File name too long (os error 36)"
  | .nullInPath => "file name contained an unexpected NUL byte"
  | .notText => "stream did not contain valid UTF-8"
  | .other message => message

class FileSystem (m : Type → Type) where
  isFile : String → m Bool
  isDirectory : String → m Bool
  readText : String → m (Except Error String)
  write : String → Content → m (Except Error Unit)
  /-- Empties the second file, or makes it, and then puts into it what the first one holds. -/
  copy : String → String → m (Except Error Unit)
  makeDirectory : String → m (Except Error Unit)

variable {m : Type → Type} [Monad m] [FileSystem m]

def settle (path : String) (e : Error) : m (Except Error Unit) := do
  if ← FileSystem.isDirectory path then return .ok () else return .error e

/-- Makes the directory that is so many named steps down. -/
def createUpTo (p : Path) : (steps : Nat) → m (Except Error Unit)
  | 0 => return .ok ()
  | n + 1 => do
    let path := (p.upTo (n + 1)).text
    match ← FileSystem.makeDirectory path with
    | .ok () => return .ok ()
    | .error .notFound =>
      -- What has been made above stays, even if this one cannot be made in the end.
      match ← createUpTo p n with
      | .error e => return .error e
      | .ok () =>
        match ← FileSystem.makeDirectory path with
        | .ok () => return .ok ()
        | .error e => settle path e
    | .error e => settle path e

def createDirectories (path : String) : m (Except Error Unit) :=
  let p : Path := ⟨path⟩
  match p.named with
  | [] => if p.absolute || p.steps.isEmpty then return .ok () else createUpTo p 1
  | names => createUpTo p names.length

end PulpGame.Disk
