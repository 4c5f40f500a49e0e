import ShellDocs.Files.Resolve

/-! # Changing a file tree

Directories are made one after the other, and what was made stays when a later one fails.
-/

namespace ShellDocs.Files.FileTree

/-- A segment that names no entry of its directory. -/
def isDots (name : String) : Bool := name = "." || name = ".."

def makeDirectory (t : FileTree) (path : String) : Except IoError FileTree := do
  let (dir, name) ← t.slot path
  if isDots name ∨ (t.get? (dir ++ [name])).isSome then .error .alreadyExists
  else .ok (t.put dir name .directory)

/-- Makes a directory where there is none. -/
def ensureDirectory (t : FileTree) (path : String) : Except IoError FileTree :=
  match t.makeDirectory path with
  | .ok u => .ok u
  | .error e => if t.isDirectoryAt path then .ok t else .error e

/-- Makes a directory and those above it, as far as they are missing. -/
def createDirectoriesWith : Nat → FileTree → String → FileTree × Except IoError Unit
  | 0, t, _ => (t, .ok ())
  | fuel + 1, t, path =>
    if path = "" then (t, .ok ())
    else match t.makeDirectory path with
      | .ok u => (u, .ok ())
      | .error .notFound =>
        match Path.parent? path with
        | none => (t, .error .notFound)
        | some parent =>
          match createDirectoriesWith fuel t parent with
          | (u, .error e) => (u, .error e)
          | (u, .ok ()) =>
            match u.ensureDirectory path with
            | .ok v => (v, .ok ())
            | .error e => (u, .error e)
      | .error e => if t.isDirectoryAt path then (t, .ok ()) else (t, .error e)

/-- A path has no more ancestors than segments. -/
def createDirectories (t : FileTree) (path : String) : FileTree × Except IoError Unit :=
  createDirectoriesWith ((Path.rawSegments path).length + 1) t path

/-- Writes a file in place, through links. -/
def writeFile (t : FileTree) (path : String) (contents : ByteArray) :
    Except IoError FileTree := do
  match ← t.resolve path with
  | .directory _ => .error .isDirectory
  | .file loc _ => .ok (t.put loc.dropLast (loc.getLastD "") (.file contents))
  | .vacant dir name => .ok (t.put dir name (.file contents))

def makeLink (t : FileTree) (path target : String) : Except IoError FileTree := do
  let (dir, name) ← t.slot path
  if isDots name ∨ (t.get? (dir ++ [name])).isSome then .error .alreadyExists
  else .ok (t.put dir name (.link target))

/-- Removes an entry of a directory: a file, a link itself, or a directory with all that it
holds. -/
def removeAt (t : FileTree) (path : String) : Except IoError FileTree := do
  let (dir, name) ← t.slot path
  if isDots name then .error .busy
  else if (t.get? (dir ++ [name])).isNone then .error .notFound
  else .ok (t.remove (dir ++ [name]))

end ShellDocs.Files.FileTree
