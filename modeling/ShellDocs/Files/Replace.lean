import ShellDocs.Files.Create

/-! # Replacing files

New contents are written to a temporary file, which is then renamed. Whoever looks for the
file finds its old contents or its new ones.
-/

namespace ShellDocs.Files.FileTree

def temporaryName (n : Nat) : String := String.ofList (".tmp".toList ++ List.replicate n 'x')

/-- A temporary name that nothing in the directory has. -/
def freshName (t : FileTree) (dir : Location) : String :=
  temporaryName <|
    ((List.range (t.nodes.size + 1)).find? fun n =>
      (t.get? (dir ++ [temporaryName n])).isNone).getD t.nodes.size

/-- The path of a temporary file from the top. Any six characters may stand at its end. -/
def temporaryPath (t : FileTree) (directory : String) : String :=
  Path.join (Path.join ("/" ++ "/".intercalate t.cwd) directory) ".tmpXXXXXX"

/-- The directory that a path leads to. The empty path stands for the one where relative paths
start. -/
def directoryAt (t : FileTree) (path : String) : Except IoError Location :=
  if path = "" then t.directoryFrom t.cwd []
  else do
    checkPath path
    t.directoryFrom (t.origin path) (route path)

/-- Puts an empty temporary file into a directory and gives its location. -/
@[irreducible] def createTemporary (t : FileTree) (directory : String) :
    Except IoError (FileTree × Location × String) := do
  checkPath (t.temporaryPath directory)
  let dir ← t.directoryAt directory
  let name := t.freshName dir
  .ok (t.put dir name (.file .empty), dir, name)

/-- Adds bytes to the end of a file. -/
def append (t : FileTree) (dir : Location) (name : String) (bytes : ByteArray) : FileTree :=
  match t.get? (dir ++ [name]) with
  | some (.file contents) => t.put dir name (.file (contents ++ bytes))
  | _ => t

/-- Gives a file the name at the end of `path`, in the stead of a file or link there. The
null character is refused before the path is followed. -/
def rename (t : FileTree) (dir : Location) (name : String) (path : String) :
    Except IoError FileTree := do
  if '\x00' ∈ path.toList then throw .invalidArgument
  let (newDir, newName) ← t.slot path
  match t.get? (dir ++ [name]) with
  | some (.file contents) =>
    if isDots newName then .error .busy
    else if Path.endsInSlash path then .error .notDirectory
    else if t.IsDirectory (newDir ++ [newName]) then .error .isDirectory
    else .ok ((t.remove (dir ++ [name])).put newDir newName (.file contents))
  | _ => .error .notFound

/-- Where the temporary file for a path is put. -/
def temporaryDirectory (path : String) : String := (Path.parent? path).getD "."

/-- Replaces the contents of a file as a whole. The temporary file is removed when it cannot
be renamed. -/
@[irreducible] def replaceFile (t : FileTree) (path : String) (contents : ByteArray) :
    FileTree × Except IoError Unit :=
  match t.createTemporary (temporaryDirectory path) with
  | .error e => (t, .error e)
  | .ok (u, dir, name) =>
    let v := u.append dir name contents
    match v.rename dir name path with
    | .ok w => (w, .ok ())
    | .error e => (v.remove (dir ++ [name]), .error e)

end ShellDocs.Files.FileTree
