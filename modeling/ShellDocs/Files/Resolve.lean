import ShellDocs.Files.Error
import ShellDocs.Files.Path
import ShellDocs.Files.Tree

/-! # Where paths lead

A path is followed segment by segment. A symbolic link on the way is replaced by its
target, at most forty times.
-/

namespace ShellDocs.Files

/-- Where a path ends when all links are followed. -/
inductive Place where
  | directory (loc : Location)
  | file (loc : Location) (contents : ByteArray)
  /-- Nothing has this name, but the directory for it exists. -/
  | vacant (dir : Location) (name : String)

/-- Where a path ends, or the first link on it and what remains. -/
inductive Stop where
  | place (p : Place)
  | link (dir : Location) (target : String) (rest : List String)
  | failed (e : IoError)

def maxLinks : Nat := 40

def maxName : Nat := 255

def maxPath : Nat := 4095

/-- The segments that a path has to be led through. A path that ends in a slash must end in
a directory. -/
def route (path : String) : List String :=
  Path.segments path ++ if Path.endsInSlash path then ["."] else []

/-- A path that the file system takes up at all. -/
def checkPath (path : String) : Except IoError Unit :=
  if '\x00' ∈ path.toList then .error .nulInPath
  else if path = "" then .error .notFound
  else if maxPath < path.utf8ByteSize then .error .nameTooLong
  else .ok ()

namespace FileTree

def origin (t : FileTree) (path : String) : Location :=
  if Path.isAbsolute path then [] else t.cwd

/-- Follows segments from a directory up to the first link. -/
def stride (t : FileTree) (dir : Location) : List String → Stop
  | [] => .place (.directory dir)
  | name :: rest =>
    if name = "." then t.stride dir rest
    else if name = ".." then t.stride dir.dropLast rest
    else if maxName < name.utf8ByteSize then .failed .nameTooLong
    else match t.get? (dir ++ [name]) with
      | some .directory => t.stride (dir ++ [name]) rest
      | some (.file contents) =>
        if rest = [] then .place (.file (dir ++ [name]) contents) else .failed .notDirectory
      | some (.link target) => .link dir target rest
      | none => if rest = [] then .place (.vacant dir name) else .failed .notFound

/-- Follows segments from a directory through `links` links at most. -/
def follow (t : FileTree) : Nat → Location → List String → Except IoError Place
  | links, dir, segments =>
    match t.stride dir segments with
    | .place p => .ok p
    | .failed e => .error e
    | .link dir target rest =>
      match links with
      | 0 => .error .tooManyLinks
      | links + 1 =>
        t.follow links (if Path.isAbsolute target then [] else dir) (route target ++ rest)

def resolve (t : FileTree) (path : String) : Except IoError Place := do
  checkPath path
  t.follow maxLinks (t.origin path) (route path)

def isDirectoryAt (t : FileTree) (path : String) : Bool :=
  match t.resolve path with
  | .ok (.directory _) => true
  | _ => false

def isFileAt (t : FileTree) (path : String) : Bool :=
  match t.resolve path with
  | .ok (.file _ _) => true
  | _ => false

def readBytes (t : FileTree) (path : String) : Except IoError ByteArray := do
  match ← t.resolve path with
  | .file _ contents => .ok contents
  | .directory _ => .error .isDirectory
  | .vacant _ _ => .error .notFound

/-- The contents of a file as a text. -/
def textOf (contents : ByteArray) : Except IoError String :=
  match String.fromUTF8? contents with
  | some text => .ok text
  | none => .error .notUtf8

def readText (t : FileTree) (path : String) : Except IoError String := do
  textOf (← t.readBytes path)

/-- The directory that segments lead to. -/
def directoryFrom (t : FileTree) (start : Location) (segments : List String) :
    Except IoError Location := do
  match ← t.follow maxLinks start segments with
  | .directory loc => .ok loc
  | .file _ _ => .error .notDirectory
  | .vacant _ _ => .error .notFound

/-- The directory in which the last segment of a path stands, and that segment. Links before
it are followed, but not the last segment itself. -/
def slot (t : FileTree) (path : String) : Except IoError (Location × String) := do
  checkPath path
  let segments := Path.segments path
  match segments.getLast? with
  | none => .ok ([], ".")
  | some name =>
    let dir ← t.directoryFrom (t.origin path) segments.dropLast
    if maxName < name.utf8ByteSize then .error .nameTooLong else .ok (dir, name)

end FileTree

end ShellDocs.Files
