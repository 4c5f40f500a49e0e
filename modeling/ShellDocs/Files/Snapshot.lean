import ShellDocs.Files.Create

/-! # Snapshots

A file tree can be made of files that were read elsewhere. What a program did to it is the
difference between the tree before and the tree after.
-/

namespace ShellDocs.Files.FileTree

/-- Adds a file together with the directories above it. -/
def addFile (t : FileTree) (path : String) (contents : ByteArray) : FileTree :=
  let (u, _) := t.createDirectories ((Path.parent? path).getD "")
  match u.writeFile path contents with
  | .ok v => v
  | .error _ => u

/-- The tree of some files, with a directory in which relative paths start. -/
def ofFiles (directory : String) (files : List (String × ByteArray)) : FileTree :=
  let (t, _) := empty.createDirectories directory
  let t := match t.resolve directory with
    | .ok (.directory loc) => t.enter loc
    | _ => t
  files.foldl (fun t (path, contents) => t.addFile path contents) t

/-- What stands in a tree and did not stand in the tree before, from the top downwards. -/
def changes (before after : FileTree) : List (Location × Node) :=
  after.nodes.entries.filter fun e => before.get? e.1 ≠ some e.2

end ShellDocs.Files.FileTree
