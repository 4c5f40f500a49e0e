import ShellDocs.Files.Resolve

/-! # Listings

All that is found below a directory when links are followed.
-/

namespace ShellDocs.Files.FileTree

/-- The paths below `path`, with the contents of files. A directory comes before what it
holds. The fuel bounds the depth. -/
def listBelow (t : FileTree) : Nat → (path shown : String) → List (String × Option ByteArray)
  | 0, _, _ => []
  | fuel + 1, path, shown =>
    match t.resolve path with
    | .ok (.directory loc) =>
      (t.children loc).flatMap fun c =>
        let inner := Path.join path c.1
        let name := if shown = "" then c.1 else shown ++ "/" ++ c.1
        match t.resolve inner with
        | .ok (.directory _) => (name, none) :: t.listBelow fuel inner name
        | .ok (.file _ contents) => [(name, some contents)]
        | _ => [(name, none)]
    | _ => []

/-- A path passes through links at most forty times, and between two links through each
directory at most once. -/
def listing (t : FileTree) (path : String) : List (String × Option ByteArray) :=
  t.listBelow ((maxLinks + 1) * (t.nodes.size + 1)) path ""

end ShellDocs.Files.FileTree
