import ShellDocs.Files.Replace
import ShellDocs.Page.Plan
import ShellDocs.Scan.Collect

/-! # Generating the documentation

One run scans a tree, renders every page and writes the files. Nothing is written when no
script is documented.
-/

namespace ShellDocs

open Files

structure GenerateOptions where
  input : String
  output : String
  pages : Page.Options
deriving DecidableEq

structure Report where
  scripts : List String
  files : List String
deriving DecidableEq

/-- What came of an attempt: the file tree after it, the notices, and the result. -/
structure Outcome (α : Type) where
  tree : FileTree
  log : List Notice
  result : Except Error α

/-- Writes files into a directory one by one up to the first that fails. -/
def writeFiles (t : FileTree) (dir : String) :
    List Page.PlannedFile → FileTree × Except Error (List String)
  | [] => (t, .ok [])
  | f :: rest =>
    let path := Path.join dir f.name
    match t.replaceFile path f.contents.toUTF8 with
    | (u, .error e) => (u, .error (.write path e))
    | (u, .ok ()) =>
      match writeFiles u dir rest with
      | (v, .ok paths) => (v, .ok (path :: paths))
      | (v, .error e) => (v, .error e)

/-- Writes files into a directory, which is made if it is missing. -/
def writeAll (t : FileTree) (dir : String) (files : List Page.PlannedFile) :
    FileTree × Except Error (List String) :=
  match t.createDirectories dir with
  | (u, .error e) => (u, .error (.write dir e))
  | (u, .ok ()) => writeFiles u dir files

def planNotices (docs : DocSet) : List Notice :=
  (Page.groupsWithoutPage docs).map fun g => .groupSkipped g (Page.groupFile g)

def generate (t : FileTree) (options : GenerateOptions) : Outcome Report :=
  match scan t options.input with
  | .error e => ⟨t, [], .error e⟩
  | .ok ⟨docs, log⟩ =>
    if docs.isEmpty then ⟨t, log, .error (.nothingToDocument options.input)⟩
    else
      let log := log ++ planNotices docs
      match writeAll t options.output (Page.plan options.pages docs) with
      | (u, .error e) => ⟨u, log, .error e⟩
      | (u, .ok files) =>
        ⟨u, log ++ [.generated docs.size options.output], .ok ⟨docs.keys, files⟩⟩

end ShellDocs
