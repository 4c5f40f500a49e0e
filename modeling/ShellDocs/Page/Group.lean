import ShellDocs.Page.Options
import ShellDocs.Page.Section
import ShellDocs.Text.Case

/-! # Pages of the directory groups

Each directory group has a page named for it, unless that file name is one of the fixed
pages or belongs to an earlier group.
-/

namespace ShellDocs.Page

def indexFile : String := "index.md"

def componentsFile : String := "components.md"

def navigationFile : String := "mkdocs_nav.yml"

def reservedFiles : List String := [indexFile, componentsFile, navigationFile]

def groupFile (group : String) : String := Text.lower group ++ ".md"

/-- Gives each file name to the first group that asks for it and finds it free. -/
def claimFiles (taken : List String) : List (String × List Script) → List (String × List Script)
  | [] => []
  | g :: rest =>
    if groupFile g.1 ∈ taken then claimFiles taken rest
    else g :: claimFiles (groupFile g.1 :: taken) rest

theorem claimFiles_sublist (taken : List String) (groups : List (String × List Script)) :
    (claimFiles taken groups).Sublist groups := by
  induction groups generalizing taken with
  | nil => exact .slnil
  | cons g rest ih =>
    unfold claimFiles
    split
    · exact (ih _).cons _
    · exact (ih _).cons_cons _

/-- The groups that have a page. -/
def groups (docs : DocSet) : OrderedMap String (List Script) where
  entries := claimFiles reservedFiles docs.byDirectory.entries
  ascending := docs.byDirectory.ascending.sublist (claimFiles_sublist _ _)

/-- The groups that have none, in ascending order. -/
def groupsWithoutPage (docs : DocSet) : List String :=
  docs.byDirectory.keys.filter (fun g => !(groups docs).contains g)

def trimSlashesEnd (text : String) : String :=
  String.ofList (text.toList.reverse.dropWhile (· = '/')).reverse

/-- Downloads the script at `path` and runs it. -/
def installCommand (options : Options) (path : String) : String :=
  "/bin/bash -c \"$(curl -fsSL " ++ trimSlashesEnd options.installBase ++ "/" ++ path ++ ")\""

/-- The file name of a script without its extension. -/
def scriptStem (path : String) : String :=
  let name := baseName path
  match name.toList.reverse with
  | 'h' :: 's' :: '.' :: stem => String.ofList stem.reverse
  | _ => name

def groupScript (options : Options) (s : Script) : List Part :=
  [.heading 2 (s.2.title?.getD (scriptStem s.1))]
    ++ present (.labelled "Description") (s.2.value? "description")
    ++ present (.code "Usage") (s.2.value? "usage")
    ++ present (.labelled "Requirements") (s.2.value? "requires")
    ++ present (.labelled "Notes") (s.2.value? "notes")
    ++ [.code "Installation" (installCommand options s.1), .rule]

def groupPage (options : Options) (group : String) (scripts : List Script) : List Part :=
  [.heading 1 (group ++ " Components"),
    .paragraph ("Documentation for " ++ group ++ " installation scripts.")]
    ++ scripts.flatMap (groupScript options)

end ShellDocs.Page
