import ShellDocs.DocSet
import ShellDocs.Page.Part

/-! # The section of a script

What the page of all components says about one script: its fields in a fixed order, each
only if it is there.
-/

namespace ShellDocs.Page

/-- The parts that an optional text gives rise to. -/
def present (part : String → Part) (text : Option String) : List Part :=
  (text.map part).toList

def displayName (s : Script) : String := s.2.title?.getD (baseName s.1)

def versionLine? (f : Fields) : Option String :=
  match f.value? "version", f.value? "author" with
  | none, none => none
  | some v, none => some ("*Version: " ++ v ++ "*")
  | none, some a => some ("*Author: " ++ a ++ "*")
  | some v, some a => some ("*Version: " ++ v ++ " | Author: " ++ a ++ "*")

def scriptSection (s : Script) : List Part :=
  [.heading 3 (displayName s)]
    ++ present .paragraph (s.2.value? "description")
    ++ [.labelled "File" ("`" ++ s.1 ++ "`")]
    ++ present (.labelled "Requirements") (s.2.value? "requires")
    ++ present (.code "Usage") (s.2.value? "usage")
    ++ present (.code "Example") (s.2.value? "example")
    ++ present (.labelled "Notes") (s.2.value? "notes")
    ++ present .paragraph (versionLine? s.2)

end ShellDocs.Page
