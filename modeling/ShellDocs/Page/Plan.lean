import ShellDocs.Page.Components
import ShellDocs.Page.Index
import ShellDocs.Page.Navigation

/-! # The files of a site

Every file that belongs to a set of documented scripts, in the order of writing.
-/

namespace ShellDocs.Page

structure PlannedFile where
  name : String
  contents : String
deriving DecidableEq

def plan (options : Options) (docs : DocSet) : List PlannedFile :=
  (groups docs).entries.map (fun e => ⟨groupFile e.1, render (groupPage options e.1 e.2)⟩) ++
    [⟨navigationFile, navigation (groups docs).keys⟩,
      ⟨componentsFile, render (components docs)⟩,
      ⟨indexFile, render (index options docs)⟩]

end ShellDocs.Page
