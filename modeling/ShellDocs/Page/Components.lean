import ShellDocs.Page.Link
import ShellDocs.Page.Section

/-! # The page of all components

Every script has its section under the heading of its category. A table of contents leads
to the categories.
-/

namespace ShellDocs.Page

def categoryParts (category : String) (scripts : List Script) : List Part :=
  .heading 2 category :: scripts.flatMap (fun s => scriptSection s ++ [.blank, .rule])

def components (docs : DocSet) : List Part :=
  [.heading 1 "Component Documentation",
    .paragraph "Auto-generated documentation from script docstrings.",
    .heading 2 "Table of Contents"]
    ++ docs.byCategory.keys.map (fun c => .line (headingItem c))
    ++ [.blank]
    ++ docs.byCategory.entries.flatMap (fun e => categoryParts e.1 e.2)

end ShellDocs.Page
