import ShellDocs.Page.Group
import ShellDocs.Page.Link

/-! # The index page

Totals, the number of scripts in each category, and links to the other pages.
-/

namespace ShellDocs.Page

def scriptCount (n : Nat) : String := if n = 1 then "1 script" else toString n ++ " scripts"

def categoryItem (category : String) (scripts : List Script) : Part :=
  .item (category ++ ": " ++ scriptCount scripts.length)

def componentsItem : Part :=
  .item (link "Components Documentation" componentsFile ++
    " - Detailed documentation for all components")

def groupItem (group : String) (scripts : List Script) : Part :=
  .item (link (group ++ " Components") (groupFile group) ++ " - " ++ scriptCount scripts.length)

def index (options : Options) (docs : DocSet) : List Part :=
  [.heading 1 options.title,
    .paragraph
      "This documentation is automatically generated from docstrings in the shell scripts.",
    .labelled "Total Scripts" (toString docs.size),
    .label "Categories"]
    ++ docs.byCategory.entries.map (fun e => categoryItem e.1 e.2)
    ++ [.blank, .heading 2 "Documentation Pages", componentsItem]
    ++ (groups docs).entries.map (fun e => groupItem e.1 e.2)
    ++ [.blank]

end ShellDocs.Page
