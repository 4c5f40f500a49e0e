import ShellDocs.Text.Case

/-! # Anchors and links

A heading is reached by its text in lower case with hyphens for spaces. Punctuation stays.
-/

namespace ShellDocs.Page

def anchor (text : String) : String :=
  String.ofList ((Text.lower text).toList.map (fun c => if c = ' ' then '-' else c))

def link (text target : String) : String := "[" ++ text ++ "](" ++ target ++ ")"

/-- A link to the heading with this text on the same page. -/
def headingLink (text : String) : String := link text ("#" ++ anchor text)

def headingItem (text : String) : String := "- " ++ headingLink text

end ShellDocs.Page
