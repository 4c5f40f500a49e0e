/-! # Parts of a page

A page of markdown is a list of parts, each written on lines of its own.
-/

namespace ShellDocs.Page

inductive Part where
  | heading (level : Nat) (text : String)
  | paragraph (text : String)
  /-- A label that stands over a list. -/
  | label (label : String)
  | labelled (label text : String)
  | code (label code : String)
  /-- A line of a list, with the mark that makes it one. -/
  | line (text : String)
  | rule
  | blank
deriving DecidableEq

namespace Part

def item (text : String) : Part := .line ("- " ++ text)

def hashes (level : Nat) : String := String.ofList (List.replicate level '#')

def render : Part → String
  | heading level text => hashes level ++ " " ++ text ++ "\n\n"
  | paragraph text => text ++ "\n\n"
  | label l => "**" ++ l ++ ":**\n"
  | labelled l text => "**" ++ l ++ ":** " ++ text ++ "\n\n"
  | code l text => "**" ++ l ++ ":**\n```bash\n" ++ text ++ "\n```\n\n"
  | line text => text ++ "\n"
  | rule => "---\n\n"
  | blank => "\n"

end Part

def render (parts : List Part) : String := String.join (parts.map Part.render)

end ShellDocs.Page
