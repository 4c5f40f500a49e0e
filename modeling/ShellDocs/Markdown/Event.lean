/-! # Events

A document as a sequence of events: the start and the end of each element and the content
between them.
-/

namespace ShellDocs.Markdown

inductive Alignment where
  | none | left | center | right
deriving DecidableEq

inductive Tag where
  | paragraph
  /-- No heading that is read has an identifier, classes or attributes of its own. -/
  | heading (level : Nat) (id : Option String) (classes : List String := [])
      (attributes : List (String × Option String) := [])
  | quote
  | code (info : Option String)
  | list (start : Option Nat)
  | item
  | table (columns : List Alignment)
  | tableHead
  | tableRow
  | tableCell
  | emphasis
  | strong
  | strikethrough
  | link (target title : String)
  | mail (address : String)
  | image (target title : String)
deriving DecidableEq

inductive Event where
  | start (tag : Tag)
  | stop (tag : Tag)
  | text (s : String)
  | code (s : String)
  | html (s : String)
  | inlineHtml (s : String)
  | softBreak
  | hardBreak
  | rule
deriving DecidableEq

def around (tag : Tag) (events : List Event) : List Event := .start tag :: events ++ [.stop tag]

end ShellDocs.Markdown
