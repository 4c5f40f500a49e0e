import ShellDocs.Markdown.Container
import ShellDocs.Markdown.Event
import ShellDocs.Markdown.Span

/-! # Nodes

The blocks of a document, down to the spans of their lines.
-/

namespace ShellDocs.Markdown

inductive BlockKind where
  | paragraph
  | heading (level : Nat)
  | rule
  | code (info : Option String) (text : String)
  | html (text : String)
  | container (k : Container)
  | table (columns : List Alignment)
  | tableHead
  | tableRow
  | tableCell

inductive Node where
  | span (s : Span)
  | block (kind : BlockKind) (start : Place) (stop : Nat) (content : List Node)

namespace Node

def ofSpans (kind : BlockKind) (start : Place) (stop : Nat) (spans : List Span) : Node :=
  .block kind start stop (spans.map .span)

/-- The nodes that a paragraph holds. An empty one and any other block stand for themselves. -/
def unwrapped (n : Node) : List Node :=
  match n with
  | .block .paragraph _ _ (first :: rest) => first :: rest
  | _ => [n]

/-- An item of a tight list, whose paragraphs have no element of their own. Nothing is left
of an item that starts with an empty one. -/
def tightened : Node → Node
  | .block kind start stop (.block .paragraph _ _ [] :: _) => .block kind start stop []
  | .block kind start stop content => .block kind start stop (content.flatMap unwrapped)
  | n => n

end Node

end ShellDocs.Markdown
