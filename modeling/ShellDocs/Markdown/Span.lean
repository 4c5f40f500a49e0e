import ShellDocs.Markdown.Place

/-! # Spans

A line is cut into spans before it is known what its marks mean, since that depends on what
follows them.
-/

namespace ShellDocs.Markdown

inductive SpanKind where
  | text
  /-- A character reference, which stands for other characters. -/
  | written (s : String)
  /-- A run of marks that may open or close emphasis. -/
  | run (length : Nat) (opens closes : Bool)
  /-- A run of backticks. -/
  | ticks (count : Nat) (escaped : Bool)
  /-- An angle bracket that may begin an address or HTML. -/
  | angle
  | opening (image : Bool)
  /-- A closing bracket, and whether it has not yet been tried as the end of a label. -/
  | closing (fresh : Bool)
  | softBreak
  | hardBreak (backslash : Bool)

structure Span where
  start : Place
  stop : Nat
  kind : SpanKind

def Span.chars (s : Span) : List Char := s.start.textTo s.stop

def Span.string (s : Span) : String := String.ofList s.chars

end ShellDocs.Markdown
