import ShellDocs.Markdown.Container
import ShellDocs.Markdown.Destination
import ShellDocs.Markdown.Event
import ShellDocs.Markdown.Span

/-! # Parts of a block

The content of a block is a sequence of spans. In an item of a tight list, whole blocks
stand among them.
-/

namespace ShellDocs.Markdown

inductive Part where
  | span (s : Span)
  | block (start : Place) (stop : Nat) (events : List Event)

namespace Part

def start : Part → Place
  | .span s => s.start
  | .block start _ _ => start

def stop : Part → Nat
  | .span s => s.stop
  | .block _ stop _ => stop

/-- A part without what stands before a position. -/
def startingAt (pos : Nat) : Part → Part
  | .span s => .span { s with start := s.start.atPos pos }
  | .block start stop events => .block (start.atPos pos) stop events

end Part

/-- What is left of parts after a position. -/
def partsAfter (pos : Nat) (parts : List Part) : List Part :=
  match parts.dropWhile (·.stop ≤ pos) with
  | [] => []
  | p :: rest => p.startingAt pos :: rest

/-- Where a block stands: in which containers and whether in a table, where its text ends,
and the definitions of links. -/
structure Setting where
  outer : List Container
  inTable : Bool
  stop : Nat
  definitions : List Definition

namespace Setting

/-- The text of the block from a place on, without the marks of containers. -/
def letters (x : Setting) (p : Place) : List Letter := unmarked x.outer x.stop p

/-- The place after what a scanner passes. -/
def skip (x : Setting) (p : Place) (scan : List Char → List Char) : Place :=
  let letters := x.letters p
  match (splitBefore letters (scan (chars letters))).2 with
  | [] => p.atPos x.stop
  | l :: _ => p.atPos l.pos

/-- The text of the block from a place on as it stands. -/
def verbatim (x : Setting) (p : Place) : List Char := p.textTo x.stop

end Setting

end ShellDocs.Markdown
