import ShellDocs.Markdown.Event
import ShellDocs.Page.Link

/-! # Heading identifiers

Every heading of a page gets the anchor of its text as identifier, so that the entries of a
table of contents lead to it.
-/

namespace ShellDocs.Preview

open Markdown

def isHeadingStop : Event → Bool
  | .stop (.heading ..) => true
  | _ => false

def textOf? : Event → Option String
  | .text s | .code s => some s
  | _ => none

/-- The text up to the end of the heading. -/
def headingText (events : List Event) : String :=
  String.join ((events.takeWhile (fun e => !isHeadingStop e)).filterMap textOf?)

/-- An event with `rest` after it. A heading without an identifier gets one. -/
def identify (rest : List Event) : Event → Event
  | .start (.heading level none classes attributes) =>
    .start (.heading level (some (Page.anchor (headingText rest))) classes attributes)
  | e => e

def withHeadingIds : List Event → List Event
  | [] => []
  | e :: rest => identify rest e :: withHeadingIds rest

end ShellDocs.Preview
