import ShellDocs.Markdown.Fence
import ShellDocs.Markdown.HtmlTag
import ShellDocs.Markdown.Mark
import ShellDocs.Markdown.Table

/-! # What ends a paragraph

A paragraph goes on until a line that is blank or starts something else, and not every block
may start right below a paragraph.
-/

namespace ShellDocs.Markdown

/-- A line, indentation dropped, that ends a paragraph or a table above it. Right below a
paragraph in the same containers, `strict`, not every list item does so. -/
def interrupts (strict : Bool) (l : List Char) : Bool :=
  (lineEnd? l).isSome || (rule? l).isSome || (headingLevel? l).isSome ||
    (openingFence? l).isSome || l.head? = some '>' ||
    (listMark? l).any (fun m => !strict || m.interrupts l) || (interruptingHtml? l).isSome

/-- A place in a line, indentation dropped, that ends a paragraph above it. `inside` tells
that the line goes on with the containers of the paragraph. -/
def endsParagraph (outer : List Container) (inside : Bool) (p : Place) : Bool :=
  interrupts inside p.rest || startsTable outer p

/-- The text from a place on as far as it could belong to one paragraph. The marks of
containers and four columns of indentation are dropped. The fuel is the length of the
text. -/
def paragraphTextWith (outer : List Container) : Nat → Place → List Letter
  | 0, _ => []
  | fuel + 1, p =>
    match p.rest with
    | [] => []
    | c :: rest =>
      if endsLine c rest then
        let (inside, cursor) := continueLine outer p.next
        let (indent, cursor) := cursor.columns 4
        if indent < 4 && (endsParagraph outer inside cursor.place ||
            (underline? cursor.rest).isSome) then [⟨p.pos, c⟩]
        else ⟨p.pos, c⟩ :: paragraphTextWith outer fuel cursor.place
      else ⟨p.pos, c⟩ :: paragraphTextWith outer fuel p.next

def paragraphText (outer : List Container) (p : Place) : List Letter :=
  paragraphTextWith outer p.rest.length p

end ShellDocs.Markdown
