import ShellDocs.Markdown.Line
import ShellDocs.Markdown.Place

/-! # Columns

White space at the start of a line is taken by columns. A tab reaches to the next multiple
of four after the last tab, and may be taken in part.
-/

namespace ShellDocs.Markdown

/-- A place in a line, where its tabs are counted from, and the columns left of a tab. -/
structure Cursor where
  place : Place
  tabStart : Nat
  spaces : Nat := 0

namespace Cursor

def ofLine (p : Place) : Cursor := ⟨p, p.pos, 0⟩

def tabWidth (c : Cursor) : Nat := 4 - (c.place.pos - c.tabStart) % 4

/-- Takes up to `n` columns, and tells how many were taken. The fuel is at least `n` and the
number of characters left. -/
def columnsWith : Nat → Nat → Cursor → Nat × Cursor
  | 0, _, c => (0, c)
  | fuel + 1, n, c =>
    if n = 0 then (0, c)
    else if c.spaces ≠ 0 then
      let k := min n c.spaces
      let (taken, c) := columnsWith fuel (n - k) { c with spaces := c.spaces - k }
      (taken + k, c)
    else match c.place.rest with
      | ' ' :: _ =>
        let (taken, c) := columnsWith fuel (n - 1) { c with place := c.place.next }
        (taken + 1, c)
      | '\t' :: _ =>
        let next := c.place.next
        columnsWith fuel n ⟨next, next.pos, c.tabWidth⟩
      | _ => (0, c)

/-- Takes up to `n` columns, and tells how many were taken. -/
def columns (c : Cursor) (n : Nat) : Nat × Cursor := columnsWith (2 * n + 1) n c

def dropColumns (c : Cursor) (n : Nat) : Cursor := (c.columns n).2

def skipIndentation (c : Cursor) : Cursor :=
  { c with place := c.place.skipWhile isIndentation, spaces := 0 }

def rest (c : Cursor) : List Char := c.place.rest

/-- Whether the line ends here. -/
def atEnd (c : Cursor) : Bool := (lineEnd? c.rest).isSome

/-- What follows the mark of a quotation. -/
def quoteMark? (c : Cursor) : Option Cursor :=
  match c.rest with
  | '>' :: _ => some ({ c with place := c.place.next }.dropColumns 1)
  | _ => none

end Cursor

end ShellDocs.Markdown
