import ShellDocs.Markdown.Cursor

/-! # Containers

Quotations, lists and their items hold other blocks. A line goes on with a quotation by its
mark and with an item by its indentation.
-/

namespace ShellDocs.Markdown

inductive Container where
  | quote
  | list (mark : Char) (start : Option Nat) (tight : Bool)
  | item (indent : Nat)

/-- What follows what a line needs to go on with a container. -/
def Container.continued? (k : Container) (c : Cursor) : Option Cursor :=
  match k with
  | .quote => (c.dropColumns 3).quoteMark?
  | .list _ _ _ => some c
  | .item indent =>
    let (taken, c) := c.columns indent
    if taken = indent || c.atEnd then some c else none

/-- How many containers, the outermost first, a line goes on with, and what follows. -/
def continued : List Container → Cursor → Nat × Cursor
  | [], c => (0, c)
  | k :: rest, c =>
    match k.continued? c with
    | some c =>
      let (n, c) := continued rest c
      (n + 1, c)
    | none => (0, c)

/-- Whether the line at a place goes on with all containers, and what follows. -/
def continueLine (outer : List Container) (p : Place) : Bool × Cursor :=
  let (n, c) := continued outer (.ofLine p)
  (n = outer.length, c)

/-- A text without the marks of containers at the starts of lines. The fuel is the length of
the text. -/
def unmarkedWith (outer : List Container) : Nat → Place → List Letter
  | 0, _ => []
  | fuel + 1, p =>
    match p.rest with
    | [] => []
    | c :: rest =>
      let next := if endsLine c rest then (continueLine outer p.next).2.place else p.next
      ⟨p.pos, c⟩ :: unmarkedWith outer fuel next

/-- The text up to a position without the marks of containers at the starts of lines. -/
def unmarked (outer : List Container) (stop : Nat) (p : Place) : List Letter :=
  let p := p.upTo stop
  unmarkedWith outer p.rest.length p

end ShellDocs.Markdown
