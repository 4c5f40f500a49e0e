import ShellDocs.Markdown.Container
import ShellDocs.Markdown.Event

/-! # Tables

A table begins with a row of headings and a row of hyphens, which must have as many
columns. A pipe after a backslash does not end a cell.
-/

namespace ShellDocs.Markdown

/-- What stands between the pipes of a line that do not follow a backslash. -/
def betweenPipes : (escaped : Bool) → List Char → List (List Char)
  | _, [] => [[]]
  | escaped, c :: rest =>
    if c = '|' && !escaped then [] :: betweenPipes false rest
    else match betweenPipes (c = '\\') rest with
      | [] => [[c]]
      | l :: ls => (c :: l) :: ls

/-- How many columns a row of headings has. A pipe at either end of the line is no
separator. -/
def headingColumns (line : List Char) : Nat :=
  let pieces := betweenPipes false line
  let first := if pieces.head?.any (·.all isGap) then 1 else 0
  let last := if pieces.getLast?.any (·.all isGap) then 1 else 0
  pieces.length - first - last

/-- A delimiter row while it is read: the columns so far, and what the current one shows. -/
structure Delimiters where
  columns : List Alignment := []
  current : Alignment := .none
  atStart : Bool := true
  hyphen : Bool := false
  hyphens : Bool := false
  pipes : Bool := false

/-- A colon before the hyphens aligns a column to the left, one after them to the right. -/
def Delimiters.colon (d : Delimiters) : Delimiters :=
  { d with
    atStart := false
    current := match d.atStart, d.current with
      | true, .none => .left
      | false, .left => .center
      | false, .none => .right
      | _, a => a }

def Delimiters.push? (d : Delimiters) (c : Char) : Option Delimiters :=
  if c = ' ' then some d
  else if c = ':' then some d.colon
  else if c = '-' then some { d with atStart := false, hyphen := true, hyphens := true }
  else if c = '|' ∧ d.hyphen then
    some { columns := d.columns ++ [d.current], hyphens := true, pipes := true }
  else none

/-- The columns of a delimiter row, which is indented by three spaces at most. -/
def delimiterRow? (line : List Char) : Option (List Alignment) :=
  let indent := (line.takeWhile (· = ' ')).length
  let (first, l) : Delimiters × List Char := match line.drop indent with
    | '|' :: rest => ({ pipes := true }, rest)
    | l => ({}, l)
  if 3 < indent then none
  else (l.foldlM Delimiters.push? first).bind fun d =>
    if d.pipes && d.hyphens then
      some (if d.atStart then d.columns else d.columns ++ [d.current])
    else none

/-- The columns of a table whose row of headings is `header` and whose row of delimiters
stands at a place, and where that row ends. -/
def tableColumns? (outer : List Container) (header : List Char) (p : Place) :
    Option (List Alignment × Place) :=
  let (inside, c) := continueLine outer p
  let line := c.rest.takeWhile (!isBreak ·)
  if inside && 1 < (betweenPipes false header).length then
    (delimiterRow? line).bind fun columns =>
      let last := c.place.advance line.length
      if columns.length = headingColumns header then
        some (columns, last.advance ((lineEnd? last.rest).getD 0))
      else none
  else none

/-- Whether a table starts here, with a pipe. -/
def startsTable (outer : List Container) (p : Place) : Bool :=
  let last := p.skipWhile (!isBreak ·)
  p.rest.head? = some '|' && last.rest ≠ [] &&
    (tableColumns? outer (p.textTo last.pos) (last.advance ((lineEnd? last.rest).getD 0))).isSome

end ShellDocs.Markdown
