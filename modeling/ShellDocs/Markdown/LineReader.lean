import ShellDocs.Markdown.Flank
import ShellDocs.Markdown.Reference
import ShellDocs.Markdown.Span
import ShellDocs.Markdown.Table

/-! # Reading lines

A line of a paragraph or a heading, or a cell of a table, is cut into spans up to its end.
-/

namespace ShellDocs.Markdown

open Text

/-- How a line is read: as the first of a paragraph, which may be the row of headings of a
table, as any other line, or as a cell. -/
inductive LineMode where
  | first
  | plain
  | cell
deriving DecidableEq

/-- What a line ends with: nothing, a line break, or the rows with which a table begins. -/
inductive LineStop where
  | none
  | lineBreak (s : Span)
  | table (columns : List Alignment)

/-- The spans of a line so far in reverse, and where the text after them begins. -/
structure LineReading where
  spans : List Span
  text : Place

namespace LineReading

/-- Ends the text at a position. -/
def close (r : LineReading) (stop : Nat) : List Span :=
  if r.text.pos < stop then ⟨r.text, stop, .text⟩ :: r.spans else r.spans

/-- Ends the text before a place, without white space. -/
def finish (r : LineReading) (p : Place) : List Span :=
  (r.close (p.pos - (p.before.takeWhile isGap).length)).reverse

/-- Adds a span of `n` characters at a place. The text goes on behind it. -/
def add (r : LineReading) (p : Place) (n : Nat) (kind : SpanKind) : LineReading × Place :=
  let next := p.advance n
  (⟨⟨p, next.pos, kind⟩ :: r.close p.pos, next⟩, next)

/-- Drops `n` characters at a place. The one behind them is text. -/
def skip (r : LineReading) (p : Place) (n : Nat) : LineReading × Place :=
  let next := p.advance n
  (⟨r.close p.pos, next⟩, next.next)

/-- Reads a backslash. -/
def backslash (r : LineReading) (mode : LineMode) (p : Place) : LineReading × Place :=
  match p.rest.tail with
  | '`' :: rest =>
    let count := 1 + (rest.takeWhile (· = '`')).length
    let opened : LineReading := ⟨r.close p.pos, p.next⟩
    opened.add p.next count (.ticks count true)
  | '\\' :: '|' :: _ => if mode = .cell then r.skip p 2 else r.skip p 1
  | c :: _ => if isAsciiPunctuation c then r.skip p 1 else (r, p.next)
  | [] => (r, p.next)

/-- Reads a run of marks. `start` is the start of the line. -/
def marks (r : LineReading) (mode : LineMode) (start p : Place) (c : Char) :
    LineReading × Place :=
  let length := (p.rest.takeWhile (· = c)).length
  let flank : Flank := ⟨c, length, mode = .cell, p.before.take (p.pos - start.pos), p.rest⟩
  if (flank.canOpen || flank.canClose) && (c ≠ '~' || length ≤ 2) then
    r.add p length (.run length flank.canOpen flank.canClose)
  else (r, p.advance length)

/-- Reads what begins with a character that ends no line and no cell. -/
def push (r : LineReading) (mode : LineMode) (start p : Place) (c : Char) :
    LineReading × Place :=
  let next := p.rest.tail.head?
  if c = '\\' then r.backslash mode p
  else if c = '*' || c = '_' || c = '~' then r.marks mode start p c
  else if c = '`' then
    let count := (p.rest.takeWhile (· = '`')).length
    r.add p count (.ticks count false)
  else if c = '<' && next ≠ some '\\' then r.add p 1 .angle
  else if c = '!' && next = some '[' then r.add p 2 (.opening true)
  else if c = '[' then r.add p 1 (.opening false)
  else if c = ']' then r.add p 1 (.closing true)
  else if c = '&' then
    match reference? p.rest.tail with
    | some (chars, rest) => r.add p (p.rest.length - rest.length) (.written (String.ofList chars))
    | none => (r, p.next)
  else (r, p.next)

/-- Ends a line before a line end. -/
def endLine (r : LineReading) (outer : List Container) (mode : LineMode) (start p : Place) :
    List Span × Place × LineStop :=
  let next := p.advance ((lineEnd? p.rest).getD 0)
  let slashes := (p.before.takeWhile (· = '\\')).length
  let gaps := (p.before.takeWhile isGap).length
  let table := if mode = .first then tableColumns? outer (start.textTo p.pos) next else none
  if slashes % 2 = 1 ∧ next.rest ≠ [] then
    ((r.close (p.pos - 1)).reverse, next, .lineBreak ⟨p.previous, next.pos, .hardBreak true⟩)
  else match table with
    | some (columns, last) => ([], last, .table columns)
    | none =>
      let lineBreak : Span :=
        if 2 ≤ gaps then ⟨p.back gaps, next.pos, .hardBreak false⟩ else ⟨p, next.pos, .softBreak⟩
      (r.finish p, next, .lineBreak lineBreak)

end LineReading

/-- The fuel is the length of the text, of which every step reads a character at least. -/
def readLineWith (outer : List Container) (mode : LineMode) (start : Place) :
    Nat → LineReading → Place → List Span × Place × LineStop
  | 0, r, p => (r.finish p, p, .none)
  | fuel + 1, r, p =>
    match p.rest with
    | [] => (r.finish p, p, .none)
    | c :: _ =>
      if mode = .cell && (isBreak c || (c = '|' && p.before.head? ≠ some '\\')) then
        (r.finish p, p, .none)
      else if isBreak c then r.endLine outer mode start p
      else
        let (r, p) := r.push mode start p c
        readLineWith outer mode start fuel r p

/-- The spans of a line, what follows it, and what it ends with. -/
def readLine (outer : List Container) (mode : LineMode) (p : Place) :
    List Span × Place × LineStop :=
  readLineWith outer mode p p.rest.length ⟨[], p⟩ p

end ShellDocs.Markdown
