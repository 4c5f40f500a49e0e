import ShellDocs.Markdown.Line
import ShellDocs.Markdown.Reference

/-! # Marks of lines

What the first characters of a line, indentation dropped, make of it: a rule, a heading, the
underline of a heading, a list item.
-/

namespace ShellDocs.Markdown

/-- The length of a line of at least three asterisks, hyphens or underscores. -/
def rule? (l : List Char) : Option Nat :=
  match l with
  | [] => none
  | c :: _ =>
    let line := l.takeWhile (!isBreak ·)
    if (c = '*' || c = '-' || c = '_') && line.all (fun d => d = c || isIndentation d) &&
        3 ≤ line.count c then
      (lineEnd? (l.drop line.length)).map (· + line.length)
    else none

/-- The level of a heading that begins with number signs. -/
def headingLevel? (l : List Char) : Option Nat :=
  let level := (l.takeWhile (· = '#')).length
  if 1 ≤ level && level ≤ 6 && (l.drop level).head?.all isBlank then some level else none

/-- The level that a line of equals signs or hyphens gives to the paragraph above it, and
the length of the line. -/
def underline? (l : List Char) : Option (Nat × Nat) :=
  match l with
  | [] => none
  | c :: _ =>
    let marks := (l.takeWhile (· = c)).length
    let level := if c = '=' then some 1 else if c = '-' then some 2 else none
    level.bind fun level => (blankLine? (l.drop marks)).map fun n => (level, marks + n)

/-- The mark of a list item: a bullet, or the character after a number. -/
structure ListMark where
  mark : Char
  start : Option Nat
  length : Nat

/-- A list mark, after which there must be a space or nothing. -/
def listMark? (l : List Char) : Option ListMark :=
  let ends := fun rest : List Char => rest.head?.all fun c => isIndentation c || isBreak c
  match l with
  | [] => none
  | c :: rest =>
    if c = '-' || c = '+' || c = '*' then
      if ends rest then some ⟨c, none, 1⟩ else none
    else
      let digits := l.takeWhile Char.isDigit
      match digits, l.drop digits.length with
      | _ :: _, d :: rest =>
        if digits.length ≤ 9 && (d = '.' || d = ')') && ends rest then
          some ⟨d, some (digitsValue 10 digits), digits.length + 1⟩
        else none
      | _, _ => none

/-- An item that may interrupt a paragraph: it is not empty and does not start with a number
other than one. -/
def ListMark.interrupts (m : ListMark) (l : List Char) : Bool :=
  (m.start.isNone || m.start = some 1) && !isBlankLine (l.drop m.length)

end ShellDocs.Markdown
