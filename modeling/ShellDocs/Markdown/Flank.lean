import ShellDocs.Text.Punctuation
import ShellDocs.Text.White

/-! # The sides of a run of marks

What stands around a run of asterisks, underscores or tildes decides whether it can open or
close emphasis.
-/

namespace ShellDocs.Markdown

open Text

/-- A run of marks, the text before it on its line, the nearest character first, and the
text from it on. In a cell of a table a pipe ends the text. -/
structure Flank where
  mark : Char
  length : Nat
  inCell : Bool
  before : List Char
  rest : List Char

namespace Flank

def after? (f : Flank) : Option Char := f.rest[f.length]?

/-- A pipe that ends a cell stands before the run. -/
def afterPipe (f : Flank) : Bool :=
  f.inCell && f.before.head? = some '|' && f.before.tail.head? ≠ some '\\'

def beforePipe (f : Flank) : Bool := f.inCell && f.after? = some '|'

/-- A run can open emphasis when it stands before a word. -/
def canOpen (f : Flank) : Bool :=
  match f.after?, f.before with
  | none, _ => false
  | some a, [] => !isWhite a
  | some a, b :: _ =>
    !isWhite a && (f.afterPipe || (!f.beforePipe &&
      ((f.mark = '*' && !isPunctuation a) || (f.mark = '~' && 1 < f.length) ||
        (f.mark = '~' && b = '~' && !isPunctuation a) || isWhite b || isPunctuation b)))

/-- A run can close emphasis when it stands after a word. -/
def canClose (f : Flank) : Bool :=
  match f.before, f.after? with
  | [], _ => false
  | b :: _, none => !isWhite b
  | b :: _, some a =>
    !isWhite b && !f.afterPipe && (f.beforePipe ||
      ((f.mark = '*' || (f.mark = '~' && 1 < f.length)) && !isPunctuation b) ||
        (f.mark = '~' && b = '~') || isWhite a || isPunctuation a)

end Flank

end ShellDocs.Markdown
