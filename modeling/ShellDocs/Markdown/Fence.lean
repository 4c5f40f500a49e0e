import ShellDocs.Markdown.Line

/-! # Code fences

A code block stands between fences: at least three backticks or tildes, and at least as
many of the same character to close it.
-/

namespace ShellDocs.Markdown

structure Fence where
  mark : Char
  count : Nat
deriving DecidableEq

/-- The fence that opens with a line, indentation dropped. -/
def openingFence? (l : List Char) : Option Fence :=
  match l with
  | [] => none
  | c :: _ =>
    let count := (l.takeWhile (· = c)).length
    let info := (l.take (lineLength l)).drop count
    if (c = '`' || c = '~') && 3 ≤ count && !(c = '`' && info.contains '`') then
      some ⟨c, count⟩
    else none

/-- How many characters of a line, indentation dropped, close a fence. Only spaces may
follow them. The end of the text closes every fence. -/
def Fence.closing? (f : Fence) (l : List Char) : Option Nat :=
  if l = [] then some 0
  else
    let count := (l.takeWhile (· = f.mark)).length
    let rest := l.drop count
    let spaces := (rest.takeWhile (· = ' ')).length
    if f.count ≤ count then (lineEnd? (rest.drop spaces)).map fun _ => count + spaces else none

end ShellDocs.Markdown
