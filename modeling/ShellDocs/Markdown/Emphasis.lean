import ShellDocs.Markdown.Event

/-! # Emphasis

Runs of asterisks, underscores and tildes open and close emphasis. A closing run is matched
with the nearest opening run that fits it. Runs that match nothing are text.
-/

namespace ShellDocs.Markdown

/-- A run of `count` marks, of which there were `length` at first, and its text. -/
structure Run where
  mark : Char
  count : Nat
  length : Nat
  opens : Bool
  closes : Bool
  text : List Char

/-- The events of one thing that emphasis holds or leaves out as a whole. -/
abbrev Chunk := List Event

namespace Run

def chunk (r : Run) : Chunk := [.text (String.ofList r.text)]

def isBoth (r : Run) : Bool := r.opens && r.closes

/-- An opening run that a closing run can be matched with. -/
def fits (opener closer : Run) : Bool :=
  opener.mark = closer.mark && (closer.mark ≠ '~' || opener.length = closer.length) &&
    ((!opener.isBoth && !closer.isBoth) || (opener.length + closer.length) % 3 ≠ 0 ||
      closer.length % 3 = 0)

/-- Marks that close emphasis are taken from the front of a run. -/
def dropFront (r : Run) (n : Nat) : Run := { r with count := r.count - n, text := r.text.drop n }

/-- Marks that open emphasis are taken from the back of a run. -/
def dropBack (r : Run) (n : Nat) : Run :=
  { r with count := r.count - n, text := r.text.take (r.count - n) }

end Run

/-- The emphasis that `n` marks on each side give, two of them at a time. -/
def nest : Nat → Chunk → Chunk
  | 0, content => content
  | 1, content => around .emphasis content
  | n + 2, content => nest n (around .strong content)

def wrap (mark : Char) (n : Nat) (content : Chunk) : Chunk :=
  if mark = '~' then around .strikethrough content else nest n content

/-- A piece of inline content before emphasis is resolved. -/
inductive Piece where
  | chunk (c : Chunk)
  | run (r : Run)
  /-- A line break after a backslash. -/
  | backslash

/-- The open runs, the innermost first, each with the content after it, and the content
before them. All content is in reverse. -/
structure Emphasis where
  stack : List (Run × List Chunk)
  base : List Chunk

namespace Emphasis

def add (e : Emphasis) (content : List Chunk) : Emphasis :=
  match e.stack with
  | [] => { e with base := content ++ e.base }
  | (r, inner) :: rest => { e with stack := (r, content ++ inner) :: rest }

/-- The nearest opener for a closing run, the content since, and the runs outside it. -/
def findOpener? (closer : Run) (inner : List Chunk) :
    List (Run × List Chunk) → Option (Run × List Chunk × List (Run × List Chunk))
  | [] => none
  | (r, content) :: rest =>
    if r.fits closer then some (r, inner ++ content, rest)
    else findOpener? closer (inner ++ content ++ [r.chunk]) rest

/-- What is left of a run opens emphasis or is text. -/
def leave (e : Emphasis) (r : Run) : Emphasis :=
  if r.count = 0 then e
  else if r.opens then { e with stack := (r, []) :: e.stack }
  else e.add [r.chunk]

/-- Takes runs of a mark off the stack as text. -/
def settle (mark : Char) (inner base : List Chunk) : List (Run × List Chunk) → Emphasis
  | [] => ⟨[], inner ++ base⟩
  | (r, content) :: rest =>
    if r.mark = mark then settle mark (inner ++ content ++ [r.chunk]) base rest
    else
      let outer := settle mark [] base rest
      { outer with stack := (r, inner ++ content) :: outer.stack }

/-- A closing run without an opener. Tildes before it can then not be closed any more. -/
def unmatched (e : Emphasis) (r : Run) : Emphasis :=
  (if r.mark = '~' then settle '~' [] e.base e.stack else e).leave r

/-- Matches a closing run as often as it goes. Each match takes a mark at least. -/
def closeWith : Nat → Emphasis → Run → Emphasis
  | 0, e, r => e.leave r
  | fuel + 1, e, r =>
    if r.count = 0 then e
    else match findOpener? r [] e.stack with
    | none => e.unmatched r
    | some (opener, content, rest) =>
      let n := min opener.count r.count
      let stack := if n < opener.count then (opener.dropBack n, []) :: rest else rest
      let e : Emphasis := { e with stack := stack }
      closeWith fuel (e.add [wrap r.mark n content.reverse.flatten]) (r.dropFront n)

def push (e : Emphasis) : Piece → Emphasis
  | .chunk c => e.add [c]
  | .run r => if r.closes then closeWith r.count e r else e.leave r
  | .backslash => e.add [[.hardBreak]]

def finish (e : Emphasis) : List Event :=
  (e.stack.foldr (fun (r, content) base => content ++ r.chunk :: base) e.base).reverse.flatten

end Emphasis

def Piece.isRun : Piece → Bool
  | .run _ => true
  | _ => false

/-- A backslash at the end is text and breaks no line, at least where there are marks. -/
def settleEnd (marked : Bool) (pieces : List Piece) : List Piece :=
  match pieces.getLast? with
  | some .backslash =>
    if marked || pieces.any Piece.isRun then pieces.dropLast ++ [.chunk [.text "\\"]] else pieces
  | _ => pieces

def resolveEmphasis (marked : Bool) (pieces : List Piece) : List Event :=
  ((settleEnd marked pieces).foldl Emphasis.push ⟨[], []⟩).finish

end ShellDocs.Markdown
