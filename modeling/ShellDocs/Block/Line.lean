import ShellDocs.Text.White
import ShellDocs.Text.Word

/-! # Lines of a documentation block

A line that starts with the marker `# @` is an annotation, and an annotation with a name
and a colon begins a field. Every other line is prose, which goes on with the field above
it.
-/

namespace ShellDocs.Block

open Text

inductive Line where
  | field (name value : List Char)
  | stray
  | prose
deriving DecidableEq

/-- What follows the marker of an annotation. -/
def afterMarker? (l : List Char) : Option (List Char) :=
  match l.dropWhile isIndent with
  | '#' :: ' ' :: '@' :: rest => some rest
  | _ => none

def Line.ofAnnotation (rest : List Char) : Line :=
  match rest.takeWhile isWord, rest.dropWhile isWord with
  | c :: name, ':' :: value => .field (c :: name) value
  | _, _ => .stray

def Line.ofChars (l : List Char) : Line :=
  match afterMarker? l with
  | some rest => ofAnnotation rest
  | none => .prose

def isProse (l : List Char) : Bool := Line.ofChars l = .prose

def startMark : List Char := ['#', ' ', '@', 'd', 'o', 'c']

def endMark : List Char := ['#', ' ', '@', '/', 'd', 'o', 'c']

def isStart (l : List Char) : Bool := trim l = startMark

def isEnd (l : List Char) : Bool := trim l = endMark

end ShellDocs.Block
