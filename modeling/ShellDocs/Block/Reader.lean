import ShellDocs.Fields
import ShellDocs.Block.Line

/-! # Reading a documentation block

The block of a script runs from its first start mark to the next end mark. The text of a
field is what follows the colon and the prose below it, put on one line.
-/

namespace ShellDocs.Block

open Text

/-- The lines between the first start mark and the first end mark after it. -/
def body? (ls : List (List Char)) : Option (List (List Char)) :=
  match ls.dropWhile (fun l => !isStart l) with
  | [] => none
  | _ :: rest => if rest.any isEnd then some (rest.takeWhile (fun l => !isEnd l)) else none

/-- A line of prose without its indentation and its comment sign. -/
def continued (l : List Char) : List Char :=
  match trimStart l with
  | '#' :: rest => trim rest
  | rest => trim rest

def joinPieces (pieces : List (List Char)) : List Char :=
  [' '].intercalate (pieces.filter (· ≠ []))

/-- The fields in the order of the block, with repetitions. -/
def written : List (List Char) → List (String × String)
  | [] => []
  | l :: rest =>
    match Line.ofChars l with
    | .field name value =>
      (String.ofList name,
        String.ofList (joinPieces (trim value :: (rest.takeWhile isProse).map continued)))
        :: written rest
    | _ => written rest

/-- The fields of the first complete block of a text. The last of several fields with one
name counts. -/
def read? (text : String) : Option Fields :=
  (body? (lines text.toList)).map (fun body => OrderedMap.ofList (written body))

end ShellDocs.Block
