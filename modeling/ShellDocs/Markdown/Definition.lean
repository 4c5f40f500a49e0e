import ShellDocs.Markdown.Destination

/-! # Definitions of links

A definition gives a target and perhaps a title to a label. It stands at the start of a
paragraph.
-/

namespace ShellDocs.Markdown

/-- Drops white space with one line end at most, and tells whether there was one. More text
must follow. -/
def definitionSpace? (l : List Char) : Option (List Char × Bool) :=
  let l := l.dropWhile isGap
  match lineEnd? l with
  | none => some (l, false)
  | some n =>
    let l := (l.drop n).dropWhile isGap
    if (lineEnd? l).isSome then none else some (l, true)

/-- The text of a title up to its closing mark. Lines lose their indentation and may not be
blank; `fresh` tells that one begins. -/
def definitionTitleText? (closing : Char) (fresh : Bool) :
    List Char → Option (List Char × List Char)
  | [] => none
  | '\\' :: c :: rest =>
    if isBreak c then
      (definitionTitleText? closing false (c :: rest)).map fun (t, r) => ('\\' :: t, r)
    else (definitionTitleText? closing false rest).map fun (t, r) => ('\\' :: c :: t, r)
  | c :: rest =>
    if fresh && isBlankLine (c :: rest) then none
    else if fresh && isIndentation c then definitionTitleText? closing true rest
    else if c = closing then some ([], rest)
    else if c = '(' && closing = ')' then none
    else (definitionTitleText? closing (endsLine c rest) rest).map fun (t, r) => (c :: t, r)

def definitionTitle? (l : List Char) : Option (List Char × List Char) :=
  match l with
  | '"' :: rest => definitionTitleText? '"' false rest
  | '\'' :: rest => definitionTitleText? '\'' false rest
  | '(' :: rest => definitionTitleText? ')' false rest
  | _ => none

/-- The title after the target of a definition, if it is alone on the rest of its line. The
text after the target is given up if it cannot belong to the definition. -/
def definitionEnd? (l : List Char) : Option (List Char × List Char) :=
  match definitionSpace? l with
  | none => some ([], l)
  | some (rest, newLine) =>
    let untitled := if newLine then some ([], l) else none
    if rest.length = l.length then none
    else match definitionTitle? rest with
      | none => untitled
      | some (title, after) => if isBlankLine after then some (title, after) else untitled

/-- A definition at the start of a text, and what follows it. -/
def definition? (l : List Char) : Option (Definition × List Char) :=
  (label? false l).bind fun (label, rest) =>
    match rest with
    | ':' :: rest =>
      (definitionSpace? rest).bind fun (rest, _) =>
        (target? rest).bind fun (target, after) =>
          if after.length = rest.length then none
          else (definitionEnd? after).map fun (title, rest) =>
            (⟨normalLabel label, unescape false target, unescape false title⟩, rest)
    | _ => none

end ShellDocs.Markdown
