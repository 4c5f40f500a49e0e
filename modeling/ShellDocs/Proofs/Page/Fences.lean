import ShellDocs.Markdown.Fence
import ShellDocs.Page.Part
import ShellDocs.Proofs.Text.Lines

/-! # Code between fences

A reader of markdown goes through the lines of a text and takes what stands between two fences as a
block. It reads a page as it was written if nothing but the fences of its parts is taken for a
fence, and only then.
-/

namespace ShellDocs.Page

open Markdown

section Reading

def runLength (c : Char) (l : List Char) : Nat := (l.takeWhile (· = c)).length

def unindented? (l : List Char) : Option (List Char) :=
  if runLength ' ' l ≤ 3 then some (l.dropWhile (· = ' ')) else none

/-- The fence that a line opens: three backticks or more with none behind them, or three tildes or
more. -/
def fence? (l : List Char) : Option Fence :=
  (unindented? l).bind fun l =>
    if 3 ≤ runLength '`' l ∧ '`' ∉ l.drop (runLength '`' l) then some ⟨'`', runLength '`' l⟩
    else if 3 ≤ runLength '~' l then some ⟨'~', runLength '~' l⟩
    else none

/-- The line closes the fence: as many of its characters or more, with only blanks behind them. -/
def closes (f : Fence) (l : List Char) : Bool :=
  (unindented? l).any fun l =>
    f.count ≤ runLength f.mark l && (l.drop (runLength f.mark l)).all isIndentation

/-- What a reader takes from a text: a line, or a block with the line that opens it. -/
inductive Piece where
  | line (l : List Char)
  | block (opening : List Char) (body : List (List Char))
  /-- A block that the text ends in. -/
  | unclosed (opening : List Char) (body : List (List Char))
deriving DecidableEq

/-- Reads lines up to the end of the block that is open. -/
def readLines : Option (Fence × List Char × List (List Char)) → List (List Char) → List Piece
  | none, [] => []
  | some (_, opening, body), [] => [.unclosed opening body]
  | none, l :: ls =>
    match fence? l with
    | none => .line l :: readLines none ls
    | some f => readLines (some (f, l, [])) ls
  | some (f, opening, body), l :: ls =>
    if closes f l then .block opening body :: readLines none ls
    else readLines (some (f, opening, body ++ [l])) ls

def reading (text : String) : List Piece := readLines none (Text.lines text.toList)

end Reading

section Parts

variable {f : Fence} {o l : List Char} {body ls : List (List Char)} {qs : List Piece}
  {rest : List (List Char)} {p : Part} {parts : List Part}

def Part.lines (p : Part) : List (List Char) := Text.lines p.render.toList

def labelLines (label : String) : List (List Char) := (Part.label label).lines

/-- What a part is written to be read as: code as the one line between two fences, and everything
else as lines. -/
def Part.pieces : Part → List Piece
  | .code title content =>
    (labelLines title).map .line ++ [.block "```bash".toList [content.toList], .line []]
  | p => p.lines.map .line

/-- Nothing in the part is taken for a fence, and code is no more than one line. -/
def Part.Contained : Part → Prop
  | .code title content => (∀ l ∈ labelLines title, fence? l = none) ∧
    Text.lines (content.toList ++ ['\n']) = [content.toList] ∧ ¬ closes ⟨'`', 3⟩ content.toList
  | p => ∀ l ∈ p.lines, fence? l = none

theorem getLast?_render (p : Part) : p.render.toList.getLast? = some '\n' := by
  cases p <;> simp [Part.render, List.getLast?_cons, List.getLast?_append]

theorem lines_render (parts : List Part) :
    Text.lines (render parts).toList = parts.flatMap Part.lines := by
  induction parts with
  | nil => rfl
  | cons p parts ih =>
    have hjoin : (render (p :: parts)).toList = p.render.toList ++ (render parts).toList := by
      simp [render, String.join_cons]
    rw [hjoin, Text.lines_append (getLast?_render p), ih]
    rfl

theorem readLines_some_ne_line : readLines (some (f, o, body)) ls ≠ .line l :: qs := by
  induction ls generalizing body with
  | nil => simp [readLines]
  | cons c ls ih =>
    rw [readLines]
    split
    · simp
    · exact ih

theorem readLines_cons_of_fence?_eq_none (h : fence? l = none) :
    readLines none (l :: ls) = .line l :: readLines none ls := by
  simp [readLines, h]

theorem readLines_cons_of_fence?_eq_some (h : fence? l = some f) :
    readLines none (l :: ls) = readLines (some (f, l, [])) ls := by
  simp [readLines, h]

theorem readLines_lines_append {front : List (List Char)} :
    readLines none (front ++ ls) = front.map .line ++ qs ↔
      (∀ l ∈ front, fence? l = none) ∧ readLines none ls = qs := by
  induction front with
  | nil => simp
  | cons l front ih =>
    rw [List.cons_append, List.map_cons, List.cons_append, List.forall_mem_cons]
    cases h : fence? l with
    | none =>
      rw [readLines_cons_of_fence?_eq_none h, List.cons.injEq, ih]
      simp
    | some f =>
      rw [readLines_cons_of_fence?_eq_some h]
      simpa using readLines_some_ne_line

theorem readLines_eq_block {body' : List (List Char)}
    (h : readLines (some (f, o, body)) ls = .block o body' :: qs) :
    ∃ between c rest, ls = between ++ c :: rest ∧ body' = body ++ between ∧ closes f c ∧
      (∀ l ∈ between, ¬ closes f l) ∧ readLines none rest = qs := by
  induction ls generalizing body with
  | nil => simp [readLines] at h
  | cons l ls ih =>
    rw [readLines] at h
    split at h
    · rename_i hc
      obtain ⟨⟨-, rfl⟩, rfl⟩ := by simpa using h
      exact ⟨[], l, ls, rfl, by simp, hc, by simp, rfl⟩
    · rename_i hc
      obtain ⟨between, c, rest, rfl, rfl, hclose, hopen, hrest⟩ := ih h
      refine ⟨l :: between, c, rest, rfl, by simp, hclose, ?_, hrest⟩
      exact List.forall_mem_cons.mpr ⟨hc, hopen⟩

theorem readLines_block (hopen : ∀ l ∈ ls, ¬ closes f l) (hclose : closes f l) :
    readLines (some (f, o, body)) (ls ++ l :: rest) =
      .block o (body ++ ls) :: readLines none rest := by
  induction ls generalizing body with
  | nil => simp [readLines, hclose]
  | cons d ls ih =>
    obtain ⟨hd, hopen⟩ := List.forall_mem_cons.mp hopen
    rw [List.cons_append, readLines, if_neg hd, ih hopen, List.append_assoc]
    rfl

theorem lines_code (label code : String) : (Part.code label code).lines =
    labelLines label ++ "```bash".toList :: (Text.lines (code.toList ++ ['\n']) ++
      ["```".toList, []]) := by
  have hrender : (Part.code label code).render.toList = (Part.label label).render.toList ++
      ("```bash\n".toList ++ (code.toList ++ ['\n'] ++ "```\n\n".toList)) := by
    simp [Part.render]
  rw [Part.lines, hrender, Text.lines_append (getLast?_render _), Text.lines_append (by decide),
    Text.lines_append (by simp)]
  rfl

theorem lines_eq_singleton {code : List Char} (h : code ∈ Text.lines (code ++ ['\n'])) :
    ∃ l, Text.lines (code ++ ['\n']) = [l] :=
  ⟨_, Text.lines_append_newline (Text.newline_not_mem_of_mem_lines h) []⟩

/-- The code of a part is one line that closes nothing, if the part is read as it is written. -/
theorem readLines_code_eq_iff {code : String} {rest : List (List Char)} :
    readLines (some (⟨'`', 3⟩, o, []))
        (Text.lines (code.toList ++ ['\n']) ++ "```".toList :: rest) =
          .block o [code.toList] :: qs ↔
      Text.lines (code.toList ++ ['\n']) = [code.toList] ∧ ¬ closes ⟨'`', 3⟩ code.toList ∧
        readLines none rest = qs := by
  constructor
  · intro h
    obtain ⟨between, c, rest', he, hb, hclose, hopen, hrest⟩ := readLines_eq_block h
    obtain rfl : between = [code.toList] := by simpa using hb.symm
    cases hl : Text.lines (code.toList ++ ['\n']) with
    | nil => exact absurd hl (Text.lines_ne_nil (by simp))
    | cons l ls =>
      rw [hl, List.cons_append, List.singleton_append, List.cons.injEq] at he
      obtain ⟨rfl, he⟩ := he
      obtain ⟨l', hl'⟩ := lines_eq_singleton (hl ▸ List.mem_cons_self)
      obtain ⟨-, rfl⟩ := List.cons.inj (hl.symm.trans hl')
      obtain ⟨-, rfl⟩ := List.cons.inj he
      exact ⟨rfl, hopen _ List.mem_cons_self, hrest⟩
  · rintro ⟨hl, hc, rfl⟩
    rw [hl]
    exact readLines_block (by simpa using hc) (by decide)

theorem readLines_lines_eq_iff : readLines none (p.lines ++ ls) = p.pieces ++ qs ↔
    p.Contained ∧ readLines none ls = qs := by
  cases p with
  | code label code =>
    have hbash : fence? "```bash".toList = some ⟨'`', 3⟩ := by decide
    have hempty : readLines none ([] :: ls) = .line [] :: readLines none ls :=
      readLines_cons_of_fence?_eq_none (by decide)
    rw [lines_code, Part.pieces, List.append_assoc, List.append_assoc, readLines_lines_append,
      Part.Contained, List.cons_append, readLines_cons_of_fence?_eq_some hbash, List.append_assoc]
    change _ ∧ readLines _ (_ ++ "```".toList :: [] :: ls) =
      .block _ [code.toList] :: .line [] :: qs ↔ _
    rw [readLines_code_eq_iff, hempty]
    simp [and_assoc]
  | _ => exact readLines_lines_append

/-- A page is read as it is written just if all of its parts are contained. -/
theorem reading_render_eq_iff : reading (render parts) = parts.flatMap Part.pieces ↔
    ∀ p ∈ parts, p.Contained := by
  unfold reading
  rw [lines_render]
  -- No block is open where a part begins, because the parts before it are read as they are written.
  induction parts with
  | nil => simp [readLines]
  | cons p parts ih =>
    rw [List.flatMap_cons, List.flatMap_cons, readLines_lines_eq_iff, ih, List.forall_mem_cons]

end Parts

end ShellDocs.Page
