import ShellDocs.Proofs.Block.Grammar
import ShellDocs.Proofs.Text.Lines
import ShellDocs.Proofs.Text.Trim

/-! # The layout of a block

Lines may be indented and may end in white space. Neither takes part in what is read: marks and
texts are trimmed, and the marker of an annotation may stand behind blanks.
-/

namespace ShellDocs.Block

open Text

section Line

variable {lead trail l : List Char}

theorem exists_of_append_eq {c : Char} (hc : c ∉ trail) {front rest : List Char}
    (h : l ++ trail = front ++ c :: rest) :
    ∃ rest', l = front ++ c :: rest' ∧ rest = rest' ++ trail := by
  rcases List.append_eq_append_iff.mp h with ⟨more, -, he⟩ | ⟨more, rfl, he⟩
  · exact absurd (he ▸ by simp) hc
  · cases more with
    | nil => exact absurd (List.nil_append trail ▸ he ▸ List.mem_cons_self) hc
    | cons d more =>
      rw [List.cons_append, List.cons.injEq] at he
      exact ⟨more, by rw [he.1], he.2⟩

theorem not_mem_of_white (h : ∀ c ∈ trail, isWhite c) {c : Char} (hc : ¬ isWhite c) : c ∉ trail :=
  fun hm => hc (h c hm)

theorem afterMarker?_append (h : ∀ c ∈ trail, isWhite c) (l : List Char) :
    afterMarker? (l ++ trail) = (afterMarker? l).map (· ++ trail) := by
  cases hl : afterMarker? l with
  | some rest =>
    obtain ⟨blanks, hb, rfl⟩ := afterMarker?_eq_some_iff.mp hl
    exact afterMarker?_eq_some_iff.mpr ⟨blanks, hb, by simp⟩
  | none =>
    refine Option.eq_none_iff_forall_ne_some.mpr fun rest hr => ?_
    obtain ⟨blanks, hb, he⟩ := afterMarker?_eq_some_iff.mp hr
    have he' : l ++ trail = (blanks ++ ['#', ' ']) ++ '@' :: rest := by simpa using he
    obtain ⟨rest', hl', -⟩ := exists_of_append_eq (not_mem_of_white h (by decide)) he'
    have hsome := afterMarker?_eq_some_iff.mpr ⟨blanks, hb, by simpa using hl'⟩
    rw [hl] at hsome
    cases hsome

theorem afterMarker?_indented (h : ∀ c ∈ lead, isIndent c) (l : List Char) :
    afterMarker? (lead ++ l) = afterMarker? l := by
  rw [afterMarker?, List.dropWhile_append_of_pos h, afterMarker?]

def Line.extend (trail : List Char) : Line → Line
  | .field name value => .field name (value ++ trail)
  | .stray => .stray
  | .prose => .prose

theorem ofAnnotation_append (h : ∀ c ∈ trail, isWhite c) (rest : List Char) :
    Line.ofAnnotation (rest ++ trail) = (Line.ofAnnotation rest).extend trail := by
  cases hl : Line.ofAnnotation rest with
  | field name value =>
    obtain ⟨hn, rfl⟩ := ofAnnotation_eq_field_iff.mp hl
    exact ofAnnotation_eq_field_iff.mpr ⟨hn, by simp⟩
  | prose => exact absurd hl (ofAnnotation_ne_prose rest)
  | stray =>
    cases hl' : Line.ofAnnotation (rest ++ trail) with
    | stray => rfl
    | prose => exact absurd hl' (ofAnnotation_ne_prose _)
    | field name value =>
      obtain ⟨hn, he⟩ := ofAnnotation_eq_field_iff.mp hl'
      obtain ⟨value', hr, -⟩ := exists_of_append_eq (not_mem_of_white h (by decide)) he
      rw [ofAnnotation_eq_field_iff.mpr ⟨hn, hr⟩] at hl
      cases hl

theorem ofChars_append_append (hl : ∀ c ∈ lead, isIndent c) (ht : ∀ c ∈ trail, isWhite c)
    (l : List Char) : Line.ofChars (lead ++ l ++ trail) = (Line.ofChars l).extend trail := by
  rw [List.append_assoc, Line.ofChars, afterMarker?_indented hl, afterMarker?_append ht,
    Line.ofChars]
  cases afterMarker? l with
  | none => rfl
  | some rest => exact ofAnnotation_append ht rest

theorem ofChars_of_white (h : ∀ c ∈ l, isWhite c) : Line.ofChars l = .prose :=
  ofChars_append_append (List.forall_mem_nil _) h []

theorem dropSign_cons_of_ne {c : Char} (h : c ≠ '#') (l : List Char) :
    dropSign (c :: l) = c :: l := by
  unfold dropSign
  split
  · rename_i he
    exact absurd (List.cons.inj he).1 h
  · rfl

theorem continued_of_white (h : ∀ c ∈ l, isWhite c) : continued l = [] := by
  rw [continued_eq, trimStart_eq_nil_iff.mpr h]
  rfl

theorem continued_append_append (hl : ∀ c ∈ lead, isWhite c) (ht : ∀ c ∈ trail, isWhite c)
    (l : List Char) : continued (lead ++ l ++ trail) = continued l := by
  rw [continued_eq, continued_eq, List.append_assoc, trimStart_append_of_white hl]
  by_cases h : trimStart l = []
  · rw [trimStart_append_of_white (trimStart_eq_nil_iff.mp h), trimStart_eq_nil_iff.mpr ht, h]
  · rw [trimStart_append h]
    obtain ⟨c, rest, hr⟩ := List.exists_cons_of_ne_nil h
    rw [hr, List.cons_append]
    by_cases hc : c = '#'
    · subst hc
      exact trim_append ht rest
    · rw [dropSign_cons_of_ne hc, dropSign_cons_of_ne hc, ← List.cons_append, trim_append ht]

def Line.trimmed : Line → Line
  | .field name value => .field name (trim value)
  | .stray => .stray
  | .prose => .prose

/-- Two lines that say the same, whatever white space is around it. -/
structure SameLine (l l' : List Char) : Prop where
  trim_eq : trim l' = trim l
  continued_eq : continued l' = continued l
  trimmed_eq : (Line.ofChars l').trimmed = (Line.ofChars l).trimmed

theorem SameLine.symm {l' : List Char} (h : SameLine l l') : SameLine l' l :=
  ⟨h.trim_eq.symm, h.continued_eq.symm, h.trimmed_eq.symm⟩

theorem SameLine.trans {l' l'' : List Char} (h : SameLine l l') (h' : SameLine l' l'') :
    SameLine l l'' :=
  ⟨h'.trim_eq.trans h.trim_eq, h'.continued_eq.trans h.continued_eq,
    h'.trimmed_eq.trans h.trimmed_eq⟩

theorem sameLine_append_append (hl : ∀ c ∈ lead, isIndent c) (ht : ∀ c ∈ trail, isWhite c)
    (l : List Char) : SameLine l (lead ++ l ++ trail) where
  trim_eq := trim_append_append (fun c hc => isWhite_of_isIndent (hl c hc)) ht l
  continued_eq := continued_append_append (fun c hc => isWhite_of_isIndent (hl c hc)) ht l
  trimmed_eq := by
    rw [ofChars_append_append hl ht]
    cases Line.ofChars l with
    | field name value => exact congrArg (Line.field name) (trim_append ht value)
    | stray => rfl
    | prose => rfl

theorem SameLine.isProse_eq {l' : List Char} (h : SameLine l l') : isProse l' = isProse l := by
  have hkind := h.trimmed_eq
  unfold isProse
  cases hl : Line.ofChars l <;> cases hl' : Line.ofChars l' <;>
    simp [hl, hl', Line.trimmed] at hkind ⊢

def withoutReturn (l : List Char) : List Char := if l.getLast? = some '\r' then l.dropLast else l

theorem sameLine_withoutReturn (l : List Char) : SameLine l (withoutReturn l) := by
  have hadded : ∃ r, (∀ c ∈ r, isWhite c) ∧ l = [] ++ withoutReturn l ++ r := by
    unfold withoutReturn
    split
    · rename_i hr
      refine ⟨['\r'], List.all_eq_true.mp rfl, ?_⟩
      obtain ⟨front, rfl⟩ := List.getLast?_eq_some_iff.mp hr
      simp
    · exact ⟨[], by simp, by simp⟩
  obtain ⟨r, hr, hl⟩ := hadded
  have h := sameLine_append_append (List.forall_mem_nil _) hr (withoutReturn l)
  rw [← hl] at h
  exact h.symm

end Line

section Lines

/-- The same lines in another layout, with at most a line of white space after the last. -/
inductive SameLines : List (List Char) → List (List Char) → Prop
  | nil : SameLines [] []
  | white {l : List Char} (h : ∀ c ∈ l, isWhite c) : SameLines [] [l]
  | cons {l l' : List Char} {ls ls' : List (List Char)} (h : SameLine l l')
      (hs : SameLines ls ls') : SameLines (l :: ls) (l' :: ls')

variable {p : List Char → Bool} {ls ls' : List (List Char)}

theorem SameLines.takeWhile (hp : ∀ l l', SameLine l l' → p l' = p l) (h : SameLines ls ls') :
    SameLines (ls.takeWhile p) (ls'.takeWhile p) := by
  induction h with
  | nil => exact .nil
  | @white l hw =>
    by_cases hl : p l
    · rw [List.takeWhile_cons_of_pos hl]
      exact .white hw
    · rw [List.takeWhile_cons_of_neg hl]
      exact .nil
  | @cons l l' ls ls' h hs ih =>
    by_cases hl : p l
    · rw [List.takeWhile_cons_of_pos hl, List.takeWhile_cons_of_pos (hp l l' h ▸ hl)]
      exact .cons h ih
    · rw [List.takeWhile_cons_of_neg hl, List.takeWhile_cons_of_neg (hp l l' h ▸ hl)]
      exact .nil

theorem SameLines.dropWhile (hp : ∀ l l', SameLine l l' → p l' = p l) (h : SameLines ls ls') :
    SameLines (ls.dropWhile p) (ls'.dropWhile p) := by
  induction h with
  | nil => exact .nil
  | @white l hw =>
    by_cases hl : p l
    · rw [List.dropWhile_cons_of_pos hl]
      exact .nil
    · rw [List.dropWhile_cons_of_neg hl]
      exact .white hw
  | @cons l l' ls ls' h hs ih =>
    by_cases hl : p l
    · rw [List.dropWhile_cons_of_pos hl, List.dropWhile_cons_of_pos (hp l l' h ▸ hl)]
      exact ih
    · rw [List.dropWhile_cons_of_neg hl, List.dropWhile_cons_of_neg (hp l l' h ▸ hl)]
      exact .cons h hs

theorem not_isStart_eq (l l' : List Char) (h : SameLine l l') : (!isStart l') = !isStart l := by
  rw [isStart, isStart, h.trim_eq]

theorem not_isEnd_eq (l l' : List Char) (h : SameLine l l') : (!isEnd l') = !isEnd l := by
  rw [isEnd, isEnd, h.trim_eq]

theorem SameLines.any_isEnd (h : SameLines ls ls') : ls'.any isEnd = ls.any isEnd := by
  induction h with
  | nil => rfl
  | white hw => simp [isEnd, trim_eq_nil_of_white hw, endMark]
  | cons h hs ih => rw [List.any_cons, List.any_cons, ih, isEnd, isEnd, h.trim_eq]

/-- A line of white space at the end is neither a mark nor part of a block. -/
theorem SameLines.body? (h : SameLines ls ls') : Option.Rel SameLines (body? ls) (body? ls') := by
  have hd := h.dropWhile not_isStart_eq
  unfold Block.body?
  generalize ls.dropWhile (fun l => !isStart l) = ds at hd
  generalize ls'.dropWhile (fun l => !isStart l) = ds' at hd
  cases hd with
  | nil => exact .none
  | white hw => exact .none
  | cons h hs =>
    simp only [hs.any_isEnd]
    split
    · exact .some (hs.takeWhile not_isEnd_eq)
    · exact .none

theorem SameLines.joinPieces_eq (h : SameLines ls ls') (first : List Char) :
    joinPieces (first :: ls'.map continued) = joinPieces (first :: ls.map continued) := by
  have hpieces : (ls'.map continued).filter (· ≠ []) = (ls.map continued).filter (· ≠ []) := by
    induction h with
    | nil => rfl
    | white hw => simp [continued_of_white hw]
    | cons h hs ih => simp only [List.map_cons, List.filter_cons, h.continued_eq, ih]
  simp only [joinPieces, List.filter_cons, hpieces]

theorem SameLines.written_eq (h : SameLines ls ls') : written ls' = written ls := by
  induction h with
  | nil => rfl
  | white hw => simp [written, ofChars_of_white hw]
  | @cons l l' ls ls' h hs ih =>
    have hkind := h.trimmed_eq
    have hprose := hs.takeWhile fun _ _ h => h.isProse_eq
    unfold written
    cases hl : Line.ofChars l <;> cases hl' : Line.ofChars l' <;>
      simp only [hl, hl', Line.trimmed, Line.field.injEq, reduceCtorEq] at hkind
    case field.field name value name' value' =>
      obtain ⟨rfl, htrim⟩ := hkind
      simp only [ih, htrim, hprose.joinPieces_eq]
    all_goals exact ih

end Lines

/-- A line with a layout for it: blanks before it and white space after it. -/
structure LaidLine where
  lead : List Char
  line : List Char
  trail : List Char
  isIndent_of_mem_lead : ∀ c ∈ lead, isIndent c
  newline_not_mem_line : '\n' ∉ line
  isWhite_of_mem_trail : ∀ c ∈ trail, isWhite c
  newline_not_mem_trail : '\n' ∉ trail

def LaidLine.chars (row : LaidLine) : List Char := row.lead ++ row.line ++ row.trail

def joinLines (ls : List (List Char)) : String := String.ofList (['\n'].intercalate ls)

section Rows

variable (row : LaidLine)

theorem newline_not_mem_chars : '\n' ∉ row.chars := by
  have hlead : '\n' ∉ row.lead := fun h => absurd (row.isIndent_of_mem_lead _ h) (by decide)
  simp [LaidLine.chars, hlead, row.newline_not_mem_line, row.newline_not_mem_trail]

theorem sameLine_chars : SameLine row.line row.chars :=
  sameLine_append_append row.isIndent_of_mem_lead row.isWhite_of_mem_trail row.line

theorem isWhite_of_mem_chars (h : row.line = []) : ∀ c ∈ row.chars, isWhite c := by
  intro c hc
  rw [LaidLine.chars, h, List.append_nil] at hc
  rcases List.mem_append.mp hc with hc | hc
  · exact isWhite_of_isIndent (row.isIndent_of_mem_lead c hc)
  · exact row.isWhite_of_mem_trail c hc

/-- The last line of a text is not counted when it is empty, but it may be laid out to be one. -/
theorem sameLines_lines (rows : List LaidLine) :
    SameLines (lines (['\n'].intercalate (rows.map LaidLine.line)))
      (lines (['\n'].intercalate (rows.map LaidLine.chars))) := by
  induction rows with
  | nil => exact .nil
  | cons row rows ih =>
    cases rows with
    | nil =>
      simp only [List.map_cons, List.map_nil, List.intercalate_singleton]
      rw [lines_of_newline_not_mem row.newline_not_mem_line,
        lines_of_newline_not_mem (newline_not_mem_chars row)]
      by_cases hl : row.line = []
      · rw [if_pos hl]
        split
        · exact .nil
        · exact .white (isWhite_of_mem_chars row hl)
      · have hc : row.chars ≠ [] := by simp [LaidLine.chars, hl]
        rw [if_neg hl, if_neg hc]
        exact .cons (sameLine_chars row) .nil
    | cons row' rows =>
      simp only [List.map_cons, List.intercalate_cons_cons, List.append_assoc,
        List.singleton_append] at ih ⊢
      rw [lines_append_newline row.newline_not_mem_line,
        lines_append_newline (newline_not_mem_chars row)]
      refine .cons ?_ ih
      exact (sameLine_withoutReturn row.line).symm.trans
        ((sameLine_chars row).trans (sameLine_withoutReturn row.chars))

end Rows

/-- Neither the indentation of lines nor white space at their ends, carriage returns among it,
changes what is read from a text. -/
theorem read?_laid (rows : List LaidLine) :
    read? (joinLines (rows.map LaidLine.chars)) = read? (joinLines (rows.map LaidLine.line)) := by
  unfold read? joinLines
  rw [String.toList_ofList, String.toList_ofList]
  have hbody := (sameLines_lines rows).body?
  generalize body? (lines (['\n'].intercalate (rows.map LaidLine.line))) = body at hbody
  generalize body? (lines (['\n'].intercalate (rows.map LaidLine.chars))) = body' at hbody
  cases hbody with
  | none => rfl
  | some h => rw [Option.map_some, Option.map_some, h.written_eq]

/-- Some lines end in a carriage return, some are indented, and the last is blank. -/
example : read? "\t# @doc\r\n  # @name: a \r\n#  b\n# @/doc\t\n \r" =
    some (OrderedMap.ofList [("name", "a b")]) := by decide +kernel

end ShellDocs.Block
