import ShellDocs.Block.Printer
import ShellDocs.Proofs.Block.Grammar
import ShellDocs.Proofs.Text.Lines
import ShellDocs.Proofs.Text.Trim

/-! # Writing a block and reading it back

A block is read back as it was written exactly when the names of its fields are words and
their texts are trimmed and stand on one line. All fields that were ever read are such.
-/

namespace ShellDocs.Block

open Text

variable {name value : String}

def IsFieldName (name : String) : Prop := name ≠ "" ∧ ∀ c ∈ name.toList, isWord c

/-- A text on one line without white space at its ends. -/
def IsFieldText (value : String) : Prop := '\n' ∉ value.toList ∧ trim value.toList = value.toList

/-- All names and texts of the fields can stand in a block. -/
def Normal (f : Fields) : Prop :=
  ∀ name value, f.get? name = some value → IsFieldName name ∧ IsFieldText value

theorem Normal.of_mem {f : Fields} (h : Normal f) {e : String × String} (he : e ∈ f.entries) :
    IsFieldName e.1 ∧ IsFieldText e.2 :=
  h e.1 e.2 (OrderedMap.mem_entries_iff.mp he)

theorem Normal.source {f : Fields} (h : Normal f) : Normal (source f) := by
  intro name value hv
  rw [Block.source, OrderedMap.get?_erase] at hv
  split at hv
  · cases hv
  · exact h name value hv

section Written

variable {body : List (List Char)} {e : String × String}

theorem mem_of_mem_dropSign {l : List Char} {c : Char} (h : c ∈ dropSign l) : c ∈ l := by
  unfold dropSign at h
  split at h
  · exact List.mem_cons_of_mem _ h
  · exact h

theorem fieldText_isFieldText {value : List Char} {prose : List (List Char)}
    (hv : '\n' ∉ value) (hp : ∀ l ∈ prose, '\n' ∉ l) :
    IsFieldText (String.ofList (fieldText value prose)) := by
  have hpiece : ∀ p ∈ trim value :: prose.map (fun l => trim (dropSign (trimStart l))),
      '\n' ∉ p ∧ trim p = p := by
    intro p hp'
    rcases List.mem_cons.mp hp' with rfl | hp'
    · exact ⟨fun h => hv (mem_of_mem_trim h), trim_trim _⟩
    · obtain ⟨l, hl, rfl⟩ := List.mem_map.mp hp'
      refine ⟨fun h => hp l hl ?_, trim_trim _⟩
      exact (List.dropWhile_sublist isWhite).subset (mem_of_mem_dropSign (mem_of_mem_trim h))
  rw [IsFieldText, String.toList_ofList, fieldText]
  refine ⟨fun h => ?_, trim_intercalate fun p hp' => ?_⟩
  · rcases mem_of_mem_intercalate h with h | ⟨p, hp', h⟩
    · simp at h
    · exact (hpiece p (List.mem_of_mem_filter hp')).1 h
  · obtain ⟨hm, hne⟩ := List.mem_filter.mp hp'
    exact ⟨by simpa using hne, (hpiece p hm).2⟩

theorem normal_of_mem_written (hb : ∀ l ∈ body, '\n' ∉ l) (he : e ∈ written body) :
    IsFieldName e.1 ∧ IsFieldText e.2 := by
  induction body with
  | nil => simp [written] at he
  | cons l body ih =>
    have hrest : ∀ d ∈ body, '\n' ∉ d := fun d hd => hb d (List.mem_cons_of_mem l hd)
    by_cases hf : ∃ name value, IsField l name value
    · obtain ⟨name, value, hf⟩ := hf
      rw [written_cons_of_isField hf, List.mem_cons] at he
      rcases he with rfl | he
      · obtain ⟨blanks, -, hn, rfl⟩ := hf
        refine ⟨⟨?_, by simpa using hn.2⟩, fieldText_isFieldText ?_ ?_⟩
        · rw [ne_eq, ← String.toList_eq_nil_iff, String.toList_ofList]
          exact hn.1
        · have := hb _ List.mem_cons_self
          simp only [List.mem_append, List.mem_cons, not_or] at this
          exact this.2.2.2.2.2.2
        · exact fun d hd => hrest d ((List.takeWhile_sublist isProse).subset hd)
      · exact ih hrest he
    · rw [written_cons_of_not_isField fun name value h => hf ⟨name, value, h⟩] at he
      exact ih hrest he

end Written

theorem normal_of_read? {text : String} {f : Fields} (h : read? text = some f) : Normal f := by
  obtain ⟨body, hb, rfl⟩ := Option.map_eq_some_iff.mp h
  obtain ⟨pre, s, e, post, hls, -⟩ := body?_eq_some_iff.mp hb
  intro name value hv
  rw [OrderedMap.get?_ofList] at hv
  obtain ⟨l₁, l₂, he, -⟩ := List.lookup_eq_some_iff.mp hv
  have hm : (name, value) ∈ written body := by
    rw [← List.mem_reverse, he]
    simp
  refine normal_of_mem_written (fun l hl => ?_) hm
  have hl' : l ∈ lines text.toList := by
    rw [hls]
    simp [hl]
  exact newline_not_mem_of_mem_lines hl'

section Printed

variable {f : Fields} {e : String × String}

def fieldLine (e : String × String) : List Char :=
  '#' :: ' ' :: '@' :: (e.1.toList ++ ':' :: if e.2 = "" then [] else ' ' :: e.2.toList)

theorem toList_printField (e : String × String) :
    (printField e.1 e.2).toList = fieldLine e ++ ['\n'] := by
  unfold printField fieldLine
  split <;> simp

theorem toList_print (f : Fields) :
    (print f).toList =
      (startMark :: ((source f).entries.map fieldLine ++ [endMark])).flatMap (· ++ ['\n']) := by
  simp [print, String.toList_join, List.flatMap_map, toList_printField, startMark, endMark]

theorem isField_fieldLine (h : IsFieldName e.1) :
    IsField (fieldLine e) e.1.toList (if e.2 = "" then [] else ' ' :: e.2.toList) :=
  ⟨[], by simp, ⟨by simpa using h.1, h.2⟩, rfl⟩

theorem not_isWhite_of_mem_getLast?_fieldLine (h : IsFieldText e.2) :
    ∀ c ∈ (fieldLine e).getLast?, ¬ isWhite c := by
  by_cases he : e.2 = ""
  · have hl : fieldLine e = ('#' :: ' ' :: '@' :: e.1.toList) ++ [':'] := by simp [fieldLine, he]
    rw [hl, List.getLast?_concat]
    rintro c ⟨⟩
    decide
  · have hl : fieldLine e = ('#' :: ' ' :: '@' :: (e.1.toList ++ [':', ' '])) ++ e.2.toList := by
      simp [fieldLine, he]
    rw [hl, List.getLast?_append_of_ne_nil _ (by simpa using he)]
    exact (trim_eq_self_iff.mp h.2).2

theorem trim_fieldLine (h : IsFieldText e.2) : trim (fieldLine e) = fieldLine e := by
  refine trim_eq_self_iff.mpr ⟨?_, not_isWhite_of_mem_getLast?_fieldLine h⟩
  rintro c ⟨⟩
  decide

/-- The name of a field never begins like the end mark. -/
theorem not_isEnd_fieldLine (hn : IsFieldName e.1) (hv : IsFieldText e.2) :
    ¬ isEnd (fieldLine e) := by
  rw [isEnd_iff, trim_fieldLine hv]
  obtain ⟨c, name, hc⟩ := List.exists_cons_of_ne_nil (show e.1.toList ≠ [] by simpa using hn.1)
  intro h
  simp only [fieldLine, endMark, hc, List.cons_append, List.cons.injEq, true_and] at h
  have hw := hn.2 c (hc ▸ List.mem_cons_self)
  rw [h.1] at hw
  exact absurd hw (by decide)

theorem newline_not_mem_fieldLine (hn : IsFieldName e.1) (hv : IsFieldText e.2) :
    '\n' ∉ fieldLine e := by
  have hname : '\n' ∉ e.1.toList := fun h => absurd (hn.2 _ h) (by decide)
  unfold fieldLine
  split
  · simp [hname]
  · simp [hname, hv.1]

theorem lines_print (h : Normal (source f)) :
    lines (print f).toList = startMark :: ((source f).entries.map fieldLine ++ [endMark]) := by
  rw [toList_print]
  refine lines_flatMap_newline fun l hl => ?_
  simp only [List.mem_cons, List.mem_append, List.mem_map, List.not_mem_nil, or_false] at hl
  rcases hl with rfl | ⟨e, he, rfl⟩ | rfl
  · decide
  · obtain ⟨hn, hv⟩ := h.of_mem he
    refine ⟨newline_not_mem_fieldLine hn hv, fun hr => ?_⟩
    exact not_isWhite_of_mem_getLast?_fieldLine hv '\r' hr (by decide)
  · decide

theorem written_map_fieldLine {es : List (String × String)}
    (h : ∀ e ∈ es, IsFieldName e.1 ∧ IsFieldText e.2) : written (es.map fieldLine) = es := by
  induction es with
  | nil => rfl
  | cons e es ih =>
    obtain ⟨hn, hv⟩ := h e List.mem_cons_self
    have hrest : ∀ d ∈ es, IsFieldName d.1 ∧ IsFieldText d.2 :=
      fun d hd => h d (List.mem_cons_of_mem e hd)
    have ht : (es.map fieldLine).takeWhile isProse = [] := by
      cases es with
      | nil => rfl
      | cons d es =>
        have hd := (isField_fieldLine (hrest d List.mem_cons_self).1).annotates
        exact List.takeWhile_cons_of_neg fun hp => isProse_iff.mp hp hd
    have hval : fieldText (if e.2 = "" then [] else ' ' :: e.2.toList) [] = e.2.toList := by
      by_cases he : e.2 = ""
      · simp [fieldText, he, trim, trimEnd, trimStart]
      · have hsp : isWhite ' ' := by decide
        simp [fieldText, he, trim_cons_of_isWhite hsp, hv.2]
    rw [List.map_cons, written_cons_of_isField (isField_fieldLine hn), ht, hval, ih hrest]
    simp

theorem read?_print (h : Normal (source f)) : read? (print f) = some (source f) := by
  have hb : body? (lines (print f).toList) = some ((source f).entries.map fieldLine) := by
    refine body?_eq_some_iff.mpr ⟨[], startMark, endMark, [], lines_print h, by simp, by decide,
      fun l hl => ?_, by decide⟩
    obtain ⟨e, he, rfl⟩ := List.mem_map.mp hl
    exact not_isEnd_fieldLine (h.of_mem he).1 (h.of_mem he).2
  rw [read?, hb, Option.map_some, written_map_fieldLine fun e he => h.of_mem he,
    OrderedMap.ofList_entries]

end Printed

/-- The fields of a block are read back exactly when they are normal, and whatever was read
from a text is normal and is read back. -/
theorem read?_print_iff_normal :
    (∀ f : Fields, read? (print f) = some (source f) ↔ Normal (source f)) ∧
      ∀ (text : String) (f : Fields), read? text = some f →
        Normal f ∧ read? (print f) = some (source f) := by
  refine ⟨fun f => ⟨normal_of_read?, read?_print⟩, fun text f h => ?_⟩
  have hn := normal_of_read? h
  exact ⟨hn, read?_print hn.source⟩

/-- A field that goes on below its line is read back from one line. -/
theorem read?_print_iff_normal_of_two_lines :
    read? "# @doc\n# @name: a\n#  b\n# @/doc\n" = some (OrderedMap.ofList [("name", "a b")]) ∧
      Normal (OrderedMap.ofList [("name", "a b")]) ∧
      read? (print (OrderedMap.ofList [("name", "a b")])) =
        some (source (OrderedMap.ofList [("name", "a b")])) := by
  have h : read? "# @doc\n# @name: a\n#  b\n# @/doc\n" =
      some (OrderedMap.ofList [("name", "a b")]) := by decide +kernel
  exact ⟨h, read?_print_iff_normal.2 _ _ h⟩

end ShellDocs.Block
