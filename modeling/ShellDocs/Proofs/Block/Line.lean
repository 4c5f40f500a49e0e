import Mathlib.Data.List.TakeWhile
import ShellDocs.Block.Line

/-! # The forms of a line

Annotations and fields are described by what they are made of. The classification of lines
agrees with these descriptions.
-/

namespace ShellDocs.Block

open Text

/-- Blanks, the marker `# @` and anything after it. -/
def IsAnnotation (l : List Char) : Prop :=
  ∃ blanks rest, (∀ c ∈ blanks, isIndent c) ∧ l = blanks ++ '#' :: ' ' :: '@' :: rest

/-- Blanks, the marker `# @`, a name of one or more word characters, a colon and a value. -/
def IsField (l name value : List Char) : Prop :=
  ∃ blanks, (∀ c ∈ blanks, isIndent c) ∧ (name ≠ [] ∧ ∀ c ∈ name, isWord c) ∧
    l = blanks ++ '#' :: ' ' :: '@' :: (name ++ ':' :: value)

theorem afterMarker?_eq_some_iff {l rest : List Char} :
    afterMarker? l = some rest ↔
      ∃ blanks, (∀ c ∈ blanks, isIndent c) ∧ l = blanks ++ '#' :: ' ' :: '@' :: rest := by
  constructor
  · intro h
    refine ⟨l.takeWhile isIndent, fun c hc => List.mem_takeWhile_imp hc, ?_⟩
    unfold afterMarker? at h
    split at h
    · rename_i rest' hd
      obtain rfl : rest' = rest := Option.some.inj h
      rw [← hd, List.takeWhile_append_dropWhile]
    · cases h
  · rintro ⟨blanks, hb, rfl⟩
    have hd : (blanks ++ '#' :: ' ' :: '@' :: rest).dropWhile isIndent =
        '#' :: ' ' :: '@' :: rest := by
      rw [List.dropWhile_append_of_pos hb]
      rfl
    simp [afterMarker?, hd]

theorem isAnnotation_iff_afterMarker? {l : List Char} :
    IsAnnotation l ↔ ∃ rest, afterMarker? l = some rest := by
  simp only [afterMarker?_eq_some_iff, IsAnnotation]
  exact exists_comm

theorem takeWhile_isWord_append {name value : List Char} (h : ∀ c ∈ name, isWord c) :
    (name ++ ':' :: value).takeWhile isWord = name := by
  rw [List.takeWhile_append_of_pos h, List.takeWhile_cons_of_neg (by decide), List.append_nil]

theorem dropWhile_isWord_append {name value : List Char} (h : ∀ c ∈ name, isWord c) :
    (name ++ ':' :: value).dropWhile isWord = ':' :: value := by
  rw [List.dropWhile_append_of_pos h, List.dropWhile_cons_of_neg (by decide)]

theorem ofAnnotation_ne_prose (rest : List Char) : Line.ofAnnotation rest ≠ .prose := by
  unfold Line.ofAnnotation
  split <;> simp

theorem ofAnnotation_eq_field_iff {rest name value : List Char} :
    Line.ofAnnotation rest = .field name value ↔
      (name ≠ [] ∧ ∀ c ∈ name, isWord c) ∧ rest = name ++ ':' :: value := by
  constructor
  · intro h
    unfold Line.ofAnnotation at h
    split at h
    · rename_i c name' value' ht hd
      obtain ⟨rfl, rfl⟩ := Line.field.inj h
      refine ⟨⟨List.cons_ne_nil _ _, fun d hm => List.mem_takeWhile_imp (ht ▸ hm)⟩, ?_⟩
      rw [← ht, ← hd, List.takeWhile_append_dropWhile]
    · cases h
  · rintro ⟨⟨hn, hw⟩, rfl⟩
    obtain ⟨c, name, rfl⟩ := List.exists_cons_of_ne_nil hn
    simp only [Line.ofAnnotation, takeWhile_isWord_append hw, dropWhile_isWord_append hw]

theorem ofChars_eq_field_iff {l name value : List Char} :
    Line.ofChars l = .field name value ↔ IsField l name value := by
  unfold Line.ofChars IsField
  constructor
  · intro h
    split at h
    · rename_i rest hr
      obtain ⟨blanks, hb, hl⟩ := afterMarker?_eq_some_iff.mp hr
      obtain ⟨hn, rfl⟩ := ofAnnotation_eq_field_iff.mp h
      exact ⟨blanks, hb, hn, hl⟩
    · cases h
  · rintro ⟨blanks, hb, hn, hl⟩
    rw [afterMarker?_eq_some_iff.mpr ⟨blanks, hb, hl⟩]
    exact ofAnnotation_eq_field_iff.mpr ⟨hn, rfl⟩

theorem isProse_iff {l : List Char} : isProse l ↔ ¬ IsAnnotation l := by
  rw [isAnnotation_iff_afterMarker?]
  unfold isProse Line.ofChars
  cases afterMarker? l with
  | none => simp
  | some rest => simp [ofAnnotation_ne_prose]

theorem IsField.annotates {l name value : List Char} (h : IsField l name value) :
    IsAnnotation l := by
  obtain ⟨blanks, hb, _, rfl⟩ := h
  exact ⟨blanks, _, hb, rfl⟩

theorem IsField.unique {l name value name' value' : List Char} (h : IsField l name value)
    (h' : IsField l name' value') : name = name' ∧ value = value' :=
  Line.field.inj ((ofChars_eq_field_iff.mpr h).symm.trans (ofChars_eq_field_iff.mpr h'))

end ShellDocs.Block
