import ShellDocs.Text.White

/-! # Lines of a text

A line holds no line feed. Lines that hold none, and that do not end in a carriage return,
are read back when each is written with a line feed after it.
-/

namespace ShellDocs.Text

theorem newline_not_mem_of_mem_lines {text l : List Char} (h : l ∈ lines text) : '\n' ∉ l := by
  induction text generalizing l with
  | nil => simp [lines] at h
  | cons c text ih =>
    unfold lines at h
    split at h
    · rcases List.mem_cons.mp h with rfl | h
      · exact List.not_mem_nil
      · exact ih h
    · rename_i hc
      split at h
      · exact ih h
      · split at h
        · obtain rfl := List.mem_singleton.mp h
          simpa using Ne.symm hc
        · rename_i d ls hls
          rcases List.mem_cons.mp h with rfl | h
          · have hd : '\n' ∉ d := ih (hls ▸ List.mem_cons_self)
            simpa [Ne.symm hc] using hd
          · exact ih (hls ▸ List.mem_cons_of_mem d h)

theorem lines_of_newline_not_mem {l : List Char} (h : '\n' ∉ l) :
    lines l = if l = [] then [] else [l] := by
  induction l with
  | nil => rfl
  | cons c l ih =>
    have hc : c ≠ '\n' := fun he => h (he ▸ List.mem_cons_self)
    have hl : '\n' ∉ l := fun hm => h (List.mem_cons_of_mem c hm)
    have hhead : ¬ (c = '\r' ∧ l.head? = some '\n') := fun hr => hl (List.mem_of_head? hr.2)
    rw [lines, if_neg hc, if_neg hhead, ih hl]
    cases l <;> simp

/-- A line feed takes one carriage return before it along. -/
theorem lines_append_newline {l : List Char} (h : '\n' ∉ l) (rest : List Char) :
    lines (l ++ '\n' :: rest) =
      (if l.getLast? = some '\r' then l.dropLast else l) :: lines rest := by
  induction l with
  | nil => simp [lines]
  | cons c l ih =>
    have hc : c ≠ '\n' := fun he => h (he ▸ List.mem_cons_self)
    have hl : '\n' ∉ l := fun hm => h (List.mem_cons_of_mem c hm)
    rw [List.cons_append, lines, if_neg hc, ih hl]
    cases l with
    | nil => by_cases hr : c = '\r' <;> simp [hr]
    | cons d l =>
      have hd : d ≠ '\n' := fun he => hl (he ▸ List.mem_cons_self)
      simp only [List.cons_append, List.head?_cons, Option.some.injEq, hd, and_false, if_false,
        List.getLast?_cons_cons]
      split <;> simp

theorem lines_flatMap_newline {ls : List (List Char)}
    (h : ∀ l ∈ ls, '\n' ∉ l ∧ l.getLast? ≠ some '\r') :
    lines (ls.flatMap (· ++ ['\n'])) = ls := by
  induction ls with
  | nil => rfl
  | cons l ls ih =>
    obtain ⟨hn, hr⟩ := h l List.mem_cons_self
    rw [List.flatMap_cons, List.append_assoc, List.singleton_append, lines_append_newline hn,
      if_neg hr, ih fun d hd => h d (List.mem_cons_of_mem l hd)]

theorem lines_ne_nil {l : List Char} (h : l ≠ []) : lines l ≠ [] := by
  induction l with
  | nil => exact absurd rfl h
  | cons c rest ih =>
    unfold lines
    split
    · exact List.cons_ne_nil _ _
    · split
      · rename_i hr
        exact ih (by rintro rfl; cases hr.2)
      · split <;> exact List.cons_ne_nil _ _

theorem lines_append {front : List Char} (h : front.getLast? = some '\n') (rest : List Char) :
    lines (front ++ rest) = lines front ++ lines rest := by
  induction front with
  | nil => cases h
  | cons c front ih =>
    by_cases hf : front = []
    · subst hf
      obtain rfl : c = '\n' := by simpa using h
      simp [lines]
    · have hlast : front.getLast? = some '\n' := by
        rwa [List.getLast?_cons_of_ne_nil hf] at h
      have hhead : (front ++ rest).head? = front.head? := by
        cases front with
        | nil => exact absurd rfl hf
        | cons d front => rfl
      rw [List.cons_append, lines, lines, hhead, ih hlast]
      split
      · rfl
      · split
        · rfl
        · cases hl : lines front with
          | nil => exact absurd hl (lines_ne_nil hf)
          | cons l ls => rfl

end ShellDocs.Text
