import Mathlib.Data.List.Basic
import ShellDocs.Text.Split

/-! # Pieces between separators

No piece holds the separator, and splitting at one separator splits what stands before it
and what stands after it.
-/

namespace ShellDocs.Text

variable {sep : Char} {l piece : List Char}

theorem splitOn_ne_nil (sep : Char) (l : List Char) : splitOn sep l ≠ [] := by
  cases l with
  | nil => simp [splitOn]
  | cons c l =>
    unfold splitOn
    split
    · simp
    · split <;> simp

theorem sep_not_mem_of_mem_splitOn (h : piece ∈ splitOn sep l) : sep ∉ piece := by
  induction l generalizing piece with
  | nil =>
    obtain rfl : piece = [] := by simpa [splitOn] using h
    exact List.not_mem_nil
  | cons c l ih =>
    unfold splitOn at h
    split at h
    · rcases List.mem_cons.mp h with rfl | h
      · exact List.not_mem_nil
      · exact ih h
    · rename_i hc
      split at h
      · rename_i hn
        exact absurd hn (splitOn_ne_nil sep l)
      · rename_i d ds hd
        rcases List.mem_cons.mp h with rfl | h
        · have hm : sep ∉ d := ih (hd ▸ List.mem_cons_self)
          simpa [Ne.symm hc] using hm
        · exact ih (hd ▸ List.mem_cons_of_mem d h)

theorem splitOn_of_not_mem (h : sep ∉ l) : splitOn sep l = [l] := by
  induction l with
  | nil => rfl
  | cons c l ih =>
    have hc : c ≠ sep := fun he => h (he ▸ List.mem_cons_self)
    rw [splitOn, if_neg hc, ih fun hm => h (List.mem_cons_of_mem c hm)]

theorem splitOn_append (sep : Char) (l rest : List Char) :
    splitOn sep (l ++ sep :: rest) = splitOn sep l ++ splitOn sep rest := by
  induction l with
  | nil => simp [splitOn]
  | cons c l ih =>
    rw [List.cons_append, splitOn, splitOn, ih]
    split
    · rfl
    · obtain ⟨d, ds, hd⟩ := List.exists_cons_of_ne_nil (splitOn_ne_nil sep l)
      simp [hd]

/-- Pieces that are joined with a separator that none of them holds are found again. -/
theorem splitOn_intercalate {pieces : List (List Char)} (hne : pieces ≠ [])
    (h : ∀ p ∈ pieces, sep ∉ p) : splitOn sep ([sep].intercalate pieces) = pieces := by
  induction pieces with
  | nil => exact absurd rfl hne
  | cons p ps ih =>
    have hp : sep ∉ p := h p List.mem_cons_self
    cases ps with
    | nil => rw [List.intercalate_singleton, splitOn_of_not_mem hp]
    | cons q ps =>
      have hps : ∀ r ∈ q :: ps, sep ∉ r := fun r hr => h r (List.mem_cons_of_mem p hr)
      rw [List.intercalate_cons_cons, List.append_assoc, List.singleton_append, splitOn_append,
        splitOn_of_not_mem hp, ih (List.cons_ne_nil q ps) hps, List.singleton_append]

theorem intercalate_splitOn (sep : Char) (l : List Char) :
    [sep].intercalate (splitOn sep l) = l := by
  induction l with
  | nil => rfl
  | cons c l ih =>
    obtain ⟨d, ds, hd⟩ := List.exists_cons_of_ne_nil (splitOn_ne_nil sep l)
    rw [splitOn]
    rw [hd] at ih ⊢
    split
    · rename_i hc
      rw [List.intercalate_cons_cons, ih, hc]
      rfl
    · cases ds with
      | nil => simpa using ih
      | cons e ds => simpa [List.intercalate_cons_cons] using ih

end ShellDocs.Text
