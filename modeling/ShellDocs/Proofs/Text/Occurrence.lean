import Mathlib.Data.List.Infix

/-! # Occurrences of a mark

A mark that ends in a separator can occur only where a separator stands. A text is searched
for it piece by piece between the separators. A text in which no occurrence begins is passed over
as a whole.
-/

namespace ShellDocs.Text

/-- What follows each occurrence of a mark, in the order of the text. -/
def following (mark text : List Char) : List (List Char) :=
  text.tails.filterMap (·.dropPrefix? mark)

variable {word piece : List Char} {sep : Char}

theorem following_nil {mark : List Char} (h : mark ≠ []) : following mark [] = [] := by
  obtain ⟨c, mark, rfl⟩ := List.exists_cons_of_ne_nil h
  rfl

theorem following_cons (mark : List Char) (c : Char) (l : List Char) :
    following mark (c :: l) = ((c :: l).dropPrefix? mark).toList ++ following mark l := by
  rw [following, List.tails_cons, List.filterMap_cons]
  cases (c :: l).dropPrefix? mark <;> rfl

theorem dropPrefix?_eq_none {mark l : List Char} (h : ¬ mark <+: l) :
    l.dropPrefix? mark = none := by
  rw [Option.eq_none_iff_forall_ne_some]
  intro rest hr
  obtain ⟨front, he, hf⟩ := List.dropPrefix?_eq_some_iff.mp hr
  obtain rfl := eq_of_beq hf
  exact h (he ▸ List.prefix_append front rest)

theorem dropPrefix?_append_sep (hw : sep ∉ word) (hp : sep ∉ piece) (rest : List Char) :
    (piece ++ sep :: rest).dropPrefix? (word ++ [sep]) =
      if word = piece then some rest else none := by
  induction piece generalizing word with
  | nil =>
    cases word with
    | nil => simp [List.dropPrefix?]
    | cons d word =>
      have hd : sep ≠ d := fun h => hw (h ▸ List.mem_cons_self)
      simp [List.dropPrefix?, hd]
  | cons c piece ih =>
    have hc : c ≠ sep := fun h => hp (h ▸ List.mem_cons_self)
    cases word with
    | nil => simp [List.dropPrefix?, hc]
    | cons d word =>
      have hw' : sep ∉ word := fun h => hw (List.mem_cons_of_mem d h)
      have hp' : sep ∉ piece := fun h => hp (List.mem_cons_of_mem c h)
      simp only [List.cons_append, List.dropPrefix?, ih hw' hp', List.cons.injEq]
      by_cases hcd : c = d
      · simp [hcd]
      · simp [hcd, Ne.symm hcd]

/-- A separator ends an occurrence exactly when the word stands right before it. -/
theorem following_append_sep (hw : sep ∉ word) (hp : sep ∉ piece) (rest : List Char) :
    following (word ++ [sep]) (piece ++ sep :: rest) =
      (if word <:+ piece then [rest] else []) ++ following (word ++ [sep]) rest := by
  induction piece with
  | nil =>
    rw [List.nil_append, following_cons]
    have hdrop : (sep :: rest).dropPrefix? (word ++ [sep]) =
        if word = [] then some rest else none := dropPrefix?_append_sep hw List.not_mem_nil rest
    rw [hdrop]
    by_cases he : word = [] <;> simp [he]
  | cons c piece ih =>
    have hdrop := dropPrefix?_append_sep hw hp rest
    rw [List.cons_append] at hdrop ⊢
    rw [following_cons, hdrop, ih fun h => hp (List.mem_cons_of_mem c h)]
    by_cases he : word = c :: piece
    · have hn : ¬ word <:+ piece := fun h => by
        have hle := h.length_le
        rw [he, List.length_cons] at hle
        omega
      rw [if_pos he, if_neg hn, if_pos (he ▸ List.suffix_rfl)]
      rfl
    · simp [he, List.suffix_cons_iff]

theorem following_of_not_mem (h : sep ∉ piece) : following (word ++ [sep]) piece = [] := by
  induction piece with
  | nil => exact following_nil (by simp)
  | cons c piece ih =>
    rw [following_cons, ih fun hm => h (List.mem_cons_of_mem c hm), List.append_nil]
    have hnone : ¬ word ++ [sep] <+: c :: piece := fun hp => h (hp.subset (by simp))
    rw [dropPrefix?_eq_none hnone]
    rfl

section Avoids

variable {mark text rest : List Char}

def before? (mark : List Char) : List Char → Option (List Char)
  | [] => if mark = [] then some [] else none
  | c :: rest => if mark <+: c :: rest then some [] else (before? mark rest).map (c :: ·)

/-- No occurrence of the mark begins in the text, whatever comes after it. -/
def Avoids (text mark : List Char) : Prop :=
  ∀ tail ∈ text.tails, tail ≠ [] → ¬ tail <+: mark ∧ ¬ mark <+: tail

instance (text mark : List Char) : Decidable (Avoids text mark) :=
  inferInstanceAs (Decidable (∀ tail ∈ text.tails, tail ≠ [] → ¬ tail <+: mark ∧ ¬ mark <+: tail))

theorem avoids_of_not_mem {c : Char} (h : c ∉ text) : Avoids text (c :: mark) := by
  intro tail ht hne
  obtain ⟨d, tail, rfl⟩ := List.exists_cons_of_ne_nil hne
  have hd : d ∈ text := ((List.mem_tails _ _).mp ht).subset List.mem_cons_self
  constructor
  · intro hp
    exact h ((List.cons_prefix_cons.mp hp).1 ▸ hd)
  · intro hp
    exact h ((List.cons_prefix_cons.mp hp).1 ▸ hd)

theorem Avoids.not_prefix (h : Avoids text mark) {tail : List Char} (ht : tail <:+ text)
    (hne : tail ≠ []) (rest : List Char) : ¬ mark <+: tail ++ rest := by
  obtain ⟨hback, hfront⟩ := h tail ((List.mem_tails _ _).mpr ht) hne
  intro hp
  rcases List.prefix_or_prefix_of_prefix hp (List.prefix_append tail rest) with hm | hm
  · exact hfront hm
  · exact hback hm

theorem Avoids.length_le (h : Avoids text mark) {front back : List Char}
    (he : text ++ rest = front ++ mark ++ back) : text.length ≤ front.length := by
  by_contra hlt
  have hdrop := congrArg (List.drop front.length) he
  rw [List.append_assoc, List.drop_left, List.drop_append_of_le_length (by omega)] at hdrop
  refine h.not_prefix (List.drop_suffix front.length text) ?_ rest ?_
  · exact List.ne_nil_of_length_pos (by rw [List.length_drop]; omega)
  · exact hdrop ▸ List.prefix_append mark back

theorem Avoids.of_cons {c : Char} (h : Avoids (c :: text) mark) : Avoids text mark :=
  fun tail ht => h tail (List.mem_cons_of_mem _ ht)

theorem Avoids.append {text' : List Char} (h : Avoids text mark) (h' : Avoids text' mark) :
    Avoids (text ++ text') mark := by
  induction text with
  | nil => exact h'
  | cons c text ih =>
    intro tail ht hne
    rcases List.mem_cons.mp ht with rfl | ht
    · obtain ⟨hback, hfront⟩ := h (c :: text) List.mem_cons_self (List.cons_ne_nil c text)
      refine ⟨fun hp => hback ((List.prefix_append _ text').trans hp), ?_⟩
      exact h.not_prefix List.suffix_rfl (List.cons_ne_nil c text) text'
    · exact ih h.of_cons tail ht hne

theorem Avoids.following_append (h : Avoids text mark) :
    following mark (text ++ rest) = following mark rest := by
  induction text with
  | nil => rfl
  | cons c text ih =>
    have hnot : ¬ mark <+: c :: (text ++ rest) := h.not_prefix List.suffix_rfl (by simp) rest
    rw [List.cons_append, following_cons, dropPrefix?_eq_none hnot, ih h.of_cons]
    rfl

theorem Avoids.before?_append (h : Avoids text mark) :
    before? mark (text ++ rest) = (before? mark rest).map (text ++ ·) := by
  induction text with
  | nil => simp
  | cons c text ih =>
    have hnot : ¬ mark <+: c :: (text ++ rest) := h.not_prefix List.suffix_rfl (by simp) rest
    rw [List.cons_append, before?, if_neg hnot, ih h.of_cons, Option.map_map]
    rfl

theorem before?_mark (rest : List Char) : before? mark (mark ++ rest) = some [] := by
  cases mark with
  | nil => cases rest <;> simp [before?]
  | cons c mark => exact if_pos (List.prefix_append (c :: mark) rest)

theorem head?_following_mark (hm : mark ≠ []) (rest : List Char) :
    (following mark (mark ++ rest)).head? = some rest := by
  obtain ⟨c, mark, rfl⟩ := List.exists_cons_of_ne_nil hm
  have hdrop : (c :: (mark ++ rest)).dropPrefix? (c :: mark) = some rest :=
    List.dropPrefix?_eq_some_iff.mpr ⟨c :: mark, rfl, beq_self_eq_true _⟩
  rw [List.cons_append, following_cons, hdrop]
  rfl

end Avoids

end ShellDocs.Text
