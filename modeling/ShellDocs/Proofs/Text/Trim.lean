import Mathlib.Data.List.DropRight
import ShellDocs.Text.White

/-! # Trimmed texts

A text is its own trim when no white space stands at either end. Trimmed pieces that are
joined by single spaces make a trimmed text.
-/

namespace ShellDocs.Text

section Ends

variable {p : Char → Bool} {lead trail : List Char}

theorem rdropWhile_append_of_pos (h : ∀ c ∈ trail, p c) (l : List Char) :
    (l ++ trail).rdropWhile p = l.rdropWhile p := by
  rw [List.rdropWhile, List.rdropWhile, List.reverse_append,
    List.dropWhile_append_of_pos (by simpa using h)]

theorem rdropWhile_dropWhile_append (hl : ∀ c ∈ lead, p c) (ht : ∀ c ∈ trail, p c)
    (l : List Char) :
    ((lead ++ l ++ trail).dropWhile p).rdropWhile p = (l.dropWhile p).rdropWhile p := by
  rw [List.append_assoc, List.dropWhile_append_of_pos hl]
  by_cases h : l.dropWhile p = []
  · rw [List.dropWhile_append_of_pos (List.dropWhile_eq_nil_iff.mp h),
      List.dropWhile_eq_nil_iff.mpr ht, h]
  · have hne : ¬ (l.dropWhile p).isEmpty := fun he => h (List.isEmpty_iff.mp he)
    rw [List.dropWhile_append, if_neg hne, rdropWhile_append_of_pos ht]

theorem exists_eq_rdropWhile_append_replicate (l : List Char) (c : Char) :
    ∃ n, l = l.rdropWhile (· = c) ++ List.replicate n c := by
  have hsame : ∀ d ∈ l.rtakeWhile (· = c), d = c := fun d hd => by
    simpa using List.mem_rtakeWhile_imp hd
  refine ⟨(l.rtakeWhile (· = c)).length, ?_⟩
  rw [← List.eq_replicate_of_mem hsame, List.rdropWhile_append_rtakeWhile]

end Ends

variable {l : List Char} {c : Char}

theorem trimEnd_isPrefixOf (l : List Char) : trimEnd l <+: l := List.rdropWhile_prefix isWhite l

theorem mem_of_mem_trim (h : c ∈ trim l) : c ∈ l :=
  (List.dropWhile_sublist isWhite).subset ((trimEnd_isPrefixOf _).subset h)

theorem not_isWhite_of_mem_head?_trim (h : c ∈ (trim l).head?) : ¬ isWhite c := by
  obtain ⟨rest, hr⟩ := trimEnd_isPrefixOf (trimStart l)
  have hh : (trimStart l).head? = some c := by
    rw [← hr]
    exact List.head?_append_of_ne_nil (trim l) (by rintro he; simp [he] at h) ▸ h
  have := List.head?_dropWhile_not isWhite l
  rw [show l.dropWhile isWhite = trimStart l from rfl, hh] at this
  simpa using this

theorem not_isWhite_of_mem_getLast?_trimEnd (h : c ∈ (trimEnd l).getLast?) : ¬ isWhite c := by
  obtain ⟨hne, rfl⟩ := List.mem_getLast?_eq_getLast h
  exact List.rdropWhile_last_not isWhite l hne

theorem trim_eq_self_iff :
    trim l = l ↔ (∀ c ∈ l.head?, ¬ isWhite c) ∧ ∀ c ∈ l.getLast?, ¬ isWhite c := by
  constructor
  · intro h
    exact ⟨fun c hc => not_isWhite_of_mem_head?_trim (h.symm ▸ hc),
      fun c hc => not_isWhite_of_mem_getLast?_trimEnd (show c ∈ (trim l).getLast? from h.symm ▸ hc)⟩
  · rintro ⟨hh, hl⟩
    have hs : trimStart l = l := by
      cases l with
      | nil => rfl
      | cons c l => exact List.dropWhile_cons_of_neg (hh c rfl)
    rw [trim, hs]
    exact List.rdropWhile_eq_self_iff.mpr fun hne => hl _ (List.getLast_mem_getLast? hne)

@[simp] theorem trim_trim (l : List Char) : trim (trim l) = trim l :=
  trim_eq_self_iff.mpr ⟨fun _ => not_isWhite_of_mem_head?_trim,
    fun _ => not_isWhite_of_mem_getLast?_trimEnd⟩

theorem trim_cons_of_isWhite (h : isWhite c) : trim (c :: l) = trim l := by
  simp [trim, trimStart, h]

section Padding

variable {lead trail : List Char}

theorem isWhite_of_isIndent (h : isIndent c) : isWhite c := by
  simp only [isIndent, Bool.or_eq_true, decide_eq_true_eq] at h
  rcases h with rfl | rfl <;> decide

theorem trimStart_eq_nil_iff : trimStart l = [] ↔ ∀ c ∈ l, isWhite c := List.dropWhile_eq_nil_iff

theorem trimStart_append_of_white (h : ∀ c ∈ lead, isWhite c) (l : List Char) :
    trimStart (lead ++ l) = trimStart l :=
  List.dropWhile_append_of_pos h

theorem trim_eq_nil_of_white (h : ∀ c ∈ l, isWhite c) : trim l = [] := by
  rw [trim, trimStart_eq_nil_iff.mpr h]
  rfl

theorem trimStart_append (h : trimStart l ≠ []) (trail : List Char) :
    trimStart (l ++ trail) = trimStart l ++ trail := by
  have hne : ¬ (l.dropWhile isWhite).isEmpty := fun he => h (List.isEmpty_iff.mp he)
  rw [trimStart, List.dropWhile_append, if_neg hne, trimStart]

theorem trim_append_append (hl : ∀ c ∈ lead, isWhite c) (ht : ∀ c ∈ trail, isWhite c)
    (l : List Char) : trim (lead ++ l ++ trail) = trim l :=
  rdropWhile_dropWhile_append hl ht l

theorem trim_append (ht : ∀ c ∈ trail, isWhite c) (l : List Char) : trim (l ++ trail) = trim l :=
  trim_append_append (List.forall_mem_nil _) ht l

end Padding

theorem head?_intercalate {sep p : List Char} {ps : List (List Char)} (h : p ≠ []) :
    (sep.intercalate (p :: ps)).head? = p.head? := by
  cases ps with
  | nil => rw [List.intercalate_singleton]
  | cons q ps =>
    rw [List.intercalate_cons_cons, List.append_assoc, List.head?_append_of_ne_nil p h]

theorem trim_intercalate {ps : List (List Char)} (h : ∀ p ∈ ps, p ≠ [] ∧ trim p = p) :
    trim ([' '].intercalate ps) = [' '].intercalate ps := by
  rw [trim_eq_self_iff]
  induction ps with
  | nil => simp
  | cons p ps ih =>
    obtain ⟨hne, hp⟩ := h p List.mem_cons_self
    obtain ⟨hh, hl⟩ := trim_eq_self_iff.mp hp
    refine ⟨by rwa [head?_intercalate hne], ?_⟩
    cases ps with
    | nil => rwa [List.intercalate_singleton]
    | cons q ps =>
      have hq := h q (by simp)
      have hne' : [' '].intercalate (q :: ps) ≠ [] := by
        intro he
        have : ([' '].intercalate (q :: ps)).head? = q.head? := head?_intercalate hq.1
        rw [he, List.head?_nil, eq_comm, List.head?_eq_none_iff] at this
        exact hq.1 this
      rw [List.intercalate_cons_cons, List.getLast?_append_of_ne_nil _ hne']
      exact (ih fun r hr => h r (List.mem_cons_of_mem _ hr)).2

theorem mem_intercalate_of_mem {sep p : List Char} {ps : List (List Char)} (hp : p ∈ ps)
    (hc : c ∈ p) : c ∈ sep.intercalate ps := by
  induction ps with
  | nil => cases hp
  | cons q ps ih =>
    cases ps with
    | nil =>
      obtain rfl := List.mem_singleton.mp hp
      rwa [List.intercalate_singleton]
    | cons r ps =>
      rw [List.intercalate_cons_cons, List.mem_append, List.mem_append]
      rcases List.mem_cons.mp hp with rfl | hp
      · exact .inl (.inl hc)
      · exact .inr (ih hp)

theorem mem_of_mem_intercalate {sep : List Char} {ps : List (List Char)}
    (h : c ∈ sep.intercalate ps) : c ∈ sep ∨ ∃ p ∈ ps, c ∈ p := by
  induction ps with
  | nil => simp at h
  | cons p ps ih =>
    cases ps with
    | nil => exact .inr ⟨p, by simp, by simpa using h⟩
    | cons q ps =>
      rw [List.intercalate_cons_cons, List.mem_append, List.mem_append] at h
      rcases h with (h | h) | h
      · exact .inr ⟨p, by simp, h⟩
      · exact .inl h
      · rcases ih h with h | ⟨r, hr, h⟩
        · exact .inl h
        · exact .inr ⟨r, List.mem_cons_of_mem _ hr, h⟩

end ShellDocs.Text
