import ShellDocs.Files.Path
import ShellDocs.Files.Tree
import ShellDocs.Proofs.Text.Split

/-! # Segments of joined paths

A name that is joined to a path becomes its last segment. The path before it keeps its
segments and stays absolute or relative.
-/

namespace ShellDocs.Path

open Files

variable {base name path : String}

theorem mem_segments (h : name ∈ segments path) : name ≠ "" ∧ '/' ∉ name.toList := by
  obtain ⟨hm, hne⟩ := List.mem_filter.mp h
  obtain ⟨piece, hp, rfl⟩ := List.mem_map.mp hm
  exact ⟨by simpa using hne, by simpa using Text.sep_not_mem_of_mem_splitOn hp⟩

theorem segments_of_isName (h : IsName name) : segments name = [name] := by
  simp [segments, rawSegments, Text.splitOn_of_not_mem h.2.2.2, h.1]

theorem rawSegments_append_slash (base rest : String) :
    rawSegments (base ++ "/" ++ rest) = rawSegments base ++ rawSegments rest := by
  have hl : (base ++ "/" ++ rest).toList = base.toList ++ '/' :: rest.toList := by simp
  rw [rawSegments, hl, Text.splitOn_append, List.map_append]
  rfl

theorem rawSegments_ne_nil (path : String) : rawSegments path ≠ [] := by
  simp [rawSegments, Text.splitOn_ne_nil]

theorem segments_append_slash (base rest : String) :
    segments (base ++ "/" ++ rest) = segments base ++ segments rest := by
  rw [segments, rawSegments_append_slash, List.filter_append]
  rfl

theorem not_isAbsolute_of_isName (h : IsName name) : ¬ isAbsolute name := by
  intro ha
  exact h.2.2.2 (List.mem_of_mem_head? (by simpa [isAbsolute] using ha))

theorem exists_of_endsInSlash (h : endsInSlash base) : ∃ front, base = front ++ "/" := by
  have hl : base.toList.getLast? = some '/' := by simpa [endsInSlash] using h
  obtain ⟨front, hf⟩ := List.getLast?_eq_some_iff.mp hl
  exact ⟨String.ofList front, String.toList_injective (by simpa using hf)⟩

theorem join_of_isName (base : String) (h : IsName name) :
    join base name =
      if base = "" ∨ endsInSlash base then base ++ name else base ++ "/" ++ name := by
  rw [join, if_neg (not_isAbsolute_of_isName h)]

theorem segments_join (base : String) (h : IsName name) :
    segments (join base name) = segments base ++ [name] := by
  rw [join_of_isName base h]
  split
  · rename_i hb
    rcases hb with rfl | hb
    · simpa [segments, rawSegments, Text.splitOn] using segments_of_isName h
    · obtain ⟨front, rfl⟩ := exists_of_endsInSlash hb
      have he : segments (front ++ "/") = segments front := by
        have := segments_append_slash front ""
        simpa [segments, rawSegments, Text.splitOn] using this
      rw [segments_append_slash, he, segments_of_isName h]
  · rw [segments_append_slash, segments_of_isName h]

theorem exists_join_eq (base : String) (h : IsName name) :
    ∃ gap, join base name = base ++ gap ++ name := by
  rw [join_of_isName base h]
  split
  · exact ⟨"", by rw [String.append_empty]⟩
  · exact ⟨"/", rfl⟩

theorem isAbsolute_join (base : String) (h : IsName name) :
    isAbsolute (join base name) = isAbsolute base := by
  by_cases hb : base = ""
  · subst hb
    simpa [join_of_isName _ h, isAbsolute] using not_isAbsolute_of_isName h
  · obtain ⟨gap, hg⟩ := exists_join_eq base h
    have hne : base.toList ≠ [] := by simpa using hb
    simp only [hg, isAbsolute, String.toList_append, List.append_assoc,
      List.head?_append_of_ne_nil _ hne]

/-- How a path begins is not changed by the names joined to it. -/
theorem head?_rawSegments_join {base : String} (hb : base ≠ "") (h : IsName name) :
    (rawSegments (join base name)).head? = (rawSegments base).head? := by
  rw [join_of_isName base h]
  split
  · rename_i he
    obtain ⟨front, rfl⟩ := exists_of_endsInSlash (he.resolve_left hb)
    have hfront := rawSegments_append_slash front ""
    rw [String.append_empty] at hfront
    rw [hfront, rawSegments_append_slash, List.head?_append_of_ne_nil _ (rawSegments_ne_nil front),
      List.head?_append_of_ne_nil _ (rawSegments_ne_nil front)]
  · rw [rawSegments_append_slash, List.head?_append_of_ne_nil _ (rawSegments_ne_nil base)]

theorem components_of_isName (h : IsName name) : components name = [name] := by
  have hraw : rawSegments name = [name] := by
    simp [rawSegments, Text.splitOn_of_not_mem h.2.2.2]
  rw [components, if_neg (not_isAbsolute_of_isName h), hraw, segments_of_isName h]
  simp [h.2.1]

theorem components_join (base : String) (h : IsName name) :
    components (join base name) = components base ++ [name] := by
  by_cases hb : base = ""
  · subst hb
    rw [join_of_isName _ h, if_pos (.inl rfl), String.empty_append, components_of_isName h]
    rfl
  · have hbody : (segments (join base name)).filter (· ≠ ".") =
        (segments base).filter (· ≠ ".") ++ [name] := by
      rw [segments_join base h, List.filter_append, List.filter_cons_of_pos (by simpa using h.2.1),
        List.filter_nil]
    unfold components
    rw [hbody, isAbsolute_join base h, head?_rawSegments_join hb h]
    simp only [apply_ite (· ++ [name]), List.cons_append]

theorem join_injective (base : String) {name' : String} (h : IsName name) (h' : IsName name')
    (he : join base name = join base name') : name = name' := by
  have := congrArg segments he
  rw [segments_join base h, segments_join base h'] at this
  simpa using this

theorem not_endsInSlash_join (base : String) (h : IsName name) :
    ¬ endsInSlash (join base name) := by
  obtain ⟨gap, hg⟩ := exists_join_eq base h
  have hne : name.toList ≠ [] := by simpa using h.1
  rw [hg, endsInSlash, decide_eq_true_eq, String.toList_append,
    List.getLast?_append_of_ne_nil _ hne]
  exact fun hl => h.2.2.2 (List.mem_of_getLast? hl)

end ShellDocs.Path
