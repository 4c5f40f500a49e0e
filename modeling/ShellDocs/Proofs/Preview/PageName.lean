import ShellDocs.Preview.PageName
import ShellDocs.Proofs.Files.Tree
import ShellDocs.Proofs.Scan.Trail

/-! # Requested names

A request path that names a file names it by a trail: names between slashes, none of which leads
upwards or stays where it is, and the last of which has a dot. Joined to a directory, such a name
goes on below the directory.
-/

namespace ShellDocs.Preview

open Files

variable {path name : String} {l : List Char}

section Trim

theorem trimSlashes_eq_rdropWhile (l : List Char) :
    trimSlashes l = (l.dropWhile (· = '/')).rdropWhile (· = '/') := rfl

theorem trimSlashes_of_ne (hh : l.head? ≠ some '/') (hl : l.getLast? ≠ some '/') :
    trimSlashes l = l := by
  have hs : l.dropWhile (· = '/') = l := by
    cases l with
    | nil => rfl
    | cons c l => exact List.dropWhile_cons_of_neg (by simpa using hh)
  rw [trimSlashes_eq_rdropWhile, hs, List.rdropWhile_eq_self_iff]
  intro hne hc
  exact hl (by rw [List.getLast?_eq_getLast_of_ne_nil hne]; simpa using hc)

theorem trimSlashes_cons_slash (l : List Char) : trimSlashes ('/' :: l) = trimSlashes l := by
  simp [trimSlashes]

end Trim

section Names

theorem not_isHop_iff {segment : List Char} :
    isHop segment = false ↔ segment ≠ [] ∧ segment ≠ ['.'] ∧ segment ≠ ['.', '.'] := by
  simp [isHop, and_assoc]

theorem isName_ofList {segment : List Char} (hh : isHop segment = false) (hs : '/' ∉ segment) :
    IsName (String.ofList segment) := by
  obtain ⟨hne, hdot, hdots⟩ := not_isHop_iff.mp hh
  refine ⟨?_, ?_, ?_, by simpa using hs⟩
  · simpa using hne
  · exact fun he => hdot (by simpa using congrArg String.toList he)
  · exact fun he => hdots (by simpa using congrArg String.toList he)

theorem trailKey_splitOn (l : List Char) :
    trailKey ((Text.splitOn '/' l).map String.ofList) = String.ofList l := by
  refine String.toList_injective ?_
  rw [toList_trailKey, List.map_map, String.toList_ofList]
  simpa [Function.comp_def] using Text.intercalate_splitOn '/' l

/-- A request path that names a file gives the key of a trail that ends in a name with a dot. -/
theorem exists_trail_of_pageName? (h : pageName? path = some name) :
    ∃ front last, (∀ n ∈ front ++ [last], IsName n) ∧ '.' ∈ last.toList ∧
      '\\' ∉ name.toList ∧ name = trailKey (front ++ [last]) := by
  unfold pageName? at h
  dsimp only at h
  split at h
  · cases h
    exact ⟨[], "index.md", by decide, by decide, by decide, rfl⟩
  rename_i hne
  split at h
  · cases h
  rename_i hok
  obtain ⟨hback, hhop⟩ := not_or.mp hok
  obtain ⟨front, last, hsplit⟩ :=
    (List.eq_nil_or_concat' _).resolve_left (Text.splitOn_ne_nil '/' (trimSlashes path.toList))
  have hname : ∀ n ∈ front.map String.ofList ++ [String.ofList last], IsName n := by
    intro n hn
    obtain ⟨piece, hp, rfl⟩ : ∃ piece ∈ front ++ [last], String.ofList piece = n := by
      simpa [eq_comm] using hn
    rw [← hsplit] at hp
    refine isName_ofList ?_ (Text.sep_not_mem_of_mem_splitOn hp)
    simpa using fun hh => hhop (List.any_eq_true.mpr ⟨piece, hp, hh⟩)
  have hkey : trailKey (front.map String.ofList ++ [String.ofList last]) =
      String.ofList (trimSlashes path.toList) := by
    rw [← trailKey_splitOn (trimSlashes path.toList), hsplit, List.map_append]
    rfl
  rw [hsplit, List.getLastD_concat] at h
  split at h
  · rename_i hdot
    cases h
    exact ⟨_, _, hname, by simpa using hdot, by simpa using hback, hkey.symm⟩
  · -- The extension is added to the last of the names, which stays a name.
    cases h
    refine ⟨front.map String.ofList, String.ofList last ++ ".md", ?_, by simp, ?_, ?_⟩
    · intro n hn
      rcases List.mem_append.mp hn with hn | hn
      · exact hname n (List.mem_append_left _ hn)
      · rw [List.mem_singleton.mp hn]
        exact isName_append_md (hname _ (by simp)).2.2.2
    · simpa using hback
    · rw [← hkey, trailKey_append]

end Names

end ShellDocs.Preview
