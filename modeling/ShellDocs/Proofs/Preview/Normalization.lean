import ShellDocs.Proofs.Preview.PageName
import ShellDocs.Proofs.Text.Trim

/-! # Normal request paths

Slashes around a request path do not count, and the name that a request path comes to is a request
path for itself. The names that some path comes to are those made of segments between slashes, none
of which is a hop or holds a backslash, and the last of which has a dot.
-/

namespace ShellDocs.Preview

open Files

variable {path name : String}

section Slashes

def slashes (n : Nat) : String := String.ofList (List.replicate n '/')

/-- A request path without the slashes around it. -/
def trimmed (path : String) : String := String.ofList (trimSlashes path.toList)

@[simp] theorem toList_trimmed (path : String) : (trimmed path).toList = trimSlashes path.toList :=
  String.toList_ofList

theorem trimmed_slashes (a b : Nat) (path : String) :
    trimmed (slashes a ++ path ++ slashes b) = trimmed path := by
  have hslash : ∀ n, ∀ c ∈ List.replicate n '/', decide (c = '/') = true := by
    intro n c hc
    rw [List.eq_of_mem_replicate hc]
    rfl
  apply String.toList_injective
  rw [toList_trimmed, toList_trimmed, String.toList_append, String.toList_append]
  simp only [slashes, String.toList_ofList]
  exact Text.rdropWhile_dropWhile_append (hslash a) (hslash b) path.toList

theorem trimmed_eq_empty_iff : trimmed path = "" ↔ ∀ c ∈ path.toList, c = '/' := by
  rw [← String.toList_eq_nil_iff, toList_trimmed, trimSlashes_eq_rdropWhile]
  constructor
  · intro h
    have hall : ∀ c ∈ path.toList.dropWhile (· = '/'), decide (c = '/') = true :=
      List.rdropWhile_eq_nil_iff.mp h
    have hfront := List.takeWhile_append_dropWhile (p := (· = '/')) (l := path.toList)
    intro c hc
    rw [← hfront, List.mem_append] at hc
    rcases hc with hc | hc
    · simpa using List.mem_takeWhile_imp hc
    · simpa using hall c hc
  · intro h
    rw [List.dropWhile_eq_nil_iff.mpr (by simpa using h), List.rdropWhile_nil]

theorem pageName?_congr {path' : String} (h : trimmed path = trimmed path') :
    pageName? path = pageName? path' := by
  have hl : trimSlashes path.toList = trimSlashes path'.toList := by
    simpa using congrArg String.toList h
  rw [pageName?, pageName?, hl]

end Slashes

section Cases

theorem any_isHop_iff {text : String} : (Text.splitOn '/' text.toList).any isHop = true ↔
    ∃ s ∈ Path.rawSegments text, s = "" ∨ s = "." ∨ s = ".." := by
  have hhop : ∀ piece : List Char, isHop piece = true ↔ String.ofList piece = "" ∨
      String.ofList piece = "." ∨ String.ofList piece = ".." := by
    intro piece
    simp [isHop, ← String.toList_inj, or_assoc]
  rw [List.any_eq_true, Path.rawSegments]
  simp only [List.mem_map, exists_exists_and_eq_and, hhop]

theorem pageName?_eq_none_iff : pageName? path = none ↔ trimmed path ≠ "" ∧
    ('\\' ∈ (trimmed path).toList ∨
      ∃ s ∈ Path.rawSegments (trimmed path), s = "" ∨ s = "." ∨ s = "..") := by
  rw [← any_isHop_iff, ne_eq, ← String.toList_eq_nil_iff, toList_trimmed]
  unfold pageName?
  dsimp only
  split
  · rename_i hnil
    simp only [hnil, reduceCtorEq, not_true_eq_false, false_and]
  · rename_i hne
    split
    · rename_i hbad
      simp only [hne, hbad, not_false_eq_true, and_self]
    · rename_i hok
      split <;> simp only [reduceCtorEq, hok, and_false]

theorem pageName?_cases (h : pageName? path = some name) :
    trimmed path = "" ∧ name = "index.md" ∨
      trimmed path ≠ "" ∧ (name = trimmed path ∨ name = trimmed path ++ ".md") := by
  rw [ne_eq, ← String.toList_eq_nil_iff, toList_trimmed]
  unfold pageName? at h
  dsimp only at h
  split at h
  · rename_i hnil
    exact .inl ⟨hnil, (Option.some.inj h).symm⟩
  · rename_i hne
    split at h
    · cases h
    · split at h
      · exact .inr ⟨hne, .inl (Option.some.inj h).symm⟩
      · exact .inr ⟨hne, .inr (Option.some.inj h).symm⟩

end Cases

section Fixed

/-- Segments between slashes none of which leads upwards, stays where it is or holds a backslash,
and the last of which has a dot. -/
def IsPageName (name : String) : Prop :=
  ∃ front last, (∀ s ∈ front ++ [last], IsName s ∧ '\\' ∉ s.toList) ∧ '.' ∈ last.toList ∧
    name = trailKey (front ++ [last])

theorem mem_trailKey_iff {trail : List String} {c : Char} (hc : c ≠ '/') :
    c ∈ (trailKey trail).toList ↔ ∃ s ∈ trail, c ∈ s.toList := by
  rw [toList_trailKey]
  constructor
  · intro h
    rcases Text.mem_of_mem_intercalate h with h | ⟨piece, hp, hm⟩
    · exact absurd (List.mem_singleton.mp h) hc
    · obtain ⟨s, hs, rfl⟩ := List.mem_map.mp hp
      exact ⟨s, hs, hm⟩
  · rintro ⟨s, hs, hm⟩
    exact Text.mem_intercalate_of_mem (List.mem_map_of_mem hs) hm

theorem isPageName_of_pageName? (h : pageName? path = some name) : IsPageName name := by
  obtain ⟨front, last, hnames, hdot, hback, rfl⟩ := exists_trail_of_pageName? h
  refine ⟨front, last, fun s hs => ⟨hnames s hs, fun hm => hback ?_⟩, hdot, rfl⟩
  exact (mem_trailKey_iff (by decide)).mpr ⟨s, hs, hm⟩

theorem trimmed_of_ne_empty (h : ∀ s ∈ Path.rawSegments name, s ≠ "") : trimmed name = name := by
  have hempty : [] ∉ Text.splitOn '/' name.toList := by
    intro hm
    exact h "" (List.mem_map.mpr ⟨[], hm, rfl⟩) rfl
  apply String.toList_injective
  rw [toList_trimmed]
  apply trimSlashes_of_ne
  · intro hh
    obtain ⟨rest, hr⟩ := List.head?_eq_some_iff.mp hh
    apply hempty
    rw [hr, ← List.nil_append ('/' :: rest), Text.splitOn_append]
    exact List.mem_append_left _ (List.mem_singleton.mpr rfl)
  · intro hl
    obtain ⟨front, hf⟩ := List.getLast?_eq_some_iff.mp hl
    apply hempty
    rw [hf, Text.splitOn_append]
    exact List.mem_append_right _ (List.mem_singleton.mpr rfl)

theorem splitOn_toList (text : String) :
    Text.splitOn '/' text.toList = (Path.rawSegments text).map String.toList := by
  have hid : String.toList ∘ String.ofList = id := funext fun l => String.toList_ofList
  rw [Path.rawSegments, List.map_map, hid, List.map_id]

theorem IsPageName.pageName?_eq (h : IsPageName name) : pageName? name = some name := by
  obtain ⟨front, last, hsegments, hdot, hkey⟩ := h
  have hraw : Path.rawSegments name = front ++ [last] := by
    rw [hkey]
    exact rawSegments_trailKey (fun s hs => (hsegments s hs).1) (by simp)
  have htrim : trimSlashes name.toList = name.toList := by
    rw [← toList_trimmed, trimmed_of_ne_empty]
    rw [hraw]
    exact fun s hs => (hsegments s hs).1.1
  have hlast : (Text.splitOn '/' name.toList).getLastD [] = last.toList := by
    rw [splitOn_toList, hraw, List.map_append, List.map_singleton, List.getLastD_concat]
  have hne : name.toList ≠ [] := by
    have hmem : '.' ∈ name.toList := by
      rw [hkey]
      exact (mem_trailKey_iff (by decide)).mpr ⟨last, by simp, hdot⟩
    exact List.ne_nil_of_mem hmem
  have hback : '\\' ∉ name.toList := by
    rw [hkey, mem_trailKey_iff (by decide)]
    rintro ⟨s, hs, hm⟩
    exact (hsegments s hs).2 hm
  have hhop : ¬ (Text.splitOn '/' name.toList).any isHop := by
    rw [any_isHop_iff, hraw]
    rintro ⟨s, hs, hhop⟩
    obtain ⟨hempty, hdot, hdots, -⟩ := (hsegments s hs).1
    exact hhop.elim hempty fun hd => hd.elim hdot hdots
  rw [pageName?, htrim, if_neg hne, if_neg (not_or.mpr ⟨hback, hhop⟩), hlast, if_pos hdot,
    String.ofList_toList]

end Fixed

/-- How request paths are made normal. -/
structure Normalizes (path : String) : Prop where
  around : ∀ a b, pageName? (slashes a ++ path ++ slashes b) = pageName? path
  again : ∀ name, pageName? path = some name → pageName? name = some name
  shape : ∀ name, pageName? path = some name →
    (∀ c ∈ path.toList, c = '/') ∧ name = "index.md" ∨
      (∃ c ∈ path.toList, c ≠ '/') ∧ (name = trimmed path ∨ name = trimmed path ++ ".md")
  /-- What some path comes to is what the path itself comes to. -/
  image : (∃ other, pageName? other = some path) ↔ pageName? path = some path
  fixed : pageName? path = some path ↔ IsPageName path
  refused : pageName? path = none ↔ trimmed path ≠ "" ∧
    ('\\' ∈ (trimmed path).toList ∨
      ∃ s ∈ Path.rawSegments (trimmed path), s = "" ∨ s = "." ∨ s = "..")

/-- Every request path is made normal in one step. -/
theorem normalizes (path : String) : Normalizes path := by
  constructor
  case around => exact fun a b => pageName?_congr (trimmed_slashes a b path)
  case again => exact fun name h => (isPageName_of_pageName? h).pageName?_eq
  case shape =>
    intro name h
    rcases pageName?_cases h with ⟨hempty, hname⟩ | ⟨hne, hname⟩
    · exact .inl ⟨trimmed_eq_empty_iff.mp hempty, hname⟩
    · exact .inr ⟨by simpa using mt trimmed_eq_empty_iff.mpr hne, hname⟩
  case image =>
    constructor
    · rintro ⟨other, h⟩
      exact (isPageName_of_pageName? h).pageName?_eq
    · exact fun h => ⟨path, h⟩
  case fixed => exact ⟨isPageName_of_pageName?, IsPageName.pageName?_eq⟩
  case refused => exact pageName?_eq_none_iff

end ShellDocs.Preview
