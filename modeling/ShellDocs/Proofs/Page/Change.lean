import Mathlib.Data.List.Sort
import ShellDocs.Page.Navigation
import ShellDocs.Proofs.Page.FileOwner

/-! # Changing one script

A script that is inserted, new or in the stead of an older one, belongs to one directory group. The
pages of all other groups stay as they are. At most one of them is lost, to the group of the script,
if this group is new and comes first with the same file name.
-/

namespace ShellDocs

variable {docs : DocSet} {path g g' : String} {f : Fields}

namespace DocSet

theorem inGroup_insert_of_ne (h : g ≠ directoryGroup path) :
    inGroup (docs.insert path f) g = docs.inGroup g := by
  have hfilter : (docs.insert path f).filter (directoryGroup · = g) =
      docs.filter (directoryGroup · = g) := by
    apply OrderedMap.ext_get?
    intro k
    simp only [OrderedMap.get?_filter, OrderedMap.get?_insert, decide_eq_true_eq]
    by_cases hk : k = path
    · rw [hk, if_neg (Ne.symm h), if_neg (Ne.symm h)]
    · rw [if_neg hk]
  exact congrArg OrderedMap.entries hfilter

theorem mem_byDirectory_keys_iff :
    g ∈ docs.byDirectory.keys ↔ ∃ k ∈ docs.keys, directoryGroup k = g := by
  rw [mem_byDirectory_keys, OrderedMap.keys]
  simp only [List.mem_map, exists_exists_and_eq_and]

theorem mem_byDirectory_keys_insert :
    g ∈ (byDirectory (docs.insert path f)).keys ↔
      g = directoryGroup path ∨ g ∈ docs.byDirectory.keys := by
  have hkeys : ∀ k, k ∈ (docs.insert path f).keys ↔ k = path ∨ k ∈ docs.keys := by
    intro k
    simp only [OrderedMap.mem_keys_iff, OrderedMap.get?_insert]
    by_cases hk : k = path <;> simp [hk]
  simp only [mem_byDirectory_keys_iff, hkeys]
  constructor
  · rintro ⟨k, rfl | hk, rfl⟩
    · exact .inl rfl
    · exact .inr ⟨k, hk, rfl⟩
  · rintro (rfl | ⟨k, hk, rfl⟩)
    · exact ⟨path, .inl rfl, rfl⟩
    · exact ⟨k, .inr hk, rfl⟩

end DocSet

namespace Page

variable {options : Options} {text : String}

def page? (options : Options) (docs : DocSet) (g : String) : Option String :=
  ((groups docs).get? g).map fun scripts => render (groupPage options g scripts)

theorem page?_eq_some_iff : page? options docs g = some text ↔
    g ∈ (groups docs).keys ∧ render (groupPage options g (docs.inGroup g)) = text := by
  rw [page?, Option.map_eq_some_iff]
  constructor
  · rintro ⟨scripts, hs, rfl⟩
    have he : (g, scripts) ∈ (groups docs).entries := OrderedMap.mem_entries_iff.mpr hs
    have hscripts : scripts = docs.inGroup g :=
      DocSet.byDirectory_snd (mem_groups_entries_iff.mp he).1
    exact ⟨List.mem_map_of_mem he, by rw [hscripts]⟩
  · rintro ⟨hg, rfl⟩
    obtain ⟨e, he, rfl⟩ := List.mem_map.mp hg
    refine ⟨e.2, OrderedMap.mem_entries_iff.mp he, ?_⟩
    rw [DocSet.byDirectory_snd (mem_groups_entries_iff.mp he).1]

theorem page?_insert_of_ne {text' : String} (h : g ≠ directoryGroup path)
    (ht : page? options docs g = some text)
    (ht' : page? options (docs.insert path f) g = some text') : text' = text := by
  obtain ⟨-, rfl⟩ := page?_eq_some_iff.mp ht
  obtain ⟨-, rfl⟩ := page?_eq_some_iff.mp ht'
  rw [DocSet.inGroup_insert_of_ne h]

section Lost

/-- A group has a page and has none once the script is inserted. -/
def Loses (docs : DocSet) (path : String) (f : Fields) (g : String) : Prop :=
  g ∈ (groups docs).keys ∧ g ∉ (groups (docs.insert path f)).keys

/-- More groups leave fewer file names free. -/
theorem mem_groups_keys_of_insert (h : g ≠ directoryGroup path)
    (hg : g ∈ (groups (docs.insert path f)).keys) : g ∈ (groups docs).keys := by
  obtain ⟨hkey, hfree, hleast⟩ := mem_groups_keys_iff.mp hg
  have hold : g ∈ docs.byDirectory.keys :=
    (DocSet.mem_byDirectory_keys_insert.mp hkey).resolve_left h
  refine mem_groups_keys_iff.mpr ⟨hold, hfree, fun g' hg' => ?_⟩
  exact hleast g' (DocSet.mem_byDirectory_keys_insert.mpr (.inr hg'))

theorem Loses.taken (h : Loses docs path f g) :
    groupFile (directoryGroup path) = groupFile g ∧ directoryGroup path < g := by
  obtain ⟨hkey, hfree, hleast⟩ := mem_groups_keys_iff.mp h.1
  have hnew : g ∈ (DocSet.byDirectory (docs.insert path f)).keys :=
    DocSet.mem_byDirectory_keys_insert.mpr (.inr hkey)
  by_contra hno
  refine h.2 (mem_groups_keys_iff.mpr ⟨hnew, hfree, fun g' hg' hlt he => ?_⟩)
  rcases DocSet.mem_byDirectory_keys_insert.mp hg' with rfl | hg'
  · exact hno ⟨he, hlt⟩
  · exact hleast g' hg' hlt he

theorem Loses.not_mem (h : Loses docs path f g) : directoryGroup path ∉ docs.byDirectory.keys := by
  intro hd
  obtain ⟨hsame, hlt⟩ := h.taken
  exact (mem_groups_keys_iff.mp h.1).2.2 _ hd hlt hsame

theorem Loses.mem_groups_keys (h : Loses docs path f g) :
    directoryGroup path ∈ (groups (docs.insert path f)).keys := by
  obtain ⟨hsame, hlt⟩ := h.taken
  obtain ⟨-, hfree, hleast⟩ := mem_groups_keys_iff.mp h.1
  rw [← hsame] at hfree
  refine mem_groups_keys_iff.mpr
    ⟨DocSet.mem_byDirectory_keys_insert.mpr (.inl rfl), hfree, ?_⟩
  intro g' hg' hlt' he
  rcases DocSet.mem_byDirectory_keys_insert.mp hg' with rfl | hg'
  · exact Std.lt_irrefl hlt'
  · exact hleast g' hg' (Std.lt_trans hlt' hlt) (he.trans hsame)

/-- Two groups that lose their pages would have had one file name. -/
theorem Loses.unique (h : Loses docs path f g) (h' : Loses docs path f g') : g = g' := by
  have hsame : groupFile g = groupFile g' := h.taken.1.symm.trans h'.taken.1
  obtain ⟨hkey, -, hleast⟩ := mem_groups_keys_iff.mp h.1
  obtain ⟨hkey', -, hleast'⟩ := mem_groups_keys_iff.mp h'.1
  rcases Std.lt_trichotomy g g' with hlt | rfl | hgt
  · exact absurd hsame (hleast' g hkey hlt)
  · rfl
  · exact absurd hsame.symm (hleast g' hkey' hgt)

/-- A group that was there before takes no file name from another. -/
theorem keys_groups_insert_of_mem (h : directoryGroup path ∈ docs.byDirectory.keys) :
    (groups (docs.insert path f)).keys = (groups docs).keys := by
  have hkeys : (DocSet.byDirectory (docs.insert path f)).keys = docs.byDirectory.keys := by
    apply (OrderedMap.keys_ascending _).eq_of_mem_iff (OrderedMap.keys_ascending _)
    intro g
    rw [DocSet.mem_byDirectory_keys_insert]
    constructor
    · rintro (rfl | hg)
      · exact h
      · exact hg
    · exact .inr
  apply (OrderedMap.keys_ascending _).eq_of_mem_iff (OrderedMap.keys_ascending _)
  intro g
  rw [mem_groups_keys_iff, mem_groups_keys_iff, hkeys]

end Lost

/-- What an insertion of a script does to the pages of the directory groups. -/
structure Confined (options : Options) (docs : DocSet) (path : String) (f : Fields) : Prop where
  page_eq : ∀ g ≠ directoryGroup path, ∀ text text', page? options docs g = some text →
    page? options (docs.insert path f) g = some text' → text' = text
  not_gained : ∀ g ≠ directoryGroup path, page? options docs g = none →
    page? options (docs.insert path f) g = none
  lost_unique : ∀ g ≠ directoryGroup path, ∀ g' ≠ directoryGroup path,
    Loses docs path f g → Loses docs path f g' → g = g'
  /-- A page is lost only to a new group that has the same file name and is the smaller one in the
  order of bytes. -/
  lost : ∀ g ≠ directoryGroup path, Loses docs path f g →
    directoryGroup path ∉ docs.byDirectory.keys ∧
      directoryGroup path ∈ (groups (docs.insert path f)).keys ∧
      groupFile (directoryGroup path) = groupFile g ∧
      Text.bytes (directoryGroup path) < Text.bytes g
  /-- In a group that was there before, a script changes no other page and no link. -/
  kept : directoryGroup path ∈ docs.byDirectory.keys →
    (groups (docs.insert path f)).keys = (groups docs).keys ∧
      navigation (groups (docs.insert path f)).keys = navigation (groups docs).keys

theorem page?_eq_none_iff : page? options docs g = none ↔ g ∉ (groups docs).keys := by
  rw [OrderedMap.mem_keys_iff, ← Option.isSome_iff_exists, page?, Option.map_eq_none_iff]
  simp

/-- Inserting a script is confined to its directory group. -/
theorem confined (options : Options) (docs : DocSet) (path : String) (f : Fields) :
    Confined options docs path f := by
  constructor
  case page_eq => exact fun g hg text text' => page?_insert_of_ne hg
  case not_gained =>
    intro g hg hnone
    rw [page?_eq_none_iff] at hnone ⊢
    exact fun hnew => hnone (mem_groups_keys_of_insert hg hnew)
  case lost_unique => exact fun g _ g' _ h h' => h.unique h'
  case lost =>
    intro g _ h
    obtain ⟨hsame, hlt⟩ := h.taken
    exact ⟨h.not_mem, h.mem_groups_keys, hsame, Text.bytes_lt_bytes hlt⟩
  case kept =>
    intro hd
    have hkeys := keys_groups_insert_of_mem (f := f) hd
    exact ⟨hkeys, congrArg navigation hkeys⟩

end Page

end ShellDocs
