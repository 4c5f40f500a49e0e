import ShellDocs.Proofs.Page.Index
import ShellDocs.Proofs.Text.Bytes

/-! # Owners of file names

The directory groups ask for their file names in ascending order, and a group goes without a page
when its name is that of a fixed page or was asked for before. So every other name belongs to the
least group that asks for it.
-/

namespace ShellDocs.Page

variable {docs : DocSet} {g : String}

/-- A name that was asked for in vain was taken already, so that the names in the way of a group
are those of all groups before it, with a page or without. -/
theorem mem_claimFiles_iff {taken : List String} {gs : List (String × List Script)}
    {e : String × List Script} (h : gs.Pairwise (fun a b => a.1 < b.1)) :
    e ∈ claimFiles taken gs ↔
      e ∈ gs ∧ groupFile e.1 ∉ taken ∧ ∀ d ∈ gs, d.1 < e.1 → groupFile d.1 ≠ groupFile e.1 := by
  induction gs generalizing taken with
  | nil => simp [claimFiles]
  | cons c rest ih =>
    obtain ⟨hc, hrest⟩ := List.pairwise_cons.mp h
    unfold claimFiles
    split
    · rename_i htaken
      rw [ih hrest]
      constructor
      · rintro ⟨he, hfree, hleast⟩
        refine ⟨List.mem_cons_of_mem c he, hfree, fun d hd hlt => ?_⟩
        rcases List.mem_cons.mp hd with rfl | hd
        · exact fun hsame => hfree (hsame ▸ htaken)
        · exact hleast d hd hlt
      · rintro ⟨he, hfree, hleast⟩
        rcases List.mem_cons.mp he with rfl | he
        · exact absurd htaken hfree
        · exact ⟨he, hfree, fun d hd => hleast d (List.mem_cons_of_mem c hd)⟩
    · rename_i htaken
      rw [List.mem_cons, ih hrest, List.mem_cons, not_or]
      constructor
      · rintro (rfl | ⟨he, ⟨hne, hfree⟩, hleast⟩)
        · refine ⟨List.mem_cons_self, htaken, fun d hd hlt => ?_⟩
          rcases List.mem_cons.mp hd with rfl | hd
          · exact absurd hlt Std.lt_irrefl
          · exact absurd (hc d hd) (Std.not_lt.mpr (Std.le_of_lt hlt))
        · refine ⟨List.mem_cons_of_mem c he, hfree, fun d hd hlt => ?_⟩
          rcases List.mem_cons.mp hd with rfl | hd
          · exact Ne.symm hne
          · exact hleast d hd hlt
      · rintro ⟨he, hfree, hleast⟩
        rcases List.mem_cons.mp he with rfl | he
        · exact .inl rfl
        · refine .inr ⟨he, ⟨Ne.symm (hleast c List.mem_cons_self (hc e he)), hfree⟩, fun d hd => ?_⟩
          exact hleast d (List.mem_cons_of_mem c hd)

theorem mem_groups_entries_iff {e : String × List Script} :
    e ∈ (groups docs).entries ↔ e ∈ docs.byDirectory.entries ∧ groupFile e.1 ∉ reservedFiles ∧
      ∀ g ∈ docs.byDirectory.keys, g < e.1 → groupFile g ≠ groupFile e.1 := by
  refine (mem_claimFiles_iff docs.byDirectory.ascending).trans ?_
  simp only [OrderedMap.keys, List.forall_mem_map]

theorem mem_groups_keys_iff :
    g ∈ (groups docs).keys ↔ g ∈ docs.byDirectory.keys ∧ groupFile g ∉ reservedFiles ∧
      ∀ g' ∈ docs.byDirectory.keys, g' < g → groupFile g' ≠ groupFile g := by
  constructor
  · intro hg
    obtain ⟨e, he, rfl⟩ := List.mem_map.mp hg
    obtain ⟨hb, hfree⟩ := mem_groups_entries_iff.mp he
    exact ⟨List.mem_map_of_mem hb, hfree⟩
  · rintro ⟨hg, hfree⟩
    obtain ⟨e, he, rfl⟩ := List.mem_map.mp hg
    exact List.mem_map_of_mem (mem_groups_entries_iff.mpr ⟨he, hfree⟩)

theorem get?_groups (h : g ∈ (groups docs).keys) :
    (groups docs).get? g = docs.byDirectory.get? g := by
  obtain ⟨e, he, rfl⟩ := List.mem_map.mp h
  have hb := (mem_groups_entries_iff.mp he).1
  rw [OrderedMap.mem_entries_iff.mp he, OrderedMap.mem_entries_iff.mp hb]

theorem exists_least {name : String} (h : name ∈ docs.byDirectory.keys.map groupFile) :
    ∃ g ∈ docs.byDirectory.keys, groupFile g = name ∧
      ∀ g' ∈ docs.byDirectory.keys, groupFile g' = name → g' = g ∨ g < g' := by
  have hasc : (docs.byDirectory.keys.filter (groupFile · = name)).Pairwise (· < ·) :=
    docs.byDirectory.keys_ascending.filter _
  have hmem : ∀ g, g ∈ docs.byDirectory.keys.filter (groupFile · = name) ↔
      g ∈ docs.byDirectory.keys ∧ groupFile g = name := by simp [List.mem_filter]
  obtain ⟨g, hg, rfl⟩ := List.mem_map.mp h
  obtain ⟨least, rest, hl⟩ := List.exists_cons_of_ne_nil
    (List.ne_nil_of_mem ((hmem g).mpr ⟨hg, rfl⟩))
  rw [hl] at hasc hmem
  obtain ⟨hkey, hname⟩ := (hmem least).mp List.mem_cons_self
  refine ⟨least, hkey, hname, fun g' hg' he => ?_⟩
  rcases List.mem_cons.mp ((hmem g').mpr ⟨hg', he⟩) with rfl | hr
  · exact .inl rfl
  · exact .inr ((List.pairwise_cons.mp hasc).1 g' hr)

/-- Which directory groups have a page, and which file name each of them has. -/
structure Owns (docs : DocSet) : Prop where
  mem_keys_iff : ∀ g, g ∈ (groups docs).keys ↔ g ∈ docs.byDirectory.keys ∧
    groupFile g ∉ ["index.md", "components.md", "mkdocs_nav.yml"] ∧
    ∀ g' ∈ docs.byDirectory.keys, Text.bytes g' < Text.bytes g → groupFile g' ≠ groupFile g
  get?_eq : ∀ g ∈ (groups docs).keys, (groups docs).get? g = docs.byDirectory.get? g
  /-- A file name that is not fixed belongs to one of the groups that ask for it, the first in the
  order of bytes. -/
  owner : ∀ name ∈ docs.byDirectory.keys.map groupFile,
    name ∉ ["index.md", "components.md", "mkdocs_nav.yml"] →
      ∃ g ∈ (groups docs).keys, groupFile g = name ∧
        ∀ g' ∈ docs.byDirectory.keys, groupFile g' = name →
          g' = g ∨ g' ∉ (groups docs).keys ∧ Text.bytes g < Text.bytes g'
  fixed : ∀ name ∈ ["index.md", "components.md", "mkdocs_nav.yml"],
    ∀ g ∈ (groups docs).keys, groupFile g ≠ name

/-- Every file name that is asked for has one owner, and the names of the fixed pages have none
among the groups. -/
theorem owns (docs : DocSet) : Owns docs where
  mem_keys_iff g := by
    simp only [Text.bytes_lt_bytes_iff]
    exact mem_groups_keys_iff
  get?_eq _ := get?_groups
  owner name hname hfree := by
    obtain ⟨g, hg, rfl, hleast⟩ := exists_least hname
    refine ⟨g, mem_groups_keys_iff.mpr ⟨hg, hfree, fun g' hg' hlt he => ?_⟩, rfl, ?_⟩
    · rcases hleast g' hg' he with rfl | hgt
      · exact Std.lt_irrefl hlt
      · exact Std.not_lt.mpr (Std.le_of_lt hgt) hlt
    · intro g' hg' he
      rcases hleast g' hg' he with rfl | hgt
      · exact .inl rfl
      · refine .inr ⟨fun hkept => ?_, Text.bytes_lt_bytes hgt⟩
        exact (mem_groups_keys_iff.mp hkept).2.2 g hg hgt he.symm
  fixed _ hname _ hg he := (mem_groups_keys_iff.mp hg).2.1 (he ▸ hname)

end ShellDocs.Page
