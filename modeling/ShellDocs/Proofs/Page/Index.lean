import ShellDocs.Page.Index
import ShellDocs.Proofs.Grouping

/-! # Lists on the index page

The index page has two lists, one of the categories and one of the pages. Each stands under a
part of its own and ends with a blank line.
-/

namespace ShellDocs.Page

/-- The parts of a page below the first that equals `top`, up to a blank line. -/
def listUnder (top : Part) (parts : List Part) : List Part :=
  ((parts.dropWhile (· ≠ top)).drop 1).takeWhile (· ≠ .blank)

theorem listUnder_append {top : Part} {front items : List Part} (hf : top ∉ front)
    (hi : .blank ∉ items) (rest : List Part) :
    listUnder top (front ++ top :: (items ++ .blank :: rest)) = items := by
  have hdrop : (front ++ top :: (items ++ .blank :: rest)).dropWhile (· ≠ top) =
      top :: (items ++ .blank :: rest) := by
    rw [List.dropWhile_append_of_pos fun p hp => ?_]
    · exact List.dropWhile_cons_of_neg (by simp)
    · have hne : p ≠ top := fun he => hf (he ▸ hp)
      simpa using hne
  rw [listUnder, hdrop, List.drop_succ_cons, List.drop_zero,
    List.takeWhile_append_of_pos fun p hp => ?_]
  · rw [List.takeWhile_cons_of_neg (by simp), List.append_nil]
  · have hne : p ≠ .blank := fun he => hi (he ▸ hp)
    simpa using hne

theorem groups_entries (docs : DocSet) :
    (groups docs).entries = (groups docs).keys.map fun g => (g, docs.inGroup g) := by
  rw [OrderedMap.keys, List.map_map]
  refine (List.map_id _).symm.trans (List.map_congr_left fun e he => ?_)
  exact Prod.ext rfl (DocSet.byDirectory_snd ((claimFiles_sublist _ _).mem he))

theorem groups_keys_sublist (docs : DocSet) :
    (groups docs).keys.Sublist docs.byDirectory.keys :=
  (claimFiles_sublist _ _).map _

theorem mem_groupsWithoutPage {docs : DocSet} {g : String} :
    g ∈ groupsWithoutPage docs ↔ g ∈ docs.byDirectory.keys ∧ g ∉ (groups docs).keys := by
  have hkeys : (groups docs).contains g = true ↔ g ∈ (groups docs).keys := by
    rw [OrderedMap.mem_keys_iff, OrderedMap.contains, Option.isSome_iff_exists]
  rw [groupsWithoutPage, List.mem_filter, ← hkeys, Bool.not_eq_true', Bool.not_eq_true]

theorem groups_append_perm (docs : DocSet) :
    ((groups docs).keys ++ groupsWithoutPage docs).Perm docs.byDirectory.keys := by
  have hkept := (groups docs).nodup_keys
  have hall := docs.byDirectory.nodup_keys
  refine (List.perm_ext_iff_of_nodup ?_ hall).mpr fun g => ?_
  · refine List.nodup_append.mpr ⟨hkept, hall.filter _, ?_⟩
    rintro g hg _ hd rfl
    exact (mem_groupsWithoutPage.mp hd).2 hg
  · rw [List.mem_append, mem_groupsWithoutPage]
    have hsub : g ∈ (groups docs).keys → g ∈ docs.byDirectory.keys :=
      fun hg => (groups_keys_sublist docs).mem hg
    tauto

section Lists

variable (options : Options) (docs : DocSet)

theorem listUnder_categories :
    listUnder (.label "Categories") (index options docs) =
      docs.byCategory.keys.map fun c => categoryItem c (docs.inCategory c) := by
  have hsplit : index options docs =
      [.heading 1 options.title,
        .paragraph
          "This documentation is automatically generated from docstrings in the shell scripts.",
        .labelled "Total Scripts" (toString docs.size)] ++
      .label "Categories" ::
        ((docs.byCategory.keys.map fun c => categoryItem c (docs.inCategory c)) ++ .blank ::
          ([.heading 2 "Documentation Pages", componentsItem]
            ++ (groups docs).entries.map (fun e => groupItem e.1 e.2) ++ [.blank])) := by
    simp [index, docs.byCategory_entries, Function.comp_def]
  rw [hsplit]
  exact listUnder_append (by simp) (by simp [categoryItem, Part.item]) _

theorem listUnder_pages :
    listUnder (.heading 2 "Documentation Pages") (index options docs) =
      componentsItem :: (groups docs).keys.map fun g => groupItem g (docs.inGroup g) := by
  have hsplit : index options docs =
      ([.heading 1 options.title,
        .paragraph
          "This documentation is automatically generated from docstrings in the shell scripts.",
        .labelled "Total Scripts" (toString docs.size), .label "Categories"]
        ++ docs.byCategory.entries.map (fun e => categoryItem e.1 e.2) ++ [.blank]) ++
      .heading 2 "Documentation Pages" ::
        ((componentsItem :: (groups docs).keys.map fun g => groupItem g (docs.inGroup g)) ++
          .blank :: []) := by
    simp [index, groups_entries, Function.comp_def]
  rw [hsplit]
  exact listUnder_append (by simp [categoryItem, Part.item])
    (by simp [componentsItem, groupItem, Part.item]) _

end Lists

end ShellDocs.Page
