import Mathlib.Data.List.Basic
import Mathlib.Data.List.TakeWhile
import ShellDocs.Page.Plan
import ShellDocs.Proofs.Files.Tree
import ShellDocs.Proofs.OrderedMap
import ShellDocs.Proofs.Text.Case

/-! # Names of the planned files

Every planned file has a name of one segment, and no two have the same. The file for a
directory group keeps out of the way of the fixed pages and of the groups before it.
-/

namespace ShellDocs

open Files

theorem slash_not_mem_directoryGroup (path : String) : '/' ∉ (directoryGroup path).toList := by
  unfold directoryGroup
  split
  · dsimp only
    split
    · decide
    · intro hm
      rw [String.toList_ofList] at hm
      simpa using List.mem_takeWhile_imp hm
  · decide

namespace Page

variable {group : String} {taken : List String} {gs : List (String × List Script)}
  {g : String × List Script}

theorem groupFile_mem_of_mem_claimFiles (h : g ∈ claimFiles taken gs) : groupFile g.1 ∉ taken := by
  induction gs generalizing taken with
  | nil => cases h
  | cons d rest ih =>
    unfold claimFiles at h
    split at h
    · exact ih h
    · rename_i hd
      rcases List.mem_cons.mp h with rfl | h
      · exact hd
      · exact fun hm => ih h (List.mem_cons_of_mem _ hm)

theorem nodup_claimFiles (taken : List String) (gs : List (String × List Script)) :
    ((claimFiles taken gs).map fun g => groupFile g.1).Nodup := by
  induction gs generalizing taken with
  | nil => exact List.nodup_nil
  | cons d rest ih =>
    unfold claimFiles
    split
    · exact ih taken
    · rw [List.map_cons, List.nodup_cons]
      refine ⟨fun hm => ?_, ih _⟩
      obtain ⟨g, hg, he⟩ := List.mem_map.mp hm
      exact groupFile_mem_of_mem_claimFiles hg (he ▸ List.mem_cons_self)

theorem isName_groupFile (h : '/' ∉ group.toList) : IsName (groupFile group) :=
  isName_append_md fun hm => h (Text.mem_lower hm (by decide))

theorem mem_groups {docs : DocSet} (h : g ∈ (groups docs).entries) :
    groupFile g.1 ∉ reservedFiles ∧ '/' ∉ g.1.toList := by
  refine ⟨groupFile_mem_of_mem_claimFiles h, ?_⟩
  have hb : g ∈ docs.byDirectory.entries := (claimFiles_sublist _ _).mem h
  obtain ⟨s, -, hs⟩ := OrderedMap.exists_of_mem_groupBy hb
  rw [← hs]
  exact slash_not_mem_directoryGroup s.1

theorem map_name_plan (options : Options) (docs : DocSet) :
    (plan options docs).map (·.name) =
      (groups docs).entries.map (fun g => groupFile g.1) ++
        [navigationFile, componentsFile, indexFile] := by
  simp [plan, Function.comp_def]

theorem exists_plan_eq (options : Options) (docs : DocSet) :
    ∃ init, plan options docs = init ++ [⟨indexFile, render (index options docs)⟩] := by
  refine ⟨(plan options docs).dropLast, ?_⟩
  have hne : plan options docs ≠ [] := by simp [plan]
  have hlast : (plan options docs).getLast hne = ⟨indexFile, render (index options docs)⟩ := by
    simp [plan]
  rw [← hlast, List.dropLast_concat_getLast hne]

theorem name_cases_of_mem_plan {options : Options} {docs : DocSet} {f : PlannedFile}
    (h : f ∈ plan options docs) :
    (∃ group ∈ (groups docs).keys, f.name = groupFile group) ∨
      f.name ∈ [navigationFile, componentsFile, indexFile] := by
  have hm : f.name ∈ (plan options docs).map (·.name) := List.mem_map_of_mem h
  rw [map_name_plan] at hm
  rcases List.mem_append.mp hm with hm | hm
  · obtain ⟨g, hg, he⟩ := List.mem_map.mp hm
    exact .inl ⟨g.1, List.mem_map_of_mem hg, he.symm⟩
  · exact .inr hm

theorem isName_of_mem_plan {options : Options} {docs : DocSet} {f : PlannedFile}
    (h : f ∈ plan options docs) : IsName f.name := by
  rcases name_cases_of_mem_plan h with ⟨group, hg, he⟩ | hm
  · obtain ⟨g, hm, rfl⟩ := List.mem_map.mp hg
    rw [he]
    exact isName_groupFile (mem_groups hm).2
  · have hfixed : ∀ n ∈ [navigationFile, componentsFile, indexFile], IsName n := by decide
    exact hfixed _ hm

/-- No planned file is written over a planned file before it. -/
theorem nodup_plan (options : Options) (docs : DocSet) :
    ((plan options docs).map (·.name)).Nodup := by
  rw [map_name_plan, List.nodup_append]
  refine ⟨nodup_claimFiles _ _, by decide, ?_⟩
  rintro _ hm n hn rfl
  obtain ⟨g, hg, rfl⟩ := List.mem_map.mp hm
  have hsub : ∀ n ∈ [navigationFile, componentsFile, indexFile], n ∈ reservedFiles := by decide
  exact (mem_groups hg).1 (hsub _ hn)

end Page

end ShellDocs
