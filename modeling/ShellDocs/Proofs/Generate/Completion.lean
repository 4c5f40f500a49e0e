import ShellDocs.Proofs.Generate.Success

/-! # Runs that succeed

A run that succeeds makes its output directory, finds where the output leads, and puts the planned
files there one by one. What is in their slots afterwards are these files.
-/

namespace ShellDocs

open Files Page

variable {t made : FileTree} {options : GenerateOptions} {report : Report} {docs : DocSet}
  {dir loc : Location} {f : PlannedFile}

/-- The steps of a run that succeeds. It makes `made` out of the tree and puts the files into
`dir`. -/
structure Completes (t : FileTree) (options : GenerateOptions) (docs : DocSet) (made : FileTree)
    (dir : Location) : Prop where
  created : t.createDirectories options.output = (made, .ok ())
  leadsTo : made.LeadsTo options.output dir
  into : Puts.Into options.output made (plan options.pages docs) dir
  puts : Puts options.output made (plan options.pages docs) (generate t options).tree
  written : writeFiles made options.output (plan options.pages docs) =
    ((generate t options).tree,
      .ok ((plan options.pages docs).map fun f => Path.join options.output f.name))

theorem exists_completes (h : (generate t options).result = .ok report) :
    ∃ docs log made dir, scan t options.input = .ok ⟨docs, log⟩ ∧
      report =
        ⟨docs.keys, (plan options.pages docs).map fun f => Path.join options.output f.name⟩ ∧
      Completes t options docs made dir := by
  obtain ⟨docs, log, files, hs, rfl, hw⟩ := exists_of_generate_eq_ok h
  obtain ⟨made, hmade, hputs, rfl⟩ := writeAll_eq_ok hw
  rw [writeAll_of_ok hmade] at hw
  obtain ⟨dir, hinto⟩ := hputs.exists_into fun f => isName_of_mem_plan
  obtain ⟨init, hplan⟩ := exists_plan_eq options.pages docs
  have hleads : made.LeadsTo options.output dir :=
    (hinto _ (hplan ▸ List.mem_append_right init List.mem_cons_self)).1
  exact ⟨docs, log, made, dir, hs, rfl, hmade, hleads, hinto, hputs, hw⟩

namespace Completes

variable (h : Completes t options docs made dir)
include h

theorem grows : t.Grows made options.output := by
  have hgrows := t.createDirectories_grows options.output
  rwa [h.created] at hgrows

theorem held (hf : f ∈ plan options.pages docs) :
    (generate t options).tree.get? (dir ++ [f.name]) = some (.file f.contents.toUTF8) :=
  h.puts.get?_of_mem (fun _ => isName_of_mem_plan) h.into (nodup_plan options.pages docs) hf

theorem checked (hf : f ∈ plan options.pages docs) :
    checkPath (Path.join options.output f.name) = .ok () ∧ f.name.utf8ByteSize ≤ maxName := by
  obtain ⟨hc, ⟨-, hdot, -⟩ | ⟨front, -, -, hlen⟩⟩ := FileTree.slot_cases (h.into f hf).2
  · exact absurd hdot (isName_of_mem_plan hf).2.1
  · exact ⟨hc, hlen⟩

/-- A planned file is found under its path as long as the output leads to the directory. -/
theorem resolve (hl : (generate t options).tree.LeadsTo options.output dir)
    (hf : f ∈ plan options.pages docs) :
    (generate t options).tree.resolve (Path.join options.output f.name) =
      .ok (.file (dir ++ [f.name]) f.contents.toUTF8) :=
  FileTree.resolve_join (isName_of_mem_plan hf) hl (h.checked hf).1 (h.checked hf).2 (h.held hf)

/-- The output leads to the directory afterwards, or it led through a link at the name of the index
page. -/
theorem leadsTo_or_link_index :
    (generate t options).tree.LeadsTo options.output dir ∨
      ∃ target, t.get? (dir ++ [indexFile]) = some (.link target) := by
  obtain ⟨init, hplan⟩ := exists_plan_eq options.pages docs
  have hputs := h.puts
  have hinto := h.into
  have hnd := nodup_plan options.pages docs
  have hname : ∀ f ∈ plan options.pages docs, IsName f.name := fun f => isName_of_mem_plan
  rw [hplan] at hputs hinto hnd hname
  refine (hputs.leadsTo_or_link hname hinto hnd).imp_right ?_
  rintro ⟨target, ht⟩
  exact ⟨target, (h.grows.get?_eq_some_iff (by simp)).mp ht⟩

theorem get?_of_ne (hloc : ∀ f ∈ plan options.pages docs, loc ≠ dir ++ [f.name]) :
    (generate t options).tree.get? loc = t.get? loc ∨
      t.get? loc = none ∧ (generate t options).tree.get? loc = some .directory := by
  have hmade : (generate t options).tree.get? loc = made.get? loc := by
    refine h.puts.get?_of_not_isTarget ?_
    rw [Puts.isTarget_iff h.into]
    rintro ⟨f, hf, he⟩
    exact hloc f hf he
  rcases h.grows.get? loc with he | hm
  · exact .inl (hmade.trans he)
  · exact .inr ⟨hm.vacant, hmade.trans hm.made⟩

end Completes

end ShellDocs
