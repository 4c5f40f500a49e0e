import ShellDocs.Proofs.Generate.SameDocuments

/-! # Running again

Without links a run that has succeeded can be repeated. It finds the scripts that were found
before, since no planned file has the name of a script, and it puts every file where the same file
stands.
-/

namespace ShellDocs

open Files Page

section Writes

variable {t u : FileTree} {output : String} {files rest : List PlannedFile} {f : PlannedFile}
  {paths : List String}

theorem Puts.keepsWays_of_noLinks (h : Puts output t files u) (ht : t.NoLinks) :
    FileTree.KeepsWays t u := by
  induction h with
  | nil => exact .refl _
  | @cons t u dir name f rest _ _ _ ih =>
    have hput := FileTree.keepsWays_put (fun target => ht (dir ++ [name]) target)
      (.file f.contents.toUTF8)
    exact hput.trans (ih ((t.keepsWays_of_put_file ..).noLinks ht))

theorem writeFiles_cons_eq_ok (h : writeFiles t output (f :: rest) = (u, .ok paths)) :
    ∃ v later, t.replaceFile (Path.join output f.name) f.contents.toUTF8 = (v, .ok ()) ∧
      writeFiles v output rest = (u, .ok later) := by
  rcases hr : t.replaceFile (Path.join output f.name) f.contents.toUTF8 with ⟨v, e | _⟩
  · rw [writeFiles_cons_of_error hr] at h
    cases h
  · rw [writeFiles_cons_of_ok hr] at h
    rcases hw : writeFiles v output rest with ⟨w, e | later⟩
    · rw [hw] at h
      cases h
    · rw [hw] at h
      cases h
      exact ⟨v, later, rfl, hw⟩

/-- Where files were written without links, there is room for their temporary files afterwards. -/
theorem exists_hasRoom_of_writeFiles (ht : t.NoLinks)
    (h : writeFiles t output files = (u, .ok paths)) :
    ∀ f ∈ files, ∃ d, u.HasRoom (FileTree.temporaryDirectory (Path.join output f.name)) d := by
  induction files generalizing t paths with
  | nil => exact fun f hf => nomatch hf
  | cons f rest ih =>
    have hk := (writeFiles_eq_ok h).1.keepsWays_of_noLinks ht
    obtain ⟨v, later, hr, hw⟩ := writeFiles_cons_eq_ok h
    intro g hg
    rcases List.mem_cons.mp hg with rfl | hg
    · obtain ⟨d, hroom⟩ := FileTree.exists_hasRoom_of_replaceFile hr
      exact ⟨d, hk.hasRoom hroom⟩
    · obtain ⟨dir, name, -, -, rfl⟩ := FileTree.replaceFile_eq_ok hr
      exact ih ((t.keepsWays_of_put_file ..).noLinks ht) hw g hg

theorem writeFiles_of_unchanged
    (h : ∀ f ∈ files, u.replaceFile (Path.join output f.name) f.contents.toUTF8 = (u, .ok ())) :
    writeFiles u output files = (u, .ok (files.map fun f => Path.join output f.name)) := by
  induction files with
  | nil => rfl
  | cons f rest ih =>
    rw [writeFiles_cons_of_ok (h f List.mem_cons_self),
      ih fun g hg => h g (List.mem_cons_of_mem f hg)]
    rfl

end Writes

section Scripts

variable {t : FileTree} {options : GenerateOptions} {docs : DocSet} {f : PlannedFile}
  {made : FileTree} {dir : Location}

theorem getLast?_of_mem_plan {options : Page.Options} (h : f ∈ plan options docs) :
    f.name.toList.getLast? ≠ some 'h' := by
  rcases name_cases_of_mem_plan h with ⟨group, -, he⟩ | hm
  · have hl : f.name.toList = (Text.lower group).toList ++ ['.', 'm', 'd'] := by
      rw [he, groupFile, String.toList_append]
      rfl
    simp [hl]
  · have hfixed : ∀ n ∈ [navigationFile, componentsFile, indexFile],
        n.toList.getLast? ≠ some 'h' := by decide
    exact hfixed _ hm

theorem not_isScriptTrail_of_mem_plan {options : Page.Options} (h : f ∈ plan options docs) :
    ¬ IsScriptTrail (dir ++ [f.name]) := by
  rw [isScriptTrail_concat_iff]
  rintro ⟨stem, -, he⟩
  refine getLast?_of_mem_plan h ?_
  rw [he]
  simp

theorem Completes.sameScriptFiles (h : Completes t options docs made dir) :
    SameScriptFiles t (generate t options).tree := by
  intro loc hs bytes
  have hloc : ∀ f ∈ plan options.pages docs, loc ≠ dir ++ [f.name] := by
    rintro f hf rfl
    exact not_isScriptTrail_of_mem_plan hf hs
  rcases h.get?_of_ne hloc with he | ⟨hn, hd⟩
  · rw [he]
  · rw [hn, hd]
    exact ⟨nofun, nofun⟩

end Scripts

section Again

variable {t : FileTree} {options : GenerateOptions} {docs : DocSet} {report : Report}
  {made : FileTree} {dir : Location}

namespace Completes

variable (h : Completes t options docs made dir) (ht : t.NoLinks)
include h ht

theorem keepsWays_made : FileTree.KeepsWays made (generate t options).tree :=
  h.puts.keepsWays_of_noLinks (h.grows.noLinks ht)

theorem keepsWays : FileTree.KeepsWays t (generate t options).tree :=
  h.grows.keepsWays.trans (h.keepsWays_made ht)

theorem noLinks : (generate t options).tree.NoLinks :=
  h.puts.keepsWays.noLinks (h.grows.noLinks ht)

theorem writeAll_again :
    writeAll (generate t options).tree options.output (plan options.pages docs) =
      ((generate t options).tree,
        .ok ((plan options.pages docs).map fun f => Path.join options.output f.name)) := by
  have hk := h.keepsWays_made ht
  rw [writeAll_of_ok (FileTree.createDirectories_of_leadsTo (hk.leadsTo h.leadsTo))]
  refine writeFiles_of_unchanged fun f hf => ?_
  -- Each file goes where it stands, through a temporary file in the same place as before.
  obtain ⟨d, hd⟩ := exists_hasRoom_of_writeFiles (h.grows.noLinks ht) h.written f hf
  have hslot := hk.slot (h.into f hf).2
  have hput := FileTree.mayPut_of_get?_file (h.held hf)
  have hend := Path.not_endsInSlash_join options.output (isName_of_mem_plan hf)
  rw [FileTree.replaceFile_of_slot hd hslot hput hend, FileTree.put_self (h.held hf)]

end Completes

/-- Without links a run that has succeeded succeeds again, with the same report, and changes
nothing. -/
theorem generate_again (ht : t.NoLinks) (h : (generate t options).result = .ok report) :
    (generate (generate t options).tree options).result = .ok report ∧
      (generate (generate t options).tree options).tree = (generate t options).tree := by
  obtain ⟨docs, log, made, dir, hs, hreport, hc⟩ := exists_completes h
  have hne : ¬ docs.isEmpty := by
    intro hd
    rw [generate_of_isEmpty hs hd] at h
    cases h
  -- The second scan starts from the same directory and documents what the first did.
  obtain ⟨top, hroot⟩ := exists_root_of_scan hs
  have hroot' := (hc.keepsWays ht).resolve hroot
  have hsame := hc.sameScriptFiles.sameScripts ht (hc.noLinks ht) hroot hroot'
  have hdocs : documents (generate t options).tree options.input = docs := by
    rw [← hsame.documents_eq, documents, hs]
  obtain ⟨log', hs'⟩ := exists_scan_eq ⟨top, hroot'⟩
  rw [hdocs] at hs'
  obtain ⟨htree, hresult⟩ := generate_of_scan hs' hne
  rw [hc.writeAll_again ht] at htree hresult
  rw [hreport]
  exact ⟨hresult, htree⟩

/-- The files may go where the scripts are. -/
theorem generate_again_plainTree :
    let u := (generate plainTree ⟨"in", "in", {}⟩).tree
    (generate u ⟨"in", "in", {}⟩).result = .ok
        ⟨["a.sh"], ["in/root.md", "in/mkdocs_nav.yml", "in/components.md", "in/index.md"]⟩ ∧
      (generate u ⟨"in", "in", {}⟩).tree = u :=
  generate_again (by decide) (result_of_scan scan_plainTree (by decide +kernel))

end Again

end ShellDocs
