import ShellDocs.Proofs.Generate.Write

/-! # What a failure leaves behind

A run that finds no scripts changes nothing. A run whose directory cannot be made changes no
file, and one that fails at a file leaves the tree with the files before it, as if these had
been the whole run.
-/

namespace ShellDocs

open Files Page

/-- The tree `u` that is left when writing files into a directory fails. -/
inductive WriteFailure (t : FileTree) (output : String) (files : List PlannedFile)
    (u : FileTree) : Error → Prop where
  /-- The directory cannot be made. -/
  | directory {cause : IoError} :
      t.createDirectories output = (u, .error cause) →
      t.Grows u output →
      (∀ loc c, u.get? loc = some (.file c) ↔ t.get? loc = some (.file c)) →
      WriteFailure t output files u (.write output cause)
  /-- The file `f` cannot be put after those before it were. -/
  | file {made : FileTree} {done later : List PlannedFile} {f : PlannedFile} {cause : IoError} :
      files = done ++ f :: later →
      t.createDirectories output = (made, .ok ()) →
      t.Grows made output →
      Puts output made done u →
      (∀ loc, ¬ Puts.IsTarget output made done loc → u.get? loc = made.get? loc) →
      u.replaceFile (Path.join output f.name) f.contents.toUTF8 = (u, .error cause) →
      WriteFailure t output files u (.write (Path.join output f.name) cause)

variable {t u : FileTree} {output : String} {files : List PlannedFile} {e : Error}

theorem writeFailure_of_eq_error (h : writeAll t output files = (u, .error e)) :
    WriteFailure t output files u e := by
  have hgrows := t.createDirectories_grows output
  cases hc : t.createDirectories output with
  | mk made r =>
    rw [hc] at hgrows
    cases r with
    | error cause =>
      rw [writeAll_of_error hc] at h
      cases h
      exact .directory hc hgrows fun loc c => hgrows.get?_eq_some_iff (by simp)
    | ok _ =>
      rw [writeAll_of_ok hc] at h
      rcases writeFiles_cases made output files with
        ⟨v, -, hw⟩ | ⟨done, f, later, v, cause, hf, hputs, hr, hw⟩
      · rw [hw] at h
        cases h
      · rw [hw] at h
        cases h
        exact .file hf hc hgrows hputs (fun loc => hputs.get?_of_not_isTarget) hr

theorem tree_of_generate_error {options : GenerateOptions}
    (h : (generate t options).result = .error e) (he : ∀ path cause, e ≠ .write path cause) :
    (generate t options).tree = t := by
  cases hs : scan t options.input with
  | error cause => rw [generate_of_error hs]
  | ok s =>
    obtain ⟨docs, log⟩ := s
    by_cases hd : docs.isEmpty
    · rw [generate_of_isEmpty hs hd]
    · rw [(generate_of_scan hs hd).2] at h
      rcases hw : writeAll t options.output (plan options.pages docs) with ⟨u, cause | paths⟩
      · rw [hw] at h
        cases h
        cases writeFailure_of_eq_error hw with
        | directory => exact absurd rfl (he _ _)
        | file => exact absurd rfl (he _ _)
      · rw [hw] at h
        cases h

/-- A run that misses its input or finds no scripts changes nothing. When files are written and
one of them fails, the tree is the one with the files before it. -/
theorem tree_of_failure :
    (∀ (t : FileTree) (options : GenerateOptions) (path : String),
      (generate t options).result = .error (.inputNotFound path) ∨
        (generate t options).result = .error (.nothingToDocument path) →
      (generate t options).tree = t) ∧
    ∀ (t u : FileTree) (output : String) (files : List PlannedFile) (e : Error),
      writeAll t output files = (u, .error e) → WriteFailure t output files u e := by
  refine ⟨fun t options path h => ?_, fun t u output files e => writeFailure_of_eq_error⟩
  rcases h with h | h
  · exact tree_of_generate_error h (by simp)
  · exact tree_of_generate_error h (by simp)

/-- Of three files, the second has the name of a directory. -/
theorem tree_of_failure_sampleTree :
    (generate sampleTree ⟨"gone", "out", {}⟩).tree = sampleTree ∧
      WriteFailure sampleTree "" [⟨"a.md", "x"⟩, ⟨"in", "y"⟩, ⟨"b.md", "z"⟩]
        (writeAll sampleTree "" [⟨"a.md", "x"⟩, ⟨"in", "y"⟩, ⟨"b.md", "z"⟩]).1
        (.write "in" .isDirectory) :=
  ⟨tree_of_failure.1 _ _ "gone" (.inl (by decide +kernel)),
    tree_of_failure.2 _ _ _ _ _ (Prod.ext rfl (by decide +kernel))⟩

end ShellDocs
