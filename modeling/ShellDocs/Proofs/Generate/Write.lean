import ShellDocs.Generate
import ShellDocs.Proofs.Files.Create
import ShellDocs.Proofs.Files.Replace

/-! # Writing files one by one

A run of writes puts each file into the slot of its path, in order, and stops at the first
file that cannot be put. What is in no slot of these files stays as it was.
-/

namespace ShellDocs

open Files Page

/-- Each file is put into the slot that its path has when its turn comes. -/
inductive Puts (output : String) : FileTree → List PlannedFile → FileTree → Prop where
  | nil {t : FileTree} : Puts output t [] t
  | cons {t u : FileTree} {dir : Location} {name : String} {f : PlannedFile}
      {rest : List PlannedFile} :
      t.slot (Path.join output f.name) = .ok (dir, name) → t.MayPut dir name →
      Puts output (t.put dir name (.file f.contents.toUTF8)) rest u → Puts output t (f :: rest) u

namespace Puts

variable {output : String} {t u v : FileTree} {files : List PlannedFile} {f : PlannedFile}
  {dir loc : Location} {name : String}

def IsTarget (output : String) (t : FileTree) (files : List PlannedFile) (loc : Location) : Prop :=
  ∃ f ∈ files, ∃ dir name, t.slot (Path.join output f.name) = .ok (dir, name) ∧ loc = dir ++ [name]

theorem keepsWays (h : Puts output t files u) : u.KeepsWays t := by
  induction h with
  | nil => exact .refl _
  | cons _ _ _ ih => exact ih.trans (FileTree.keepsWays_of_put_file ..)

theorem cwd_eq (h : Puts output t files u) : u.cwd = t.cwd := h.keepsWays.cwd.symm

theorem isTarget_of_put {c : ByteArray} (h : IsTarget output (t.put dir name (.file c)) files loc) :
    IsTarget output t files loc := by
  obtain ⟨f, hf, d, n, hs, rfl⟩ := h
  exact ⟨f, hf, d, n, (FileTree.keepsWays_of_put_file ..).slot hs, rfl⟩

theorem get?_of_not_isTarget (h : Puts output t files u) (hl : ¬ IsTarget output t files loc) :
    u.get? loc = t.get? loc := by
  induction h with
  | nil => rfl
  | @cons t u dir name f rest hs hput _ ih =>
    rw [ih ?_, FileTree.get?_put_of_ne]
    · rintro rfl
      exact hl ⟨f, List.mem_cons_self, dir, name, hs, rfl⟩
    · intro hrest
      obtain ⟨g, hg, hslot⟩ := isTarget_of_put hrest
      exact hl ⟨g, List.mem_cons_of_mem f hg, hslot⟩

end Puts

section Run

variable {t u : FileTree} {output : String} {files rest : List PlannedFile}
  {f : PlannedFile} {paths : List String} {e : Error}

theorem writeFiles_cons_of_error {cause : IoError}
    (h : t.replaceFile (Path.join output f.name) f.contents.toUTF8 = (u, .error cause)) :
    writeFiles t output (f :: rest) = (u, .error (.write (Path.join output f.name) cause)) := by
  simp only [writeFiles, h]

theorem writeFiles_cons_of_ok
    (h : t.replaceFile (Path.join output f.name) f.contents.toUTF8 = (u, .ok ())) :
    writeFiles t output (f :: rest) =
      ((writeFiles u output rest).1,
        (writeFiles u output rest).2.map (Path.join output f.name :: ·)) := by
  rw [writeFiles]
  simp only [h]
  rcases writeFiles u output rest with ⟨v, e | paths⟩ <;> rfl

/-- A run of writes puts every file, or it puts the files before the first that cannot be put. -/
theorem writeFiles_cases (t : FileTree) (output : String) (files : List PlannedFile) :
    (∃ u, Puts output t files u ∧
      writeFiles t output files = (u, .ok (files.map fun f => Path.join output f.name))) ∨
    ∃ done f later u cause, files = done ++ f :: later ∧ Puts output t done u ∧
      u.replaceFile (Path.join output f.name) f.contents.toUTF8 = (u, .error cause) ∧
      writeFiles t output files = (u, .error (.write (Path.join output f.name) cause)) := by
  induction files generalizing t with
  | nil => exact .inl ⟨t, .nil, rfl⟩
  | cons f rest ih =>
    rcases t.replaceFile_cases (Path.join output f.name) f.contents.toUTF8 with
      ⟨cause, hr⟩ | ⟨dir, name, hs, hput, hr⟩
    · exact .inr ⟨[], f, rest, t, cause, rfl, .nil, hr, writeFiles_cons_of_error hr⟩
    · rw [writeFiles_cons_of_ok hr]
      rcases ih (t.put dir name (.file f.contents.toUTF8)) with
        ⟨u, hu, hw⟩ | ⟨done, g, later, u, cause, rfl, hu, hg, hw⟩
      · refine .inl ⟨u, .cons hs hput hu, ?_⟩
        rw [hw]
        rfl
      · refine .inr ⟨f :: done, g, later, u, cause, rfl, .cons hs hput hu, hg, ?_⟩
        rw [hw]
        rfl

theorem writeFiles_eq_ok (h : writeFiles t output files = (u, .ok paths)) :
    Puts output t files u ∧ paths = files.map fun f => Path.join output f.name := by
  rcases writeFiles_cases t output files with ⟨v, hputs, hw⟩ | ⟨_, _, _, _, _, -, -, -, hw⟩
  · rw [h] at hw
    cases hw
    exact ⟨hputs, rfl⟩
  · rw [h] at hw
    cases hw

theorem writeAll_of_error {cause : IoError}
    (h : t.createDirectories output = (u, .error cause)) :
    writeAll t output files = (u, .error (.write output cause)) := by
  simp only [writeAll, h]

theorem writeAll_of_ok (h : t.createDirectories output = (u, .ok ())) :
    writeAll t output files = writeFiles u output files := by
  simp only [writeAll, h]

theorem writeAll_eq_ok (h : writeAll t output files = (u, .ok paths)) :
    ∃ made, t.createDirectories output = (made, .ok ()) ∧ Puts output made files u ∧
      paths = files.map fun f => Path.join output f.name := by
  rcases hc : t.createDirectories output with ⟨made, cause | _⟩
  · rw [writeAll_of_error hc] at h
    cases h
  · rw [writeAll_of_ok hc] at h
    exact ⟨made, rfl, writeFiles_eq_ok h⟩

end Run

section Generate

variable {t : FileTree} {options : GenerateOptions} {docs : DocSet} {log : List Notice}

theorem generate_of_error {e : Error} (h : scan t options.input = .error e) :
    generate t options = ⟨t, [], .error e⟩ := by
  simp only [generate, h]

theorem generate_of_isEmpty (h : scan t options.input = .ok ⟨docs, log⟩) (hd : docs.isEmpty) :
    generate t options = ⟨t, log, .error (.nothingToDocument options.input)⟩ := by
  simp only [generate, h, hd, if_true]

theorem generate_of_scan (h : scan t options.input = .ok ⟨docs, log⟩) (hd : ¬ docs.isEmpty) :
    (generate t options).tree = (writeAll t options.output (plan options.pages docs)).1 ∧
      (generate t options).result =
        (writeAll t options.output (plan options.pages docs)).2.map (⟨docs.keys, ·⟩) := by
  simp only [generate, h, if_neg hd]
  rcases writeAll t options.output (plan options.pages docs) with ⟨u, e | files⟩
  · exact ⟨rfl, rfl⟩
  · exact ⟨rfl, rfl⟩

theorem exists_of_generate_eq_ok {report : Report} (h : (generate t options).result = .ok report) :
    ∃ docs log files, scan t options.input = .ok ⟨docs, log⟩ ∧ report = ⟨docs.keys, files⟩ ∧
      writeAll t options.output (plan options.pages docs) =
        ((generate t options).tree, .ok files) := by
  cases hs : scan t options.input with
  | error e =>
    rw [generate_of_error hs] at h
    cases h
  | ok s =>
    obtain ⟨docs, log⟩ := s
    by_cases hd : docs.isEmpty
    · rw [generate_of_isEmpty hs hd] at h
      cases h
    · obtain ⟨htree, hresult⟩ := generate_of_scan hs hd
      rw [hresult] at h
      rcases hw : writeAll t options.output (plan options.pages docs) with ⟨u, e | files⟩
      · rw [hw] at h
        cases h
      · rw [hw] at h htree
        cases h
        exact ⟨docs, log, files, rfl, rfl, by rw [htree, hw]⟩

end Generate

/-- A tree with a script in the directory `in`, and with a link at the name of the index page to
the directory that the link stands in. -/
def sampleTree : FileTree :=
  ((FileTree.empty.put [] "in" .directory).put ["in"] "a.sh"
    (.file "# @doc\n# @/doc\n".toUTF8)).put [] "index.md" (.link ".")

end ShellDocs
