import ShellDocs.Proofs.Generate.Write
import ShellDocs.Proofs.Page.Plan
import ShellDocs.Proofs.Scan.Walk

/-! # What a success leaves behind

A run that succeeds has put every planned file, and nothing else, into the directory that its
output led to. The path of a file leads to it as long as the output still leads there. The last
of the files takes the place of a link at its name, and the output may have led through this
link.
-/

namespace ShellDocs

open Files Page

namespace Puts

variable {output : String} {t u : FileTree} {files init : List PlannedFile}
  {f last : PlannedFile} {dir : Location}

theorem slot_of_mem (h : Puts output t files u) (hn : ∀ f ∈ files, IsName f.name) (hf : f ∈ files) :
    ∃ dir, t.LeadsTo output dir ∧ t.slot (Path.join output f.name) = .ok (dir, f.name) := by
  induction h with
  | nil => cases hf
  | @cons t u d n g rest hs hput _ ih =>
    rcases List.mem_cons.mp hf with rfl | hf
    · obtain ⟨rfl, hl⟩ := FileTree.leadsTo_of_slot_join (hn f List.mem_cons_self) hs
      exact ⟨d, hl, hs⟩
    · have hk := t.keepsWays_of_put_file d n g.contents.toUTF8
      obtain ⟨dir, hl, hslot⟩ := ih (fun x hx => hn x (List.mem_cons_of_mem g hx)) hf
      exact ⟨dir, hk.leadsTo hl, hk.slot hslot⟩

def Into (output : String) (t : FileTree) (files : List PlannedFile) (dir : Location) : Prop :=
  ∀ f ∈ files, t.LeadsTo output dir ∧ t.slot (Path.join output f.name) = .ok (dir, f.name)

theorem exists_into (h : Puts output t files u) (hn : ∀ f ∈ files, IsName f.name) :
    ∃ dir, Into output t files dir := by
  cases files with
  | nil => exact ⟨[], fun f hf => by cases hf⟩
  | cons f rest =>
    obtain ⟨dir, hl, -⟩ := h.slot_of_mem hn List.mem_cons_self
    refine ⟨dir, fun g hg => ?_⟩
    obtain ⟨d, hd, hs⟩ := h.slot_of_mem hn hg
    rw [hl.unique hd]
    exact ⟨hd, hs⟩

theorem isTarget_iff (h : Into output t files dir) {loc : Location} :
    IsTarget output t files loc ↔ ∃ f ∈ files, loc = dir ++ [f.name] := by
  constructor
  · rintro ⟨f, hf, d, n, hs, rfl⟩
    rw [(h f hf).2] at hs
    cases hs
    exact ⟨f, hf, rfl⟩
  · rintro ⟨f, hf, rfl⟩
    exact ⟨f, hf, dir, f.name, (h f hf).2, rfl⟩

/-- What is put under a name stays until the end when no later file has this name. -/
theorem get?_of_mem (h : Puts output t files u) (hn : ∀ f ∈ files, IsName f.name)
    (hi : Into output t files dir) (hnd : (files.map (·.name)).Nodup) (hf : f ∈ files) :
    u.get? (dir ++ [f.name]) = some (.file f.contents.toUTF8) := by
  induction h with
  | nil => cases hf
  | @cons t u d n g rest hs hput hrest ih =>
    rw [List.map_cons, List.nodup_cons] at hnd
    have hk := t.keepsWays_of_put_file d n g.contents.toUTF8
    have hn' : ∀ x ∈ rest, IsName x.name := fun x hx => hn x (List.mem_cons_of_mem g hx)
    have hi' : Into output (t.put d n (.file g.contents.toUTF8)) rest dir := by
      intro x hx
      obtain ⟨e, hl, hslot⟩ := hrest.slot_of_mem hn' hx
      obtain rfl := (hk.leadsTo hl).unique (hi x (List.mem_cons_of_mem g hx)).1
      exact ⟨hl, hslot⟩
    rcases List.mem_cons.mp hf with rfl | hf
    · have hd : (d, n) = (dir, f.name) := by
        have := (hi f List.mem_cons_self).2
        rw [hs] at this
        exact Except.ok.inj this
      cases hd
      rw [hrest.get?_of_not_isTarget, FileTree.get?_put_self hput]
      rw [isTarget_iff hi']
      rintro ⟨x, hx, he⟩
      have hname : f.name = x.name := by simpa using he
      exact hnd.1 (hname ▸ List.mem_map_of_mem hx)
    · exact ih hn' hi' hnd.2 hf

theorem exists_of_append {later : List PlannedFile} (h : Puts output t (init ++ later) u) :
    ∃ v, Puts output t init v ∧ Puts output v later u := by
  induction init generalizing t with
  | nil => exact ⟨t, .nil, h⟩
  | cons g init ih =>
    cases h with
    | cons hs hput h =>
      obtain ⟨v, hi, hl⟩ := ih h
      exact ⟨v, .cons hs hput hi, hl⟩

/-- Only the last file can take away the way to the directory, by taking the place of a link. -/
theorem leadsTo_or_link (h : Puts output t (init ++ [last]) u)
    (hn : ∀ f ∈ init ++ [last], IsName f.name) (hi : Into output t (init ++ [last]) dir)
    (hnd : ((init ++ [last]).map (·.name)).Nodup) :
    u.LeadsTo output dir ∨ ∃ target, t.get? (dir ++ [last.name]) = some (.link target) := by
  have hlast : last ∈ init ++ [last] := List.mem_append_right init List.mem_cons_self
  obtain ⟨v, hinit, hv⟩ := h.exists_of_append
  obtain ⟨d, hl, hs⟩ := hv.slot_of_mem (by simpa using hn last hlast) List.mem_cons_self
  obtain rfl := (hinit.keepsWays.leadsTo hl).unique (hi last hlast).1
  by_cases hlink : ∃ target, v.get? (d ++ [last.name]) = some (.link target)
  · -- No file before the last has its name, so the link stood there from the beginning.
    right
    rwa [hinit.get?_of_not_isTarget] at hlink
    rw [isTarget_iff fun f hf => hi f (List.mem_append_left _ hf)]
    rintro ⟨f, hf, he⟩
    have hname : last.name = f.name := by simpa using he
    rw [List.map_append, List.nodup_append] at hnd
    exact hnd.2.2 _ (List.mem_map_of_mem hf) last.name (by simp) hname.symm
  · left
    cases hv with
    | @cons _ _ d' n _ _ hs' hput hnil =>
      rw [hs] at hs'
      cases hs'
      cases hnil
      exact (FileTree.keepsWays_put (fun target ht => hlink ⟨target, ht⟩) _).leadsTo hl

end Puts

/-- What a run that succeeds has found and left behind. The tree `made` is the one with the
output directory made, and `dir` is where the output leads in it. -/
structure Generated (t : FileTree) (options : GenerateOptions) (report : Report) (u : FileTree)
    (docs : DocSet) (made : FileTree) (dir : Location) : Prop where
  scripts : report.scripts = docs.keys
  scripts_ascending : report.scripts.Pairwise (· < ·)
  files : report.files =
    (plan options.pages docs).map fun f => Path.join options.output f.name
  files_nodup : report.files.Nodup
  created : t.createDirectories options.output = (made, .ok ())
  leadsTo : made.LeadsTo options.output dir
  held : ∀ f ∈ plan options.pages docs,
    u.get? (dir ++ [f.name]) = some (.file f.contents.toUTF8)
  found : u.LeadsTo options.output dir → ∀ f ∈ plan options.pages docs,
    u.resolve (Path.join options.output f.name) =
      .ok (.file (dir ++ [f.name]) f.contents.toUTF8)
  leadsTo_or_link : u.LeadsTo options.output dir ∨
    ∃ target, t.get? (dir ++ [indexFile]) = some (.link target)
  frame : ∀ loc, (∀ f ∈ plan options.pages docs, loc ≠ dir ++ [f.name]) →
    u.get? loc = t.get? loc ∨
      t.MadeOnWay made options.output loc ∧ u.get? loc = some .directory
  cwd : u.cwd = t.cwd

section Success

variable {t : FileTree} {options : GenerateOptions} {report : Report}

theorem nodup_paths (output : String) (pages : Page.Options) (docs : DocSet) :
    ((plan pages docs).map fun f => Path.join output f.name).Nodup := by
  have hn := nodup_plan pages docs
  rw [List.Nodup, List.pairwise_map] at hn ⊢
  refine hn.imp_of_mem fun {f g} hf hg hne he => hne ?_
  exact Path.join_injective output (isName_of_mem_plan hf) (isName_of_mem_plan hg) he

/-- A run that succeeds leaves the planned files and nothing else. -/
theorem generated_of_eq_ok (h : (generate t options).result = .ok report) :
    ∃ docs log made dir, scan t options.input = .ok ⟨docs, log⟩ ∧
      Generated t options report (generate t options).tree docs made dir := by
  obtain ⟨docs, log, files, hs, rfl, hw⟩ := exists_of_generate_eq_ok h
  obtain ⟨made, hmade, hputs, rfl⟩ := writeAll_eq_ok hw
  have hname : ∀ f ∈ plan options.pages docs, IsName f.name := fun f => isName_of_mem_plan
  have hnd := nodup_plan options.pages docs
  obtain ⟨init, hplan⟩ := exists_plan_eq options.pages docs
  obtain ⟨dir, hinto⟩ := hputs.exists_into hname
  have hheld : ∀ f ∈ plan options.pages docs,
      (generate t options).tree.get? (dir ++ [f.name]) = some (.file f.contents.toUTF8) :=
    fun f => hputs.get?_of_mem hname hinto hnd
  have hgrows : t.Grows made options.output := by
    have := t.createDirectories_grows options.output
    rwa [hmade] at this
  refine ⟨docs, log, made, dir, hs, ?_⟩
  constructor
  case scripts => rfl
  case scripts_ascending => exact docs.keys_ascending
  case files => rfl
  case files_nodup => exact nodup_paths options.output options.pages docs
  case created => exact hmade
  case leadsTo => exact (hinto _ (hplan ▸ List.mem_append_right init List.mem_cons_self)).1
  case held => exact hheld
  case found =>
    intro hl f hf
    obtain ⟨hc, ⟨-, hdot, -⟩ | ⟨front, -, -, hlen⟩⟩ := FileTree.slot_cases (hinto f hf).2
    · exact absurd hdot (hname f hf).2.1
    · exact FileTree.resolve_join (hname f hf) hl hc hlen (hheld f hf)
  case leadsTo_or_link =>
    rw [hplan] at hputs hname hinto hnd
    refine (hputs.leadsTo_or_link hname hinto hnd).imp_right ?_
    rintro ⟨target, ht⟩
    exact ⟨target, (hgrows.get?_eq_some_iff (by simp)).mp ht⟩
  case frame =>
    intro loc hloc
    have hu : (generate t options).tree.get? loc = made.get? loc := by
      refine hputs.get?_of_not_isTarget ?_
      rw [Puts.isTarget_iff hinto]
      rintro ⟨f, hf, he⟩
      exact hloc f hf he
    rcases hgrows.get? loc with he | hm
    · exact .inl (hu.trans he)
    · exact .inr ⟨hm, hu.trans hm.made⟩
  case cwd => exact hputs.cwd_eq.trans hgrows.cwd

end Success

section Sample

def sampleDocs : DocSet :=
  OrderedMap.ofList [("a.sh", OrderedMap.ofList [("file_path", "in/a.sh")])]

variable {t : FileTree}

theorem scan_of_children (hroot : t.resolve "in" = .ok (.directory ["in"]))
    (hchildren : t.children ["in"] = [("a.sh", .file "# @doc\n# @/doc\n".toUTF8)])
    (hread : t.readBytes "in/a.sh" = .ok "# @doc\n# @/doc\n".toUTF8) :
    scan t "in" = .ok ⟨sampleDocs, [.documented "a.sh"]⟩ := by
  have hfind : finding? t "in" (.file "in/a.sh") =
      some (.documented ("a.sh", OrderedMap.ofList [("file_path", "in/a.sh")])) := by
    rw [finding?, readScript, hread]
    rfl
  have hfindings : findings t "in" ["in"] =
      [.documented ("a.sh", OrderedMap.ofList [("file_path", "in/a.sh")])] := by
    rw [findings, walk_eq, hchildren]
    exact congrArg Option.toList hfind
  simp only [scan, hroot, hfindings]
  rfl

theorem scan_sampleTree : scan sampleTree "in" = .ok ⟨sampleDocs, [.documented "a.sh"]⟩ :=
  scan_of_children (by rfl) (by decide +kernel) (by rfl)

theorem result_of_scan {log : List Notice} {output : String} {paths : List String}
    (hs : scan t "in" = .ok ⟨sampleDocs, log⟩)
    (h : (writeAll t output (plan {} sampleDocs)).2 = .ok paths) :
    (generate t ⟨"in", output, {}⟩).result = .ok ⟨["a.sh"], paths⟩ := by
  have hs : scan t (GenerateOptions.mk "in" output {}).input = .ok ⟨sampleDocs, log⟩ := hs
  rw [(generate_of_scan hs (by decide)).2, h]
  rfl

theorem result_sampleTree {output : String} {paths : List String}
    (h : (writeAll sampleTree output (plan {} sampleDocs)).2 = .ok paths) :
    (generate sampleTree ⟨"in", output, {}⟩).result = .ok ⟨["a.sh"], paths⟩ :=
  result_of_scan scan_sampleTree h

theorem generated_sampleTree :
    ∃ docs log made dir, scan sampleTree "in" = .ok ⟨docs, log⟩ ∧
      Generated sampleTree ⟨"in", "out", {}⟩
        ⟨["a.sh"], ["out/root.md", "out/mkdocs_nav.yml", "out/components.md", "out/index.md"]⟩
        (generate sampleTree ⟨"in", "out", {}⟩).tree docs made dir :=
  generated_of_eq_ok (result_sampleTree (by decide +kernel))

/-- A file that was written need not be found under its path afterwards: the index page takes the
place of a link that the output leads through. -/
theorem not_forall_isFileAt :
    ¬ ∀ (t : FileTree) (options : GenerateOptions) (report : Report),
      (generate t options).result = .ok report →
        ∀ path ∈ report.files, (generate t options).tree.isFileAt path = true := by
  intro h
  have hresult : (generate sampleTree ⟨"in", "index.md", {}⟩).result = .ok ⟨["a.sh"],
      ["index.md/root.md", "index.md/mkdocs_nav.yml", "index.md/components.md",
        "index.md/index.md"]⟩ := result_sampleTree (by decide +kernel)
  have hfile := h sampleTree _ _ hresult "index.md/root.md" (by simp)
  rw [(generate_of_scan scan_sampleTree (by decide)).1] at hfile
  have hlost : (writeAll sampleTree "index.md" (plan {} sampleDocs)).1.isFileAt
      "index.md/root.md" = false := by decide +kernel
  rw [hlost] at hfile
  cases hfile

end Sample

end ShellDocs
