import ShellDocs.Proofs.Generate.Completion
import ShellDocs.Proofs.Page.Shown
import ShellDocs.Proofs.Scan.Collect

/-! # Runs over the same scripts

What a run writes depends on the scripts below its root, on their names there and their contents.
Neither the place of the root nor its spelling comes into any file.
-/

namespace ShellDocs

open Files Page

variable {t t' : FileTree} {root root' : String} {trail : List String} {bytes : ByteArray}
  {docs docs' : DocSet} {options : GenerateOptions}

section Scripts

/-- A script with these contents can be read at the end of a trail. -/
structure ReadsScript (t : FileTree) (root : String) (trail : List String) (bytes : ByteArray) :
    Prop where
  walks : WalksToFile t root trail bytes
  isScript : IsScriptTrail trail
  reads : t.readBytes (Path.below root trail) = .ok bytes

/-- The same scripts lie below two roots, which may stand in different trees. -/
def SameScripts (t : FileTree) (root : String) (t' : FileTree) (root' : String) : Prop :=
  ∀ trail bytes, ReadsScript t root trail bytes ↔ ReadsScript t' root' trail bytes

theorem SameScripts.symm (h : SameScripts t root t' root') : SameScripts t' root' t root :=
  fun trail bytes => (h trail bytes).symm

/-- The scripts that a scan documents, none if there is no directory to scan. -/
def documents (t : FileTree) (root : String) : DocSet :=
  match scan t root with
  | .ok s => s.docs
  | .error _ => ∅

theorem exists_scan_eq (hroot : ∃ loc, t.resolve root = .ok (.directory loc)) :
    ∃ log, scan t root = .ok ⟨documents t root, log⟩ := by
  obtain ⟨loc, hroot⟩ := hroot
  rw [documents, scan, hroot]
  exact ⟨_, rfl⟩

theorem scan_of_not_directory (hroot : ¬ ∃ loc, t.resolve root = .ok (.directory loc)) :
    scan t root = .error (.inputNotFound root) := by
  unfold scan
  split
  · exact absurd ⟨_, ‹_›⟩ hroot
  · rfl

theorem exists_root_of_scan {s : Scan} (h : scan t root = .ok s) :
    ∃ loc, t.resolve root = .ok (.directory loc) := by
  by_contra hroot
  rw [scan_of_not_directory hroot] at h
  cases h

theorem resolve_root_of_walks {dir : Location} {above : List Location}
    (h : Walks t root trail dir above) : ∃ loc, t.resolve root = .ok (.directory loc) := by
  induction h with
  | start hr => exact ⟨_, hr⟩
  | enter _ _ ih => exact ih

theorem get?_documents_iff {k : String} {fields : Fields} :
    (documents t root).get? k = some fields ↔
      ∃ trail bytes text source, ReadsScript t root trail bytes ∧
        String.fromUTF8? bytes = some text ∧ Block.read? text = some source ∧
        k = trailKey trail ∧ fields = source.insert Fields.pathName (Path.join root k) := by
  by_cases h : ∃ loc, t.resolve root = .ok (.directory loc)
  · obtain ⟨loc, hroot⟩ := h
    rw [documents, scan, hroot]
    refine ((scanned_findings hroot).get?_iff k fields).trans ?_
    constructor
    · rintro ⟨trail, loc, bytes, text, source, hw, hs, hr, ht, hb, hk, hf⟩
      have hread := FileTree.readBytes_eq_ok_iff.mpr ⟨loc, hr⟩
      exact ⟨trail, bytes, text, source, ⟨hw, hs, hread⟩, ht, hb, hk, hf⟩
    · rintro ⟨trail, bytes, text, source, ⟨hw, hs, hr⟩, ht, hb, hk, hf⟩
      obtain ⟨loc, hr⟩ := FileTree.readBytes_eq_ok_iff.mp hr
      exact ⟨trail, loc, bytes, text, source, hw, hs, hr, ht, hb, hk, hf⟩
  · rw [documents, scan_of_not_directory h]
    constructor
    · rintro ⟨⟩
    · rintro ⟨_, _, _, _, ⟨⟨hw, -⟩, -, -⟩, -⟩
      exact absurd (resolve_root_of_walks hw) h

theorem showsAlike_insert_pathName (source : Fields) (path path' : String) :
    Fields.ShowsAlike (source.insert Fields.pathName path)
      (source.insert Fields.pathName path') := by
  have hv : ∀ name ≠ Fields.pathName,
      Fields.value? (source.insert Fields.pathName path) name =
        Fields.value? (source.insert Fields.pathName path') name := by
    intro name hn
    rw [Fields.value?_insert_of_ne hn, Fields.value?_insert_of_ne hn]
  constructor
  · intro name hn
    refine hv name ?_
    rintro rfl
    revert hn
    decide
  · rw [Fields.category, Fields.category, hv "category" (by decide)]

theorem exists_showsAlike (h : SameScripts t root t' root') {k : String} {fields : Fields}
    (hk : (documents t root).get? k = some fields) :
    ∃ fields', (documents t' root').get? k = some fields' ∧ fields.ShowsAlike fields' := by
  obtain ⟨trail, bytes, text, source, hr, ht, hb, rfl, rfl⟩ := get?_documents_iff.mp hk
  refine ⟨source.insert Fields.pathName (Path.join root' (trailKey trail)), ?_, ?_⟩
  · exact get?_documents_iff.mpr
      ⟨trail, bytes, text, source, (h trail bytes).mp hr, ht, hb, rfl, rfl⟩
  · exact showsAlike_insert_pathName source _ _

theorem SameScripts.showsAlike (h : SameScripts t root t' root') :
    (documents t root).ShowsAlike (documents t' root') := by
  intro k
  cases hk : (documents t root).get? k with
  | some fields =>
    obtain ⟨fields', hk', hf⟩ := exists_showsAlike h hk
    rw [hk']
    exact .some hf
  | none =>
    cases hk' : (documents t' root').get? k with
    | none => exact .none
    | some fields' =>
      obtain ⟨fields, hsome, -⟩ := exists_showsAlike h.symm hk'
      rw [hk] at hsome
      cases hsome

end Scripts

section Runs

structure WritesNothing (t : FileTree) (options : GenerateOptions) : Prop where
  tree : (generate t options).tree = t
  result : (generate t options).result = .error (.inputNotFound options.input) ∨
    (generate t options).result = .error (.nothingToDocument options.input)

/-- The run reports these scripts and writes these files. Each of them is there if it succeeds. -/
structure Writes (t : FileTree) (options : GenerateOptions) (scripts : List String)
    (files : List PlannedFile) : Prop where
  tree : (generate t options).tree = (writeAll t options.output files).1
  result : (generate t options).result =
    (writeAll t options.output files).2.map fun paths => ⟨scripts, paths⟩
  held : ∀ report, (generate t options).result = .ok report →
    report.files = files.map (fun f => Path.join options.output f.name) ∧
      ∃ made dir, t.createDirectories options.output = (made, .ok ()) ∧
        made.LeadsTo options.output dir ∧
        ∀ f ∈ files, (generate t options).tree.get? (dir ++ [f.name]) =
          some (.file f.contents.toUTF8)

theorem writesNothing_of_isEmpty (h : (documents t options.input).isEmpty) :
    WritesNothing t options := by
  rw [documents] at h
  cases hs : scan t options.input with
  | error e =>
    have hroot : ¬ ∃ loc, t.resolve options.input = .ok (.directory loc) := by
      intro hroot
      obtain ⟨log, hok⟩ := exists_scan_eq hroot
      rw [hok] at hs
      cases hs
    have hs := scan_of_not_directory hroot
    constructor
    · rw [generate_of_error hs]
    · exact .inl (by rw [generate_of_error hs])
  | ok s =>
    rw [hs] at h
    constructor
    · rw [generate_of_isEmpty hs h]
    · exact .inr (by rw [generate_of_isEmpty hs h])

theorem writes_of_not_isEmpty (h : ¬ (documents t options.input).isEmpty) :
    Writes t options (documents t options.input).keys
      (plan options.pages (documents t options.input)) := by
  obtain ⟨log, hs⟩ : ∃ log, scan t options.input = .ok ⟨documents t options.input, log⟩ := by
    rw [documents] at h ⊢
    cases hs : scan t options.input with
    | error e =>
      rw [hs] at h
      exact absurd rfl h
    | ok s => exact ⟨s.log, rfl⟩
  generalize documents t options.input = docs at h hs
  obtain ⟨htree, hresult⟩ := generate_of_scan hs h
  refine ⟨htree, hresult, ?_⟩
  intro report hok
  obtain ⟨docs', log', made, dir, hs', rfl, hc⟩ := exists_completes hok
  obtain rfl : docs = docs' := by
    rw [hs] at hs'
    cases hs'
    rfl
  exact ⟨rfl, made, dir, hc.created, hc.leadsTo, fun f hf => hc.held hf⟩

end Runs

/-- What is written depends on nothing but the shown fields of the scripts. Sets of scripts that
agree on these give the same files and notices, with or without anything else. Two runs whose
roots hold the same scripts both write nothing, or both write the same files. -/
theorem sameFiles_of_showsAlike :
    (∀ (options : Page.Options) (docs docs' : DocSet), docs.ShowsAlike docs' →
      plan options docs = plan options docs' ∧ planNotices docs = planNotices docs') ∧
    (∀ (options : Page.Options) (docs : DocSet),
      plan options (docs.mapFields Fields.shown) = plan options docs ∧
        planNotices (docs.mapFields Fields.shown) = planNotices docs) ∧
    ∀ (t t' : FileTree) (options options' : GenerateOptions),
      SameScripts t options.input t' options'.input → options.pages = options'.pages →
      WritesNothing t options ∧ WritesNothing t' options' ∨
        ∃ scripts files, Writes t options scripts files ∧ Writes t' options' scripts files := by
  refine ⟨?_, ?_, ?_⟩
  · intro options docs docs' h
    exact ⟨plan_eq_of_showsAlike h options, planNotices_eq_of_showsAlike h⟩
  · intro options docs
    exact ⟨plan_mapFields Fields.showsAlike_shown docs options, planNotices_mapFields _ docs⟩
  · intro t t' options options' hsame hpages
    have halike := hsame.showsAlike
    have hkeys := halike.keys_eq
    by_cases hd : (documents t options.input).isEmpty
    · have hd' : (documents t' options'.input).isEmpty := by
        rwa [← halike.isEmpty_eq]
      exact .inl ⟨writesNothing_of_isEmpty hd, writesNothing_of_isEmpty hd'⟩
    · have hd' : ¬ (documents t' options'.input).isEmpty := by
        rwa [← halike.isEmpty_eq]
      have hw := writes_of_not_isEmpty hd
      rw [plan_eq_of_showsAlike halike, hpages, hkeys] at hw
      exact .inr ⟨_, _, hw, writes_of_not_isEmpty hd'⟩

section Sample

/-- The script of the sample tree as it is found from elsewhere, with fields that are not shown. -/
def sampleDocsAgain : DocSet :=
  OrderedMap.ofList [("a.sh", OrderedMap.ofList
    [("file_path", "/home/in/a.sh"), ("colour", "red"), ("usage", ""), ("category", "")])]

theorem showsAlike_sampleDocs : sampleDocs.ShowsAlike sampleDocsAgain := by
  intro path
  rw [sampleDocs, sampleDocsAgain, OrderedMap.get?_ofList, OrderedMap.get?_ofList]
  by_cases hp : path = "a.sh"
  · subst hp
    refine .some ⟨?_, ?_⟩
    · decide +kernel
    · decide +kernel
  · have hb : (path == "a.sh") = false := by simpa using hp
    simp only [List.reverse_singleton, List.lookup_cons, hb, List.lookup_nil]
    exact .none

/-- The sample tree has one script, however its directory is spelled. -/
theorem readsScript_sampleTree_iff (hroot : sampleTree.resolve root = .ok (.directory ["in"]))
    (hread : sampleTree.readBytes (Path.join root "a.sh") = .ok "# @doc\n# @/doc\n".toUTF8) :
    ReadsScript sampleTree root trail bytes ↔
      trail = ["a.sh"] ∧ bytes = "# @doc\n# @/doc\n".toUTF8 := by
  have hchildren : sampleTree.children ["in"] =
      [("a.sh", .file "# @doc\n# @/doc\n".toUTF8)] := by decide +kernel
  have hwalk : walk sampleTree [(["in"], root)] ["in"] root =
      [.file (Path.below root ["a.sh"])] := by
    rw [walk_eq, hchildren]
    rfl
  have htrail : ∀ {trail bytes}, WalksToFile sampleTree root trail bytes → trail = ["a.sh"] := by
    intro trail bytes hw
    have hm := (mem_walk_root_iff hroot).mpr ⟨trail, bytes, hw, rfl⟩
    have hbelow : Path.below root trail = Path.below root ["a.sh"] := by simpa [hwalk] using hm
    rw [← Path.namesBelow_below hw.isName, hbelow, Path.namesBelow_below (by decide)]
  constructor
  · rintro ⟨hw, -, hr⟩
    obtain rfl := htrail hw
    have heq : Except.ok bytes = Except.ok _ := hr.symm.trans hread
    exact ⟨rfl, Except.ok.inj heq⟩
  · rintro ⟨rfl, rfl⟩
    obtain ⟨trail, bytes, hw, -⟩ := (mem_walk_root_iff hroot).mp
      (hwalk ▸ List.mem_singleton_self (Found.file (Path.below root ["a.sh"])))
    obtain rfl := htrail hw
    obtain ⟨loc, hr⟩ := FileTree.readBytes_eq_ok_iff.mp hread
    obtain rfl := hw.eq_of_resolve hr
    exact ⟨hw, ⟨[], "a", by decide, rfl⟩, hread⟩

theorem sameFiles_sampleTree :
    (sampleDocs.ShowsAlike sampleDocsAgain ∧ plan {} sampleDocs = plan {} sampleDocsAgain) ∧
      SameScripts sampleTree "in" sampleTree "./in" ∧
      (WritesNothing sampleTree ⟨"in", "out", {}⟩ ∧
          WritesNothing sampleTree ⟨"./in", "", {}⟩ ∨
        ∃ scripts files, Writes sampleTree ⟨"in", "out", {}⟩ scripts files ∧
          Writes sampleTree ⟨"./in", "", {}⟩ scripts files) := by
  have hsame : SameScripts sampleTree "in" sampleTree "./in" := by
    intro trail bytes
    rw [readsScript_sampleTree_iff (by rfl) (by rfl), readsScript_sampleTree_iff (by rfl) (by rfl)]
  have h := sameFiles_of_showsAlike
  refine ⟨⟨showsAlike_sampleDocs, ?_⟩, hsame, ?_⟩
  · exact (h.1 {} _ _ showsAlike_sampleDocs).1
  · exact h.2.2 sampleTree sampleTree ⟨"in", "out", {}⟩ ⟨"./in", "", {}⟩ hsame rfl

end Sample

end ShellDocs
