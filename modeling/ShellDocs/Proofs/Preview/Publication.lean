import ShellDocs.Proofs.Generate.Completion
import ShellDocs.Proofs.Preview.Confinement
import ShellDocs.Proofs.Preview.Target

/-! # What is written is served

A planned file is asked for by its name, unless there is a character in it that no path of a request
may have, or a backslash. After a run that succeeds, a site at the output answers such a request
from the file that was written.
-/

namespace ShellDocs.Preview

open Files Page

section Names

variable {name : String} {options : Page.Options} {docs : DocSet} {f : PlannedFile}

/-- A name with a dot in it stands for itself, unless a backslash stands in it. -/
theorem pageName?_slash_append (hn : IsName name) (hd : '.' ∈ name.toList) :
    pageName? ("/" ++ name) = if '\\' ∈ name.toList then none else some name := by
  have htrim : trimSlashes ("/" ++ name).toList = name.toList := by
    have hl : ("/" ++ name).toList = '/' :: name.toList := String.toList_append
    rw [hl, trimSlashes_cons_slash]
    refine trimSlashes_of_ne ?_ ?_
    · exact fun hh => hn.2.2.2 (List.mem_of_head? hh)
    · exact fun hl => hn.2.2.2 (List.mem_of_getLast? hl)
  have hne : name.toList ≠ [] := by simpa using hn.1
  have hhop : isHop name.toList = false := by
    refine not_isHop_iff.mpr ⟨hne, ?_, ?_⟩
    · exact fun he => hn.2.1 (String.toList_injective he)
    · exact fun he => hn.2.2.1 (String.toList_injective he)
  simp only [pageName?, htrim, hne, Text.splitOn_of_not_mem hn.2.2.2, List.any_cons, List.any_nil,
    hhop, Bool.or_false, Bool.false_eq_true, or_false, if_false, List.getLastD_cons,
    List.getLastD_nil, hd, if_true, String.ofList_toList]

theorem dot_mem_of_mem_plan (h : f ∈ plan options docs) : '.' ∈ f.name.toList := by
  rcases name_cases_of_mem_plan h with ⟨group, -, he⟩ | hm
  · rw [he, groupFile, String.toList_append]
    exact List.mem_append_right _ (by decide)
  · have hfixed : ∀ n ∈ [navigationFile, componentsFile, indexFile], '.' ∈ n.toList := by decide
    exact hfixed _ hm

theorem isCaseless_of_not_isPlain {c : Char} (h : ¬ IsPlain c) : Text.IsCaseless c := by
  by_cases hm : c ∈ ['#', '<', '>', '?', '`']
  · have hmarks : ∀ d ∈ ['#', '<', '>', '?', '`'], Text.IsCaseless d :=
      List.all_iff_forall_prop.mp (by decide)
    exact hmarks c hm
  · refine Classical.byContradiction fun hc => h ⟨?_, ?_, hm⟩
    all_goals
      unfold Text.IsCaseless at hc
      omega

/-- Where a planned file cannot be asked for, this is because of the directory of a group. -/
theorem exists_group_of_mem {c : Char} (h : f ∈ plan options docs) (hm : c ∈ f.name.toList)
    (hc : ¬ IsPlain c ∨ c = '\\') :
    ∃ group ∈ (groups docs).keys, f.name = groupFile group ∧ c ∈ group.toList := by
  have hcaseless : Text.IsCaseless c := by
    rcases hc with hc | rfl
    · exact isCaseless_of_not_isPlain hc
    · decide
  have hfixed : ∀ n ∈ [".md", navigationFile, componentsFile, indexFile],
      n.toList.all fun c => IsPlain c ∧ c ≠ '\\' := by decide
  have hne : ∀ n ∈ [".md", navigationFile, componentsFile, indexFile], c ∉ n.toList := by
    intro n hn hm
    obtain ⟨hp, hb⟩ := List.all_iff_forall_prop.mp (hfixed n hn) c hm
    exact hc.elim (· hp) hb
  rcases name_cases_of_mem_plan h with ⟨group, hg, he⟩ | hn
  · refine ⟨group, hg, he, (Text.mem_lower_iff hcaseless).mp ?_⟩
    rw [he, groupFile, String.toList_append] at hm
    exact (List.mem_append.mp hm).resolve_right (hne ".md" (by simp))
  · exact absurd hm (hne _ (List.mem_cons_of_mem _ hn))

end Names

section Answers

variable {t : FileTree} {options : GenerateOptions} {docs : DocSet} {f : PlannedFile}
  {made : FileTree} {dir : Location}

theorem decodeLossy_toUTF8 (text : String) : Text.decodeLossy text.toUTF8 = text := by
  have hvalid : String.fromUTF8? text.toUTF8 = some text := by
    rw [String.fromUTF8?, dif_pos (show text.toUTF8.IsValidUTF8 from text.isValidUTF8)]
    rfl
  rw [Text.decodeLossy, hvalid, Option.getD_some]

/-- What a reader is sent of a planned file. -/
def sent (title : String) (f : PlannedFile) : Response :=
  if Site.isPage f.name then .page (renderPage title f.contents)
  else .file f.name f.contents.toUTF8

theorem answerFor_toUTF8 (title : String) (f : PlannedFile) :
    answerFor title f.name true (.ok f.contents.toUTF8) = sent title f := by
  simp only [answerFor, if_true, decodeLossy_toUTF8, sent]

theorem status_sent (title : String) (f : PlannedFile) : (sent title f).status = 200 := by
  unfold sent
  split <;> rfl

theorem respond_get (site : Site) (t : FileTree) (rest : String) :
    site.respond t .get ("/" ++ rest) = site.getBetween t t ("/" ++ rest) := by
  rw [Site.respond, if_neg (by simp), Site.getBetween_self]

/-- What a site sends of the files that were written, when it leads to where they are. -/
structure Serves (site : Site) (u : FileTree) (options : Page.Options) (docs : DocSet) :
    Prop where
  /-- The name of a file is the target of a request for it, if the name is plain, and only then. -/
  named_iff : ∀ f ∈ plan options docs,
    targetPath? ("/" ++ f.name) = some ("/" ++ f.name) ↔ ∀ c ∈ f.name.toList, IsPlain c
  file : ∀ f ∈ plan options docs, ∀ target, targetPath? target = some ("/" ++ f.name) →
    site.request? u .get target = some (if '\\' ∈ f.name.toList then .noPage else sent site.title f)
  served : ∀ f ∈ plan options docs, (∀ c ∈ f.name.toList, IsPlain c ∧ c ≠ '\\') →
    site.request? u .get ("/" ++ f.name) = some (sent site.title f) ∧
      (sent site.title f).status = 200
  home : site.request? u .get "/" =
    some (.page (renderPage site.title (render (index options docs))))

theorem get_of_resolve {site : Site} {u : FileTree} {path : String} {loc : Location}
    (hp : pageName? path = some f.name)
    (hr : u.resolve (site.path f.name) = .ok (.file loc f.contents.toUTF8)) :
    site.getBetween u u path = sent site.title f := by
  have hfile : u.isFileAt (site.path f.name) = true := FileTree.isFileAt_iff.mpr ⟨_, _, hr⟩
  have hread : u.readBytes (site.path f.name) = .ok f.contents.toUTF8 :=
    FileTree.readBytes_eq_ok_iff.mpr ⟨_, hr⟩
  rw [getBetween_eq_answerFor site hp, hfile, hread, answerFor_toUTF8]

theorem respond_name {site : Site} {u : FileTree} {loc : Location} (hn : IsName f.name)
    (hd : '.' ∈ f.name.toList)
    (hr : u.resolve (site.path f.name) = .ok (.file loc f.contents.toUTF8)) :
    site.respond u .get ("/" ++ f.name) =
      if '\\' ∈ f.name.toList then .noPage else sent site.title f := by
  have hp := pageName?_slash_append hn hd
  rw [respond_get]
  split at hp
  · rename_i hb
    rw [if_pos hb, getBetween_of_none _ hp]
  · rename_i hb
    rw [if_neg hb, get_of_resolve hp hr]

theorem respond_home {site : Site} {u : FileTree} {loc : Location} {text : String}
    (hr : u.resolve (site.path indexFile) = .ok (.file loc text.toUTF8)) :
    site.respond u .get "/" = .page (renderPage site.title text) := by
  have hp : pageName? ("/" ++ "") = some indexFile := by decide
  have hpage : Site.isPage indexFile = true := by decide
  have hg := get_of_resolve (f := ⟨indexFile, text⟩) hp hr
  rw [show "/" = "/" ++ "" by rfl, respond_get, hg, sent, if_pos hpage]

theorem targetPath?_name (h : Completes t options docs made dir) (hf : f ∈ plan options.pages docs)
    (hp : ∀ c ∈ f.name.toList, IsPlain c) : targetPath? ("/" ++ f.name) = some ("/" ++ f.name) := by
  have hlen := (h.checked hf).2
  refine targetPath?_slash_append hp ?_
  rw [String.utf8ByteSize_append, show "/".utf8ByteSize = 1 by decide]
  unfold maxName at hlen
  unfold maxTarget
  omega

theorem serves_of_leadsTo (h : Completes t options docs made dir)
    (hl : (generate t options).tree.LeadsTo options.output dir) (title : String) :
    Serves ⟨options.output, title⟩ (generate t options).tree options.pages docs := by
  have hfile : ∀ f ∈ plan options.pages docs, ∀ target,
      targetPath? target = some ("/" ++ f.name) →
        Site.request? ⟨options.output, title⟩ (generate t options).tree .get target =
          some (if '\\' ∈ f.name.toList then .noPage else sent title f) := by
    intro f hf target ht
    have hanswer : Site.respond ⟨options.output, title⟩ (generate t options).tree .get
        ("/" ++ f.name) = if '\\' ∈ f.name.toList then .noPage else sent title f :=
      respond_name (isName_of_mem_plan hf) (dot_mem_of_mem_plan hf) (h.resolve hl hf)
    rw [Site.request?, ht, Option.map_some, hanswer]
  constructor
  case named_iff =>
    intro f hf
    exact ⟨isPlain_of_targetPath?_slash, targetPath?_name h hf⟩
  case file => exact hfile
  case served =>
    intro f hf hp
    have hb : '\\' ∉ f.name.toList := fun hm => (hp _ hm).2 rfl
    have hanswer := hfile f hf _ (targetPath?_name h hf fun c hc => (hp c hc).1)
    rw [if_neg hb] at hanswer
    exact ⟨hanswer, status_sent title f⟩
  case home =>
    have htarget : targetPath? ("/" ++ "") = some ("/" ++ "") :=
      targetPath?_slash_append (by simp) (by decide)
    rw [String.append_empty] at htarget
    obtain ⟨init, hplan⟩ := exists_plan_eq options.pages docs
    have hr := h.resolve hl (hplan ▸ List.mem_append_right init List.mem_cons_self)
    have hanswer : Site.respond ⟨options.output, title⟩ (generate t options).tree .get "/" = _ :=
      respond_home hr
    rw [Site.request?, htarget, Option.map_some, hanswer]

def backslashDocs : DocSet := OrderedMap.ofList [("a\\b/c.sh", ∅)]

theorem mem_plan_backslashDocs : ∃ contents, ⟨"a\\b.md", contents⟩ ∈ plan {} backslashDocs :=
  ⟨_, List.mem_cons_self⟩

end Answers

end ShellDocs.Preview
