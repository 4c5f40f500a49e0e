import Mathlib.Data.List.Nodup
import ShellDocs.Preview.Server
import ShellDocs.Proofs.Generate.Success
import ShellDocs.Proofs.Generate.Writer

/-! # Requests during a run of writes

While files are written into the directory of a site, requests go on being answered, each in its two
steps. A file that stood there is seen with its old contents up to some moment and with its new
contents from then on, for as long as the site leads to the directory.
-/

namespace ShellDocs

open Files Page

namespace Preview

/-- A run of writes into the directory of a site and the requests to this site. -/
structure Traffic where
  tree : FileTree
  writer : Writer
  /-- The requests whose file was looked for, each with the tree at that moment. -/
  waiting : List (String × FileTree)
  answers : List (String × Response)

namespace Traffic

inductive Act where
  /-- The writer takes a step. If it writes contents, the piece has so many bytes. -/
  | write (n : Nat)
  | look (path : String)
  /-- One of the waiting requests has its file read and is answered. -/
  | read (i : Nat)

def start (t : FileTree) (files : List PlannedFile) : Traffic := ⟨t, .begun files, [], []⟩

def act (site : Site) (s : Traffic) : Act → Traffic
  | .write n =>
    let next := s.writer.step site.directory n s.tree
    { s with tree := next.1, writer := next.2 }
  | .look path => { s with waiting := s.waiting ++ [(path, s.tree)] }
  | .read i =>
    match s.waiting[i]? with
    | none => s
    | some request =>
      { s with
        waiting := s.waiting.eraseIdx i
        answers := s.answers ++ [(request.1, site.getBetween request.2 s.tree request.1)] }

def run (site : Site) (acts : List Act) (s : Traffic) : Traffic := acts.foldl (act site) s

theorem act_read_of_some {site : Site} {s : Traffic} {i : Nat} {request : String × FileTree}
    (hi : s.waiting[i]? = some request) :
    s.act site (.read i) =
      { s with
        waiting := s.waiting.eraseIdx i
        answers := s.answers ++ [(request.1, site.getBetween request.2 s.tree request.1)] } := by
  simp only [act, hi]

theorem act_read_of_none {site : Site} {s : Traffic} {i : Nat} (hi : s.waiting[i]? = none) :
    s.act site (.read i) = s := by
  simp only [act, hi]

theorem run_concat (site : Site) (s : Traffic) (acts : List Act) (a : Act) :
    s.run site (acts ++ [a]) = (s.run site acts).act site a :=
  List.foldl_concat ..

def answersTo (s : Traffic) (name : String) : List Response :=
  (s.answers.filter fun a => pageName? a.1 = some name).map (·.2)

variable {site : Site} {t base base' : FileTree} {files : List PlannedFile} {f : PlannedFile}
  {dir : Location} {old c : ByteArray} {w : Writer} {s : Traffic}

/-- The file `f` is one of those to be written, which have names of their own. Before that it stands
with some contents in the directory that the site leads to, and the site finds it. -/
structure Stands (site : Site) (t : FileTree) (files : List PlannedFile) (f : PlannedFile)
    (dir : Location) (old : ByteArray) : Prop where
  isName : ∀ g ∈ files, IsName g.name
  nodup : (files.map (·.name)).Nodup
  mem : f ∈ files
  leadsTo : t.LeadsTo site.directory dir
  get? : t.get? (dir ++ [f.name]) = some (.file old)
  isFileAt : t.isFileAt (site.path f.name) = true

section Trees

theorem Stands.resolve (h : Stands site t files f dir old)
    (hl : base.LeadsTo site.directory dir)
    (hg : base.get? (dir ++ [f.name]) = some (.file c)) :
    base.resolve (site.path f.name) = .ok (.file (dir ++ [f.name]) c) := by
  obtain ⟨loc, c', hr⟩ := FileTree.isFileAt_iff.mp h.isFileAt
  have hn := h.isName f h.mem
  have hlen := FileTree.le_maxName_of_resolve_join hn h.leadsTo hr
  exact FileTree.resolve_join hn hl (FileTree.checkPath_of_resolve hr) hlen hg

theorem get?_link_of_advance (ha : w.Advance site.directory base base') {loc : Location}
    {target : String} (hg : base'.get? loc = some (.link target)) :
    base.get? loc = some (.link target) := by
  cases ha with
  | still => exact hg
  | makes _ hgrows => exact (hgrows.get?_eq_some_iff (by simp)).mp hg
  | replaces _ _ _ => exact (FileTree.keepsWays_of_put_file ..).link hg

/-- A way that is lost does not come again. -/
theorem leadsTo_of_advance (ha : w.Advance site.directory base base')
    (hw : ∀ files, w ≠ .begun files) (hl : base'.LeadsTo site.directory dir) :
    base.LeadsTo site.directory dir := by
  cases ha with
  | still => exact hl
  | makes hb _ => exact absurd hb (hw _)
  | replaces _ _ _ => exact (FileTree.keepsWays_of_put_file ..).leadsTo hl

/-- An advance leaves the contents of a file alone, or they are the new ones afterwards. -/
theorem Stands.get?_of_advance (h : Stands site t files f dir old) (hw : w.remaining ⊆ files)
    (hl : base.LeadsTo site.directory dir) (ha : w.Advance site.directory base base')
    (hg : base.get? (dir ++ [f.name]) = some (.file c)) :
    base'.get? (dir ++ [f.name]) = some (.file c) ∨
      base'.get? (dir ++ [f.name]) = some (.file f.contents.toUTF8) := by
  cases ha with
  | still => exact .inl hg
  | makes _ hgrows => exact .inl (hgrows.get?_of_some hg)
  | @replaces g d name hmem hs hput =>
    obtain ⟨rfl, hd⟩ := FileTree.leadsTo_of_slot_join (h.isName g (hw hmem)) hs
    obtain rfl := hd.unique hl
    by_cases hname : g.name = f.name
    · -- The names are distinct, so this is the file itself.
      obtain rfl := List.inj_on_of_nodup_map h.nodup (hw hmem) h.mem hname
      exact .inr (FileTree.get?_put_self hput _)
    · have hne : d ++ [f.name] ≠ d ++ [g.name] := by simpa using Ne.symm hname
      exact .inl (by rw [FileTree.get?_put_of_ne hne, hg])

theorem Stands.leadsTo_or_link (h : Stands site t files f dir old) (hw : w.remaining ⊆ files)
    (hl : base.LeadsTo site.directory dir) (ha : w.Advance site.directory base base') :
    base'.LeadsTo site.directory dir ∨
      ∃ g ∈ files, ∃ target, base.get? (dir ++ [g.name]) = some (.link target) := by
  cases ha with
  | still => exact .inl hl
  | makes _ hgrows => exact .inl (hgrows.keepsWays.leadsTo hl)
  | @replaces g d name hmem hs hput =>
    obtain ⟨rfl, hd⟩ := FileTree.leadsTo_of_slot_join (h.isName g (hw hmem)) hs
    obtain rfl := hd.unique hl
    by_cases hlink : ∃ target, base.get? (d ++ [g.name]) = some (.link target)
    · exact .inr ⟨g, hw hmem, hlink⟩
    · exact .inl ((FileTree.keepsWays_put (fun target ht => hlink ⟨target, ht⟩) _).leadsTo hl)

end Trees

section Answers

/-- The answers to requests for `f`: first with the old contents and then with the new ones. -/
def Turns (site : Site) (f : PlannedFile) (old : ByteArray) (answers : List Response) : Prop :=
  ∃ a b, answers = List.replicate a (site.reply f.name (.ok old)) ++
    List.replicate b (site.reply f.name (.ok f.contents.toUTF8))

/-- The site leads to the directory, and all requests for `f` have been and will be answered from
the contents that it has or had there. -/
structure Led (site : Site) (f : PlannedFile) (dir : Location) (old : ByteArray) (s : Traffic)
    (base : FileTree) : Prop where
  leadsTo : base.LeadsTo site.directory dir
  waiting : ∀ request ∈ s.waiting, pageName? request.1 = some f.name →
    request.2.isFileAt (site.path f.name) = true
  seen : base.get? (dir ++ [f.name]) = some (.file old) ∧
      (∃ a, s.answersTo f.name = List.replicate a (site.reply f.name (.ok old))) ∨
    base.get? (dir ++ [f.name]) = some (.file f.contents.toUTF8) ∧
      Turns site f old (s.answersTo f.name)

/-- The site does not lead to the directory any more, because it led through a link. -/
structure Lost (site : Site) (t : FileTree) (files : List PlannedFile) (dir : Location)
    (s : Traffic) (base : FileTree) : Prop where
  not_leadsTo : ¬ base.LeadsTo site.directory dir
  link : ∃ g ∈ files, ∃ target, t.get? (dir ++ [g.name]) = some (.link target)
  ne_begun : ∀ files, s.writer ≠ .begun files

/-- What holds after any acts, with `base` the tree without its temporary file. -/
structure Sound (site : Site) (t : FileTree) (files : List PlannedFile) (f : PlannedFile)
    (dir : Location) (old : ByteArray) (s : Traffic) (base : FileTree) : Prop where
  holds : s.writer.Holds base s.tree
  remaining : s.writer.remaining ⊆ files
  links : ∀ loc target, base.get? loc = some (.link target) → t.get? loc = some (.link target)
  led_or_lost : Led site f dir old s base ∨ Lost site t files dir s base

theorem Led.turns (h : Led site f dir old s base) : Turns site f old (s.answersTo f.name) := by
  rcases h.seen with ⟨-, a, ha⟩ | ⟨-, ht⟩
  · exact ⟨a, 0, by rw [ha, List.replicate_zero, List.append_nil]⟩
  · exact ht

theorem Led.exists_resolve (h : Led site f dir old s base) (hs : Stands site t files f dir old)
    (hh : s.writer.Holds base s.tree) :
    ∃ c, base.get? (dir ++ [f.name]) = some (.file c) ∧
      s.tree.resolve (site.path f.name) = .ok (.file (dir ++ [f.name]) c) := by
  have hl := hh.keepsWays.1.leadsTo h.leadsTo
  rcases h.seen with ⟨hg, -⟩ | ⟨hg, -⟩
  · exact ⟨_, hg, hs.resolve hl (hh.get?_of_some hg)⟩
  · exact ⟨_, hg, hs.resolve hl (hh.get?_of_some hg)⟩

theorem Sound.write (h : Sound site t files f dir old s base)
    (hs : Stands site t files f dir old) (n : Nat) :
    ∃ base', Sound site t files f dir old (s.act site (.write n)) base' := by
  obtain ⟨base', hh, ha⟩ := h.holds.step site.directory n
  obtain ⟨hsub, hbegun⟩ := Writer.remaining_step site.directory n s.tree s.writer
  refine ⟨base', hh, ?_, ?_, ?_⟩
  · exact List.Subset.trans hsub h.remaining
  · intro loc target hg
    exact h.links loc target (get?_link_of_advance ha hg)
  · rcases h.led_or_lost with hled | hlost
    · by_cases hl : base'.LeadsTo site.directory dir
      · refine .inl ⟨hl, hled.waiting, ?_⟩
        rcases hled.seen with ⟨hg, hold⟩ | ⟨hg, hturns⟩
        · rcases hs.get?_of_advance h.remaining hled.leadsTo ha hg with hg' | hg'
          · exact .inl ⟨hg', hold⟩
          · exact .inr ⟨hg', hled.turns⟩
        · have hg' := hs.get?_of_advance h.remaining hled.leadsTo ha hg
          exact .inr ⟨hg'.elim id id, hturns⟩
      · obtain ⟨g, hm, target, hg⟩ :=
          (hs.leadsTo_or_link h.remaining hled.leadsTo ha).resolve_left hl
        exact .inr ⟨hl, ⟨g, hm, target, h.links _ _ hg⟩, hbegun⟩
    · refine .inr ⟨fun hl => ?_, hlost.link, hbegun⟩
      exact hlost.not_leadsTo (leadsTo_of_advance ha hlost.ne_begun hl)

theorem Sound.look (h : Sound site t files f dir old s base)
    (hs : Stands site t files f dir old) (path : String) :
    Sound site t files f dir old (s.act site (.look path)) base := by
  refine ⟨h.holds, h.remaining, h.links, h.led_or_lost.imp (fun hled => ?_) fun hlost => ?_⟩
  · refine ⟨hled.leadsTo, fun request hm hn => ?_, hled.seen⟩
    rcases List.mem_append.mp hm with hm | hm
    · exact hled.waiting request hm hn
    · obtain rfl := List.mem_singleton.mp hm
      obtain ⟨c, -, hr⟩ := hled.exists_resolve hs h.holds
      exact FileTree.isFileAt_iff.mpr ⟨_, c, hr⟩
  · exact ⟨hlost.not_leadsTo, hlost.link, hlost.ne_begun⟩

theorem getBetween_eq {found read : FileTree} {path : String} {loc : Location}
    (hn : pageName? path = some f.name) (hf : found.isFileAt (site.path f.name) = true)
    (hr : read.resolve (site.path f.name) = .ok (.file loc c)) :
    site.getBetween found read path = site.reply f.name (.ok c) := by
  have hread : read.readBytes (site.path f.name) = .ok c :=
    FileTree.readBytes_eq_ok_iff.mpr ⟨loc, hr⟩
  rw [Site.getBetween, hn]
  dsimp only
  rw [Site.answerBetween, if_pos hf, hread]

theorem answersTo_append (s : Traffic) (path : String) (r : Response)
    (waiting : List (String × FileTree)) :
    answersTo { s with waiting := waiting, answers := s.answers ++ [(path, r)] } f.name =
      s.answersTo f.name ++ if pageName? path = some f.name then [r] else [] := by
  unfold answersTo
  rw [List.filter_append, List.map_append]
  congr 1
  split <;> simp [*]

theorem Sound.read (h : Sound site t files f dir old s base)
    (hs : Stands site t files f dir old) (i : Nat) :
    Sound site t files f dir old (s.act site (.read i)) base := by
  cases hi : s.waiting[i]? with
  | none =>
    rwa [act_read_of_none hi]
  | some request =>
    rw [act_read_of_some hi]
    refine ⟨h.holds, h.remaining, h.links, h.led_or_lost.imp (fun hled => ?_) fun hlost => ?_⟩
    · refine ⟨hled.leadsTo, fun r hm hn => ?_, ?_⟩
      · exact hled.waiting r (List.mem_of_mem_eraseIdx hm) hn
      · rw [answersTo_append]
        by_cases hn : pageName? request.1 = some f.name
        · have hf := hled.waiting request (List.mem_of_getElem? hi) hn
          obtain ⟨c, hg, hr⟩ := hled.exists_resolve hs h.holds
          rw [if_pos hn, getBetween_eq hn hf hr]
          rcases hled.seen with ⟨hg', a, ha⟩ | ⟨hg', a, b, hab⟩
          · obtain rfl : c = old := by simpa [hg] using hg'
            exact .inl ⟨hg, a + 1, by rw [ha, List.replicate_succ']⟩
          · obtain rfl : c = f.contents.toUTF8 := by simpa [hg] using hg'
            exact .inr ⟨hg, a, b + 1, by rw [hab, List.append_assoc, List.replicate_succ']⟩
        · rw [if_neg hn, List.append_nil]
          exact hled.seen
    · exact ⟨hlost.not_leadsTo, hlost.link, hlost.ne_begun⟩

theorem Sound.act (h : Sound site t files f dir old s base)
    (hs : Stands site t files f dir old) (a : Act) :
    ∃ base', Sound site t files f dir old (s.act site a) base' := by
  cases a with
  | write n => exact h.write hs n
  | look path => exact ⟨base, h.look hs path⟩
  | read i => exact ⟨base, h.read hs i⟩

theorem sound_start (hs : Stands site t files f dir old) :
    Sound site t files f dir old (start t files) t where
  holds := .begun
  remaining := List.Subset.refl files
  links _ _ hg := hg
  led_or_lost := .inl ⟨hs.leadsTo, by simp [start], .inl ⟨hs.get?, 0, rfl⟩⟩

theorem exists_sound_run (hs : Stands site t files f dir old) (acts : List Act) :
    ∃ base, Sound site t files f dir old ((start t files).run site acts) base := by
  induction acts using List.reverseRecOn with
  | nil => exact ⟨t, sound_start hs⟩
  | append_singleton acts a ih =>
    obtain ⟨base, h⟩ := ih
    rw [run_concat]
    exact h.act hs a

end Answers

section Requests

theorem outcome_act (site : Site) (s : Traffic) (a : Act) :
    (s.act site a).writer.outcome site.directory (s.act site a).tree =
      s.writer.outcome site.directory s.tree := by
  cases a with
  | write n => exact Writer.outcome_step ..
  | look path => rfl
  | read i =>
    cases hi : s.waiting[i]? with
    | none => rw [act_read_of_none hi]
    | some request => rw [act_read_of_some hi]

/-- The requests do not disturb the writer, which comes to what a run of writes gives. -/
theorem outcome_run (site : Site) (t : FileTree) (files : List PlannedFile) (acts : List Act) :
    ((start t files).run site acts).writer.outcome site.directory
      ((start t files).run site acts).tree = writeAll t site.directory files := by
  induction acts using List.reverseRecOn with
  | nil => rfl
  | append_singleton acts a ih => rw [run_concat, outcome_act, ih]

theorem status_reply (site : Site) (name : String) (c : ByteArray) :
    (site.reply name (.ok c)).status = 200 := by
  unfold Site.reply
  dsimp only
  split <;> rfl

theorem Turns.status {answers : List Response} (h : Turns site f old answers) :
    ∀ r ∈ answers, r.status = 200 := by
  obtain ⟨a, b, rfl⟩ := h
  intro r hm
  rcases List.mem_append.mp hm with hm | hm
  · rw [(List.mem_replicate.mp hm).2, status_reply]
  · rw [(List.mem_replicate.mp hm).2, status_reply]

/-- Whatever the order of the acts, requests for a file that stood in the directory get its old
contents and then its new ones, as long as the site leads to the directory. If it does not any
more, then a link stood there under the name of a file that was written. From every state on, the
writer by itself ends with what a run of writes gives. -/
theorem answers_turn_once (hs : Stands site t files f dir old) (acts : List Act) :
    let s := (start t files).run site acts
    (s.tree.LeadsTo site.directory dir →
      Turns site f old (s.answersTo f.name) ∧ ∀ r ∈ s.answersTo f.name, r.status = 200) ∧
    (¬ s.tree.LeadsTo site.directory dir →
      ∃ g ∈ files, ∃ target, t.get? (dir ++ [g.name]) = some (.link target)) ∧
    ∀ sizes, (∀ n ∈ sizes, 0 < n) → s.writer.left ≤ sizes.length →
      s.writer.run site.directory sizes s.tree =
        ((writeAll t site.directory files).1, .ended (writeAll t site.directory files).2) := by
  intro s
  obtain ⟨base, h⟩ := exists_sound_run hs acts
  have hways := h.holds.keepsWays
  refine ⟨fun hl => ?_, fun hl => ?_, fun sizes hpos hleft => ?_⟩
  · rcases h.led_or_lost with hled | hlost
    · exact ⟨hled.turns, hled.turns.status⟩
    · exact absurd (hways.2.leadsTo hl) hlost.not_leadsTo
  · rcases h.led_or_lost with hled | hlost
    · exact absurd (hways.1.leadsTo hled.leadsTo) hl
    · exact hlost.link
  · rw [Writer.run_eq hpos hleft, outcome_run]

end Requests

section Sample

/-- The tree of a site in `out` that has been written once, with old contents in the navigation. -/
def sampleSiteTree : FileTree :=
  (FileTree.empty.put [] "out" .directory).put ["out"] navigationFile (.file "old".toUTF8)

def sampleSite : Site := ⟨"out", "Docs"⟩

def sampleFiles : List PlannedFile := [⟨navigationFile, "new"⟩, ⟨indexFile, "# Index\n"⟩]

def sampleActs : List Act :=
  [.look "/mkdocs_nav.yml", .write 2, .write 2, .read 0, .write 2, .look "/mkdocs_nav.yml",
    .write 2, .write 2, .read 0, .look "/mkdocs_nav.yml", .read 0]

theorem stands_sampleSiteTree :
    Stands sampleSite sampleSiteTree sampleFiles ⟨navigationFile, "new"⟩ ["out"]
      "old".toUTF8 where
  isName := by decide
  nodup := by decide
  mem := by decide
  leadsTo := by rfl
  get? := by rfl
  isFileAt := by rfl

/-- The second request looks for the file before it is replaced and reads it afterwards. -/
theorem answers_turn_once_sampleSite :
    let s := (start sampleSiteTree sampleFiles).run sampleSite sampleActs
    Stands sampleSite sampleSiteTree sampleFiles ⟨navigationFile, "new"⟩ ["out"] "old".toUTF8 ∧
      s.tree.LeadsTo "out" ["out"] ∧
      Turns sampleSite ⟨navigationFile, "new"⟩ "old".toUTF8 (s.answersTo navigationFile) ∧
      (s.answersTo navigationFile).map (·.body) =
        ["old".toUTF8, "new".toUTF8, "new".toUTF8] ∧
      s.writer.run "out" (List.replicate 20 4) s.tree =
        ((writeAll sampleSiteTree "out" sampleFiles).1,
          .ended (writeAll sampleSiteTree "out" sampleFiles).2) := by
  intro s
  have h := answers_turn_once stands_sampleSiteTree sampleActs
  have hl : s.tree.LeadsTo "out" ["out"] :=
    FileTree.directoryAt_eq_ok_iff.mp (by decide +kernel)
  refine ⟨stands_sampleSiteTree, hl, (h.1 hl).1, ?_, ?_⟩
  · decide +kernel
  · exact h.2.2 (List.replicate 20 4) (by decide) (by decide +kernel)

/-- The sample tree with old contents in the navigation. Its link at the name of the index page
leads to the directory that both stand in. -/
def linkedSiteTree : FileTree := sampleTree.put [] navigationFile (.file "old".toUTF8)

def sampleNavigation : PlannedFile := ⟨navigationFile, navigation (groups sampleDocs).keys⟩

def lateRequest : List Act :=
  List.replicate 13 (.write 4096) ++ [.look "/mkdocs_nav.yml", .read 0]

theorem stands_linkedSiteTree :
    Stands ⟨indexFile, "Docs"⟩ linkedSiteTree (plan {} sampleDocs) sampleNavigation []
      "old".toUTF8 where
  isName _ hm := isName_of_mem_plan hm
  nodup := nodup_plan {} sampleDocs
  mem := by simp [plan, sampleNavigation]
  leadsTo := by rfl
  get? := by rfl
  isFileAt := by rfl

/-- A file that stood in the directory need not be found any more: the index page takes the place of
a link that the site leads through. -/
theorem not_forall_turns :
    ¬ ∀ (site : Site) (t : FileTree) (files : List PlannedFile) (f : PlannedFile) (dir : Location)
      (old : ByteArray) (acts : List Act), Stands site t files f dir old →
        Turns site f old (((start t files).run site acts).answersTo f.name) := by
  intro h
  have hturns := h ⟨indexFile, "Docs"⟩ linkedSiteTree (plan {} sampleDocs) sampleNavigation []
    "old".toUTF8 lateRequest stands_linkedSiteTree
  have hstatus : (((start linkedSiteTree (plan {} sampleDocs)).run ⟨indexFile, "Docs"⟩
      lateRequest).answersTo navigationFile).map (·.status) = [404] := by decide +kernel
  obtain ⟨r, hm, hr⟩ := List.mem_map.mp (hstatus ▸ List.mem_singleton_self 404)
  rw [hturns.status r hm] at hr
  cases hr

end Sample

end Traffic

end Preview

end ShellDocs
