import ShellDocs.Proofs.Files.Linkless
import ShellDocs.Proofs.Generate.SameScripts

/-! # Scripts of trees without links

Without links a trail leads below the root one name after the other, and what a scan documents is
decided by the files under the names of scripts. Two trees with the same such files give the same
documents from a root that leads to the same directory.
-/

namespace ShellDocs

open Files

variable {t u : FileTree} {root : String} {trail : List String} {top dir : Location}
  {above : List Location} {bytes : ByteArray}

section Walks

theorem below_ne_empty (h : root ≠ "") (hn : ∀ name ∈ trail, IsName name) :
    Path.below root trail ≠ "" := by
  rcases List.eq_nil_or_concat' trail with rfl | ⟨front, name, rfl⟩
  · exact h
  · have hname : IsName name := hn name (by simp)
    obtain ⟨gap, hg⟩ := Path.exists_join_eq (Path.below root front) hname
    rw [Path.below_concat, hg]
    simp [hname.1]

theorem checkPath_below {name : String} (h : root ≠ "") (hn : ∀ n ∈ trail ++ [name], IsName n)
    (hc : checkPath (Path.below root (trail ++ [name])) = .ok ()) :
    checkPath (Path.below root trail) = .ok () := by
  rw [Path.below_concat] at hc
  refine FileTree.checkPath_of_join (hn name (by simp)) (below_ne_empty h ?_) hc
  exact fun n hm => hn n (List.mem_append_left _ hm)

theorem Files.Walks.eq_append (ht : t.NoLinks) (hroot : t.resolve root = .ok (.directory top))
    (h : Walks t root trail dir above) : dir = top ++ trail := by
  induction h with
  | start hr =>
    rw [hr] at hroot
    cases hroot
    rw [List.append_nil]
  | enter _ ho ih =>
    cases ho with
    | directory _ _ => rw [ih, List.append_assoc]
    | link hg _ _ => exact absurd hg (ht _ _)

theorem Files.Walks.le_maxName (h : Walks t root trail dir above) :
    ∀ name ∈ trail, name.utf8ByteSize ≤ maxName := by
  induction h with
  | start _ => simp
  | enter hw ho ih =>
    intro n hn
    rcases List.mem_append.mp hn with hn | hn
    · exact ih n hn
    · rw [List.mem_singleton.mp hn]
      have hr := ho.resolve
      rw [Path.below_concat] at hr
      exact FileTree.le_maxName_of_resolve_join ho.isName (leadsTo_of_resolve hw.resolve) hr

/-- A directory below the root is walked unless its path or a name on it is too long. -/
theorem exists_walks (hroot : t.resolve root = .ok (.directory top))
    (hd : t.IsDirectory (top ++ trail)) (hc : checkPath (Path.below root trail) = .ok ())
    (hl : ∀ name ∈ trail, name.utf8ByteSize ≤ maxName) :
    ∃ above, Walks t root trail (top ++ trail) above := by
  have hname := FileTree.isName_of_get?_below (FileTree.isDirectory_iff.mp hd)
  have hne : root ≠ "" := ne_empty_of_resolve hroot
  induction trail using List.reverseRecOn with
  | nil => exact ⟨[], by simpa using Walks.start hroot⟩
  | append_singleton front name ih =>
    rw [← List.append_assoc] at hd ⊢
    have hg := FileTree.isDirectory_iff.mp hd
    have hfront : t.IsDirectory (top ++ front) := (FileTree.isDirectory_of_get? hg).1
    obtain ⟨above, hw⟩ :=
      ih hfront (checkPath_below hne hname hc) (fun n hm => hl n (List.mem_append_left _ hm))
        fun n hm => hname n (List.mem_append_left _ hm)
    refine ⟨_, hw.enter (.directory hg ?_)⟩
    rw [Path.below_concat] at hc ⊢
    exact FileTree.resolve_join_of_place (hname name (by simp)) (leadsTo_of_resolve hw.resolve) hc
      (hl name (by simp)) hg rfl

end Walks

section Scripts

/-- Without links the scripts that can be read are the files under the names of scripts. -/
theorem readsScript_iff (ht : t.NoLinks) (hroot : t.resolve root = .ok (.directory top)) :
    ReadsScript t root trail bytes ↔
      t.get? (top ++ trail) = some (.file bytes) ∧ IsScriptTrail trail ∧
        checkPath (Path.below root trail) = .ok () ∧
        ∀ name ∈ trail, name.utf8ByteSize ≤ maxName := by
  constructor
  · rintro ⟨⟨hw, hf⟩, hs, hread⟩
    obtain ⟨loc, hr⟩ := FileTree.readBytes_eq_ok_iff.mp hread
    cases hf with
    | file hg =>
      refine ⟨?_, hs, FileTree.checkPath_of_resolve hr, ?_⟩
      · rw [← List.append_assoc, ← hw.eq_append ht hroot, hg]
      · intro n hm
        rcases List.mem_append.mp hm with hm | hm
        · exact hw.le_maxName n hm
        · rw [List.mem_singleton.mp hm]
          rw [Path.below_concat] at hr
          have hn := (FileTree.isDirectory_of_get? hg).2
          exact FileTree.le_maxName_of_resolve_join hn (leadsTo_of_resolve hw.resolve) hr
    | link hg _ => exact absurd hg (ht _ _)
  · -- The directory of the file is walked, since its path is shorter than that of the file.
    rintro ⟨hg, hs, hc, hl⟩
    obtain ⟨front, stem, -, rfl⟩ := id hs
    have hname := FileTree.isName_of_get?_below hg
    rw [← List.append_assoc] at hg
    have hbase := checkPath_below (ne_empty_of_resolve hroot) hname hc
    obtain ⟨above, hw⟩ := exists_walks hroot (FileTree.isDirectory_of_get? hg).1 hbase
      fun n hm => hl n (List.mem_append_left _ hm)
    have hfile : WalksToFile t root (front ++ [stem ++ ".sh"]) bytes := .intro hw (.file hg)
    exact ⟨hfile, hs, FileTree.readBytes_eq_ok_iff.mpr (hfile.resolve hc hl)⟩

def SameScriptFiles (t u : FileTree) : Prop :=
  ∀ loc, IsScriptTrail loc →
    ∀ bytes, t.get? loc = some (.file bytes) ↔ u.get? loc = some (.file bytes)

theorem IsScriptTrail.append (h : IsScriptTrail trail) (top : Location) :
    IsScriptTrail (top ++ trail) := by
  obtain ⟨front, stem, hs, rfl⟩ := h
  exact ⟨top ++ front, stem, hs, (List.append_assoc ..).symm⟩

theorem SameScriptFiles.sameScripts (h : SameScriptFiles t u) (ht : t.NoLinks) (hu : u.NoLinks)
    (hroot : t.resolve root = .ok (.directory top))
    (hroot' : u.resolve root = .ok (.directory top)) : SameScripts t root u root := by
  intro trail bytes
  rw [readsScript_iff ht hroot, readsScript_iff hu hroot']
  refine and_congr_left ?_
  rintro ⟨hs, -⟩
  exact h _ (hs.append top) bytes

theorem SameScripts.documents_eq (h : SameScripts t root u root) :
    documents t root = documents u root := by
  refine OrderedMap.ext_get? fun k => Option.ext fun fields => ?_
  simp only [get?_documents_iff, h _ _]

end Scripts

/-- A tree with a script in the directory `in`, and no links. -/
def plainTree : FileTree :=
  (FileTree.empty.put [] "in" .directory).put ["in"] "a.sh" (.file "# @doc\n# @/doc\n".toUTF8)

theorem scan_plainTree : scan plainTree "in" = .ok ⟨sampleDocs, [.documented "a.sh"]⟩ :=
  scan_of_children (by rfl) (by decide +kernel) (by rfl)

end ShellDocs
