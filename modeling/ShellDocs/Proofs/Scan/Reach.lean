import ShellDocs.Proofs.Scan.Trail
import ShellDocs.Proofs.Scan.Walk

/-! # What a walk reaches

A walk of a root finds the files at the ends of all trails along which entries open directories,
and no others. It finds them in the order of their trails.
-/

namespace ShellDocs.Files

variable {t : FileTree} {root file : String} {trail : List String} {dir loc : Location}
  {above : List Location} {bytes : ByteArray}

/-- A trail from the root leads to the directory `dir` through the directories `above`, the last of
them first. A link that leads back to one of them or to `dir` itself is not followed. -/
inductive Walks (t : FileTree) (root : String) :
    List String → Location → List Location → Prop where
  | start {loc : Location} : t.resolve root = .ok (.directory loc) → Walks t root [] loc []
  | enter {trail : List String} {dir loc : Location} {above : List Location} {name : String} :
      Walks t root trail dir above →
      Opens t (dir :: above) dir name (Path.below root (trail ++ [name])) loc →
      Walks t root (trail ++ [name]) loc (dir :: above)

inductive WalksToFile (t : FileTree) (root : String) : List String → ByteArray → Prop where
  | intro {trail : List String} {dir : Location} {above : List Location} {name : String}
      {bytes : ByteArray} : Walks t root trail dir above →
      HoldsFile t dir name (Path.below root (trail ++ [name])) bytes →
      WalksToFile t root (trail ++ [name]) bytes

section Trails

theorem Walks.resolve (h : Walks t root trail dir above) :
    t.resolve (Path.below root trail) = .ok (.directory dir) := by
  cases h with
  | start hr => exact hr
  | enter _ ho => exact ho.resolve

theorem Walks.isName (h : Walks t root trail dir above) : ∀ name ∈ trail, IsName name := by
  induction h with
  | start _ => simp
  | enter _ ho ih =>
    intro name hm
    rcases List.mem_append.mp hm with hm | hm
    · exact ih name hm
    · rw [List.mem_singleton.mp hm]
      exact ho.isName

theorem WalksToFile.isName (h : WalksToFile t root trail bytes) : ∀ name ∈ trail, IsName name := by
  obtain ⟨hw, hf⟩ := h
  intro name hm
  rcases List.mem_append.mp hm with hm | hm
  · exact hw.isName name hm
  · rw [List.mem_singleton.mp hm]
    exact hf.isName

theorem WalksToFile.ne_nil (h : WalksToFile t root trail bytes) : trail ≠ [] := by
  obtain ⟨-, -⟩ := h
  simp

/-- A file on a trail is found under the path of the trail, unless the path or a name is too
long. -/
theorem WalksToFile.resolve (h : WalksToFile t root trail bytes)
    (hc : checkPath (Path.below root trail) = .ok ())
    (hl : ∀ name ∈ trail, name.utf8ByteSize ≤ maxName) :
    ∃ loc, t.resolve (Path.below root trail) = .ok (.file loc bytes) := by
  obtain ⟨hw, hf⟩ := h
  cases hf with
  | file hg =>
    rw [Path.below_concat] at hc ⊢
    have hn := (FileTree.isDirectory_of_get? hg).2
    have hlen := hl _ (List.mem_append_right _ (List.mem_singleton_self _))
    exact ⟨_, FileTree.resolve_join hn (leadsTo_of_resolve hw.resolve) hc hlen hg⟩
  | link _ hr => exact ⟨_, hr⟩

theorem WalksToFile.eq_of_resolve {bytes' : ByteArray} (h : WalksToFile t root trail bytes)
    (hr : t.resolve (Path.below root trail) = .ok (.file loc bytes')) : bytes' = bytes := by
  obtain ⟨hw, hf⟩ := h
  cases hf with
  | file hg =>
    rw [Path.below_concat] at hr
    have hn := (FileTree.isDirectory_of_get? hg).2
    cases FileTree.eq_of_resolve_join hn (leadsTo_of_resolve hw.resolve) hg rfl hr
    rfl
  | link _ hr' =>
    rw [hr'] at hr
    cases hr
    rfl

end Trails

section Reached

theorem exists_walksToFile_of_mem {stack : List (Location × String)} {path : String}
    (hd : t.resolve path = .ok (.directory dir)) (hs : stack.map (·.1) = dir :: above)
    (hp : path = Path.below root trail) (hw : Walks t root trail dir above)
    (hm : .file file ∈ walk t stack dir path) :
    ∃ trail bytes, WalksToFile t root trail bytes ∧ file = Path.below root trail := by
  induction stack, dir, path, hd using walk_induction generalizing trail above with
  | step stack dir path hd ih =>
    subst hp
    obtain ⟨name, ⟨bytes, hf, rfl⟩ | ⟨loc, ho, hm⟩⟩ := (mem_walk_iff hd).mp hm
    · rw [← Path.below_concat] at hf ⊢
      exact ⟨_, bytes, .intro hw hf, rfl⟩
    · have ho' := ho
      rw [hs, ← Path.below_concat] at ho'
      exact ih name loc ho (by rw [List.map_cons, hs]) (Path.below_concat ..).symm (hw.enter ho') hm

/-- A directory on a trail is walked as a part of the walk of the root. -/
theorem Walks.exists_walk_subset (h : Walks t root trail dir above)
    (hroot : t.resolve root = .ok (.directory loc)) :
    ∃ stack, stack.map (·.1) = dir :: above ∧ ∀ file,
      .file file ∈ walk t stack dir (Path.below root trail) →
        .file file ∈ walk t [(loc, root)] loc root := by
  induction h with
  | start hr =>
    rw [hr] at hroot
    cases hroot
    exact ⟨[(loc, root)], rfl, fun file hm => hm⟩
  | @enter trail dir next above name hw ho ih =>
    obtain ⟨stack, hs, hsub⟩ := ih
    refine ⟨(next, Path.below root (trail ++ [name])) :: stack, by rw [List.map_cons, hs], ?_⟩
    intro file hm
    refine hsub file ((mem_walk_iff hw.resolve).mpr ⟨name, .inr ⟨next, ?_, ?_⟩⟩)
    · rw [hs, ← Path.below_concat]
      exact ho
    · rwa [← Path.below_concat]

theorem mem_walk_root_iff (hroot : t.resolve root = .ok (.directory loc)) :
    .file file ∈ walk t [(loc, root)] loc root ↔
      ∃ trail bytes, WalksToFile t root trail bytes ∧ file = Path.below root trail := by
  constructor
  · intro hm
    exact exists_walksToFile_of_mem hroot rfl rfl (.start hroot) hm
  · rintro ⟨_, bytes, ⟨hw, hf⟩, rfl⟩
    obtain ⟨stack, -, hsub⟩ := hw.exists_walk_subset hroot
    rw [Path.below_concat] at hf ⊢
    exact hsub _ ((mem_walk_iff hw.resolve).mpr ⟨_, .inl ⟨bytes, hf, rfl⟩⟩)

end Reached

section Order

def Found.file? : Found → Option String
  | .file path => some path
  | .unreadable _ => none

theorem mem_filterMap_file?_iff {found : List Found} :
    file ∈ found.filterMap Found.file? ↔ .file file ∈ found := by
  rw [List.mem_filterMap]
  constructor
  · rintro ⟨f, hf, he⟩
    cases f with
    | file path =>
      cases he
      exact hf
    | unreadable e => cases he
  · intro hf
    exact ⟨.file file, hf, rfl⟩

theorem exists_below_of_mem_walk {stack : List (Location × String)} {path : String}
    (hd : t.resolve path = .ok (.directory dir)) (hm : .file file ∈ walk t stack dir path) :
    ∃ trail, (∀ name ∈ trail, IsName name) ∧ file = Path.below path trail := by
  induction stack, dir, path, hd using walk_induction with
  | step stack dir path hd ih =>
    obtain ⟨name, ⟨bytes, hf, rfl⟩ | ⟨loc, ho, hm⟩⟩ := (mem_walk_iff hd).mp hm
    · exact ⟨[name], by simpa using hf.isName, rfl⟩
    · obtain ⟨trail, hn, rfl⟩ := ih name loc ho hm
      exact ⟨name :: trail, by simpa using ⟨ho.isName, hn⟩, rfl⟩

theorem components_of_mem_visit {stack : List (Location × String)} {path name : String}
    {node : Node} (hd : t.resolve path = .ok (.directory dir))
    (hg : t.get? (dir ++ [name]) = some node)
    (hm : .file file ∈ visit t stack dir path name node) :
    ∃ rest, Path.components file = Path.components path ++ name :: rest := by
  rcases visit_cases stack hd hg with ⟨e, he⟩ | ⟨bytes, hf⟩ | ⟨loc, ho⟩
  · rw [he] at hm
    simp at hm
  · rw [visit_of_holdsFile hf hg] at hm
    obtain rfl : file = Path.join path name := by simpa using hm
    exact ⟨[], Path.components_join path hf.isName⟩
  · rw [visit_of_opens ho hg] at hm
    obtain ⟨rest, hn, rfl⟩ := exists_below_of_mem_walk ho.resolve hm
    refine ⟨rest, ?_⟩
    rw [Path.components_below hn, Path.components_join path ho.isName, List.append_assoc]
    rfl

theorem walk_ascending {stack : List (Location × String)} {path : String}
    (hd : t.resolve path = .ok (.directory dir)) :
    ((walk t stack dir path).filterMap Found.file?).Pairwise
      fun a b => Path.components a < Path.components b := by
  induction stack, dir, path, hd using walk_induction with
  | step stack dir path hd ih =>
    rw [walk_eq, List.filterMap_flatMap, List.pairwise_flatMap]
    constructor
    · rintro ⟨name, node⟩ hc
      have hg := FileTree.mem_children_iff.mp hc
      rcases visit_cases stack hd hg with ⟨e, he⟩ | ⟨bytes, hf⟩ | ⟨loc, ho⟩
      · rw [he]
        exact .nil
      · rw [visit_of_holdsFile hf hg]
        exact List.pairwise_singleton ..
      · rw [visit_of_opens ho hg]
        exact ih name loc ho
    · refine (t.children_ascending dir).imp_of_mem ?_
      rintro ⟨name, node⟩ ⟨name', node'⟩ hc hc' hlt a ha b hb
      have hg := FileTree.mem_children_iff.mp hc
      have hg' := FileTree.mem_children_iff.mp hc'
      obtain ⟨rest, hr⟩ := components_of_mem_visit hd hg (mem_filterMap_file?_iff.mp ha)
      obtain ⟨rest', hr'⟩ := components_of_mem_visit hd hg' (mem_filterMap_file?_iff.mp hb)
      rw [hr, hr', FileTree.append_lt_append_iff, List.cons_lt_cons_iff]
      exact .inl hlt

/-- The files of a walk are those at the ends of the trails, in the order of the trails. -/
theorem exists_trails (hroot : t.resolve root = .ok (.directory loc)) :
    ∃ trails : List (List String), trails.Pairwise (· < ·) ∧
      (∀ trail, trail ∈ trails ↔ ∃ bytes, WalksToFile t root trail bytes) ∧
      (walk t [(loc, root)] loc root).filterMap Found.file? = trails.map (Path.below root) := by
  have hmem : ∀ file ∈ (walk t [(loc, root)] loc root).filterMap Found.file?,
      ∃ trail bytes, WalksToFile t root trail bytes ∧ file = Path.below root trail :=
    fun file hf => (mem_walk_root_iff hroot).mp (mem_filterMap_file?_iff.mp hf)
  refine ⟨((walk t [(loc, root)] loc root).filterMap Found.file?).map (Path.namesBelow root),
    ?_, ?_, ?_⟩
  · rw [List.pairwise_map]
    refine (walk_ascending hroot).imp_of_mem ?_
    intro a b ha hb hlt
    obtain ⟨trail, bytes, hw, rfl⟩ := hmem a ha
    obtain ⟨trail', bytes', hw', rfl⟩ := hmem b hb
    rw [Path.namesBelow_below hw.isName, Path.namesBelow_below hw'.isName]
    rwa [Path.components_below hw.isName, Path.components_below hw'.isName,
      FileTree.append_lt_append_iff] at hlt
  · intro trail
    rw [List.mem_map]
    constructor
    · rintro ⟨file, hf, rfl⟩
      obtain ⟨trail, bytes, hw, rfl⟩ := hmem file hf
      rw [Path.namesBelow_below hw.isName]
      exact ⟨bytes, hw⟩
    · rintro ⟨bytes, hw⟩
      refine ⟨Path.below root trail, ?_, Path.namesBelow_below hw.isName⟩
      exact mem_filterMap_file?_iff.mpr ((mem_walk_root_iff hroot).mpr ⟨trail, bytes, hw, rfl⟩)
  · have hself : ∀ file ∈ (walk t [(loc, root)] loc root).filterMap Found.file?,
        (Path.below root ∘ Path.namesBelow root) file = id file := by
      intro file hf
      obtain ⟨trail, bytes, hw, rfl⟩ := hmem file hf
      rw [Function.comp_apply, Path.namesBelow_below hw.isName, id_eq]
    rw [List.map_map, List.map_congr_left hself, List.map_id]

end Order

end ShellDocs.Files
