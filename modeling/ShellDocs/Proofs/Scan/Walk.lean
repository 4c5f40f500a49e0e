import ShellDocs.Proofs.Files.Slot

/-! # A walk, entry by entry

A walk of a directory is the visits of its entries one after the other. An entry is skipped, or
it holds a file, or it opens a directory that is walked in its place.
-/

namespace ShellDocs.Files

variable {t : FileTree} {stack : List (Location × String)} {dir loc : Location}
  {path name : String} {node : Node} {bytes : ByteArray}

def visit (t : FileTree) (stack : List (Location × String)) (dir : Location) (path : String)
    (name : String) : Node → List Found
  | .file _ => [.file (Path.join path name)]
  | .directory =>
    match t.resolve (Path.join path name) with
    | .error e => [.unreadable (.io (Path.join path name) e)]
    | .ok _ =>
      walk t ((dir ++ [name], Path.join path name) :: stack) (dir ++ [name])
        (Path.join path name)
  | .link _ =>
    match t.resolve (Path.join path name) with
    | .error e => [.unreadable (.io (Path.join path name) e)]
    | .ok (.vacant _ _) => [.unreadable (.io (Path.join path name) .notFound)]
    | .ok (.file _ _) => [.file (Path.join path name)]
    | .ok (.directory target) =>
      match stack.find? (fun a => a.1 = target) with
      | some a => [.unreadable (.loop (Path.join path name) a.2)]
      | none =>
        walk t ((target, Path.join path name) :: stack) target (Path.join path name)

theorem walk_eq (t : FileTree) (stack : List (Location × String)) (dir : Location)
    (path : String) :
    walk t stack dir path =
      (t.children dir).flatMap fun e => visit t stack dir path e.1 e.2 := by
  rw [walk, List.flatMap_subtype, List.unattach_attach]
  rintro ⟨name, node⟩ hc
  cases node with
  | directory => rfl
  | file contents => rfl
  | link target =>
    simp only [visit]
    split
    · rename_i e hr
      rw [hr]
    · rename_i hr
      rw [hr]
    · rename_i hr
      rw [hr]
    · rename_i target hr
      rw [hr]
      dsimp only
      split
      · rename_i a hs
        rw [hs]
      · rename_i hs
        rw [hs]

section Entries

/-- The entry `name` of a directory, which has the path `path`, opens a directory: it is one, or
it is a link to one that is not being walked. -/
inductive Opens (t : FileTree) (walked : List Location) (dir : Location) (name path : String) :
    Location → Prop where
  | directory : t.get? (dir ++ [name]) = some .directory →
      t.resolve path = .ok (.directory (dir ++ [name])) →
      Opens t walked dir name path (dir ++ [name])
  | link {target : String} {loc : Location} : t.get? (dir ++ [name]) = some (.link target) →
      t.resolve path = .ok (.directory loc) → loc ∉ walked → Opens t walked dir name path loc

/-- The entry holds a file: it is one, or it is a link to one. -/
inductive HoldsFile (t : FileTree) (dir : Location) (name path : String) : ByteArray → Prop where
  | file {bytes : ByteArray} : t.get? (dir ++ [name]) = some (.file bytes) →
      HoldsFile t dir name path bytes
  | link {target : String} {loc : Location} {bytes : ByteArray} :
      t.get? (dir ++ [name]) = some (.link target) → t.resolve path = .ok (.file loc bytes) →
      HoldsFile t dir name path bytes

theorem Opens.resolve {walked : List Location} (h : Opens t walked dir name path loc) :
    t.resolve path = .ok (.directory loc) := by
  cases h with
  | directory _ hr => exact hr
  | link _ hr _ => exact hr

theorem Opens.exists_node {walked : List Location} (h : Opens t walked dir name path loc) :
    ∃ node, t.get? (dir ++ [name]) = some node := by
  cases h with
  | directory hg _ => exact ⟨_, hg⟩
  | link hg _ _ => exact ⟨_, hg⟩

theorem HoldsFile.exists_node (h : HoldsFile t dir name path bytes) :
    ∃ node, t.get? (dir ++ [name]) = some node := by
  cases h with
  | file hg => exact ⟨_, hg⟩
  | link hg _ => exact ⟨_, hg⟩

theorem Opens.isName {walked : List Location} (h : Opens t walked dir name path loc) :
    IsName name := by
  obtain ⟨node, hg⟩ := h.exists_node
  exact (FileTree.isDirectory_of_get? hg).2

theorem HoldsFile.isName (h : HoldsFile t dir name path bytes) : IsName name := by
  obtain ⟨node, hg⟩ := h.exists_node
  exact (FileTree.isDirectory_of_get? hg).2

theorem ne_empty_of_resolve {p : Place} (h : t.resolve path = .ok p) : path ≠ "" := by
  rintro rfl
  cases h

theorem leadsTo_of_resolve (h : t.resolve path = .ok (.directory loc)) : t.LeadsTo path loc := by
  rw [FileTree.LeadsTo, if_neg (ne_empty_of_resolve h)]
  exact h

theorem find?_eq_none_iff :
    stack.find? (fun a => a.1 = loc) = none ↔ loc ∉ stack.map (·.1) := by
  simp only [List.find?_eq_none, List.mem_map, decide_eq_true_eq, not_exists, not_and]

theorem visit_of_opens (h : Opens t (stack.map (·.1)) dir name (Path.join path name) loc)
    (hg : t.get? (dir ++ [name]) = some node) :
    visit t stack dir path name node =
      walk t ((loc, Path.join path name) :: stack) loc (Path.join path name) := by
  cases h with
  | directory hd hr =>
    obtain rfl : node = .directory := by simpa [hg] using hd
    rw [visit, hr]
  | link hl hr hn =>
    obtain ⟨target, rfl⟩ : ∃ target, node = .link target := ⟨_, by simpa [hg] using hl⟩
    rw [visit, hr]
    dsimp only
    rw [find?_eq_none_iff.mpr hn]

theorem visit_of_holdsFile (h : HoldsFile t dir name (Path.join path name) bytes)
    (hg : t.get? (dir ++ [name]) = some node) :
    visit t stack dir path name node = [.file (Path.join path name)] := by
  cases h with
  | file hf =>
    obtain rfl : node = .file bytes := by simpa [hg] using hf
    rfl
  | link hl hr =>
    obtain ⟨target, rfl⟩ : ∃ target, node = .link target := ⟨_, by simpa [hg] using hl⟩
    rw [visit, hr]

theorem visit_cases (stack : List (Location × String)) (hd : t.resolve path = .ok (.directory dir))
    (hg : t.get? (dir ++ [name]) = some node) :
    (∃ e, visit t stack dir path name node = [.unreadable e]) ∨
      (∃ bytes, HoldsFile t dir name (Path.join path name) bytes) ∨
        ∃ loc, Opens t (stack.map (·.1)) dir name (Path.join path name) loc := by
  have hn : IsName name := (FileTree.isDirectory_of_get? hg).2
  cases node with
  | file bytes => exact .inr (.inl ⟨bytes, .file hg⟩)
  | directory =>
    cases hr : t.resolve (Path.join path name) with
    | error e => exact .inl ⟨_, by rw [visit, hr]⟩
    | ok p =>
      have hp := FileTree.eq_of_resolve_join hn (leadsTo_of_resolve hd) hg rfl hr
      rw [hp] at hr
      exact .inr (.inr ⟨_, .directory hg hr⟩)
  | link target =>
    cases hr : t.resolve (Path.join path name) with
    | error e => exact .inl ⟨_, by rw [visit, hr]⟩
    | ok p =>
      cases p with
      | vacant d n => exact .inl ⟨_, by rw [visit, hr]⟩
      | file loc bytes => exact .inr (.inl ⟨bytes, .link hg hr⟩)
      | directory loc =>
        cases hs : stack.find? (fun a => a.1 = loc) with
        | some a =>
          refine .inl ⟨.loop (Path.join path name) a.2, ?_⟩
          rw [visit, hr]
          dsimp only
          rw [hs]
        | none => exact .inr (.inr ⟨loc, .link hg hr (find?_eq_none_iff.mp hs)⟩)

end Entries

section Induction

/-- What holds of a directory when it holds of all that its entries open holds of every walk. -/
theorem walk_induction
    {motive : (stack : List (Location × String)) → (dir : Location) → (path : String) →
      t.resolve path = .ok (.directory dir) → Prop}
    (step : ∀ stack dir path hd,
      (∀ name loc (ho : Opens t (stack.map (·.1)) dir name (Path.join path name) loc),
        motive ((loc, Path.join path name) :: stack) loc (Path.join path name) ho.resolve) →
      motive stack dir path hd)
    (stack : List (Location × String)) (dir : Location) (path : String)
    (hd : t.resolve path = .ok (.directory dir)) : motive stack dir path hd := by
  induction stack, dir, path using walk.induct t with
  | case1 stack dir path down across =>
    refine step stack dir path hd fun name loc ho => ?_
    cases ho with
    | directory hg hr => exact down name (FileTree.mem_children_iff.mpr hg) hr
    | link hg hr hn => exact across name loc hr (find?_eq_none_iff.mpr hn) hr

theorem mem_walk_iff (hd : t.resolve path = .ok (.directory dir)) {file : String} :
    .file file ∈ walk t stack dir path ↔
      ∃ name, (∃ bytes, HoldsFile t dir name (Path.join path name) bytes ∧
          file = Path.join path name) ∨
        ∃ loc, Opens t (stack.map (·.1)) dir name (Path.join path name) loc ∧
          .file file ∈ walk t ((loc, Path.join path name) :: stack) loc (Path.join path name) := by
  rw [walk_eq, List.mem_flatMap]
  constructor
  · rintro ⟨⟨name, node⟩, hc, hm⟩
    have hg := FileTree.mem_children_iff.mp hc
    refine ⟨name, ?_⟩
    rcases visit_cases stack hd hg with ⟨e, he⟩ | ⟨bytes, hf⟩ | ⟨loc, ho⟩
    · rw [he] at hm
      simp at hm
    · rw [visit_of_holdsFile hf hg] at hm
      exact .inl ⟨bytes, hf, by simpa using hm⟩
    · rw [visit_of_opens ho hg] at hm
      exact .inr ⟨loc, ho, hm⟩
  · rintro ⟨name, ⟨bytes, hf, rfl⟩ | ⟨loc, ho, hm⟩⟩
    · obtain ⟨node, hg⟩ := hf.exists_node
      refine ⟨(name, node), FileTree.mem_children_iff.mpr hg, ?_⟩
      rw [visit_of_holdsFile hf hg]
      exact List.mem_singleton_self _
    · obtain ⟨node, hg⟩ := ho.exists_node
      refine ⟨(name, node), FileTree.mem_children_iff.mpr hg, ?_⟩
      rw [visit_of_opens ho hg]
      exact hm

end Induction

end ShellDocs.Files
