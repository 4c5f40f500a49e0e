import ShellDocs.Error
import ShellDocs.Files.Resolve

/-! # Walking a tree

The walk goes through a directory and all below it in the order of names, and follows
links. A link to a directory that is being walked is a loop and is not followed.

The walk ends because a followed link leads to a directory that was not on the way before,
and every other step leads one level down.
-/

namespace ShellDocs.Files

namespace FileTree

theorem isDirectory_dropLast {t : FileTree} {loc : Location} (h : t.IsDirectory loc) :
    t.IsDirectory loc.dropLast := by
  rcases h with rfl | h
  · exact .inl rfl
  · obtain ⟨dir, name, rfl, -, hd⟩ := t.rooted loc (by simp [h])
    simpa using hd

/-- The directory in which a stride ends or meets a link. -/
def Stop.IsSound (t : FileTree) : Stop → Prop
  | .place (.directory loc) => t.IsDirectory loc
  | .link dir _ _ => t.IsDirectory dir
  | _ => True

theorem stride_isSound {t : FileTree} {dir : Location} (h : t.IsDirectory dir)
    (segments : List String) : Stop.IsSound t (t.stride dir segments) := by
  induction segments generalizing dir with
  | nil => exact h
  | cons name rest ih =>
    unfold stride
    split
    · exact ih h
    split
    · exact ih (isDirectory_dropLast h)
    split
    · trivial
    split
    · rename_i hg
      refine ih (.inr ?_)
      simpa [get?] using hg
    · split <;> trivial
    · exact h
    · split <;> trivial

theorem follow_isDirectory {t : FileTree} {links : Nat} {dir loc : Location}
    {segments : List String} (h : t.IsDirectory dir)
    (hf : t.follow links dir segments = .ok (.directory loc)) : t.IsDirectory loc := by
  induction links generalizing dir segments with
  | zero =>
    have hs := stride_isSound h segments
    unfold follow at hf
    split at hf
    · rename_i p hp
      cases hf
      rw [hp] at hs
      exact hs
    · cases hf
    · cases hf
  | succ links ih =>
    have hs := stride_isSound h segments
    unfold follow at hf
    split at hf
    · rename_i p hp
      cases hf
      rw [hp] at hs
      exact hs
    · cases hf
    · rename_i d target rest hp
      rw [hp] at hs
      refine ih ?_ hf
      split
      · exact .inl rfl
      · exact hs

theorem resolve_isDirectory {t : FileTree} {path : String} {loc : Location}
    (h : t.resolve path = .ok (.directory loc)) : t.IsDirectory loc := by
  unfold resolve at h
  cases hc : checkPath path with
  | error e => simp [hc, bind, Except.bind] at h
  | ok _ =>
    simp only [hc, bind, Except.bind] at h
    refine follow_isDirectory ?_ h
    unfold origin
    split
    · exact .inl rfl
    · exact t.cwd_isDirectory

def directories (t : FileTree) : List Location :=
  [] :: (t.nodes.entries.filter (fun e => e.2 = .directory)).map (·.1)

theorem mem_directories_iff {t : FileTree} {loc : Location} :
    loc ∈ t.directories ↔ t.IsDirectory loc := by
  simp only [directories, List.mem_cons, List.mem_map, List.mem_filter, Nodes.IsDirectory]
  constructor
  · rintro (h | ⟨⟨l, n⟩, ⟨he, hn⟩, rfl⟩)
    · exact .inl h
    · exact .inr (by simpa using (OrderedMap.mem_entries_iff.mp he).trans (by simpa using hn))
  · rintro (h | h)
    · exact .inl h
    · exact .inr ⟨(loc, .directory), ⟨OrderedMap.mem_entries_iff.mpr h, by simp⟩, rfl⟩

/-- The number of directories that are not among those being walked. -/
def unseen (t : FileTree) (stack : List (Location × String)) : Nat :=
  t.directories.countP fun l => stack.all fun a => a.1 ≠ l

def depth (t : FileTree) : Nat := (t.directories.map (·.length)).foldr max 0

theorem le_foldr_max {n : Nat} {l : List Nat} (h : n ∈ l) : n ≤ l.foldr max 0 := by
  induction l with
  | nil => cases h
  | cons m l ih => grind

theorem length_le_depth {t : FileTree} {loc : Location} (h : t.IsDirectory loc) :
    loc.length ≤ t.depth :=
  le_foldr_max (List.mem_map_of_mem (mem_directories_iff.mpr h))

theorem countP_lt_countP {α : Type} {p q : α → Bool} {l : List α} {a : α}
    (h : ∀ b, p b → q b) (ha : a ∈ l) (hq : q a) (hp : ¬ p a) : l.countP p < l.countP q := by
  induction l with
  | nil => cases ha
  | cons b l ih =>
    have hb := h b
    have hl : l.countP p ≤ l.countP q := List.countP_mono_left fun x _ => h x
    grind

theorem unseen_cons_le (t : FileTree) (a : Location × String)
    (stack : List (Location × String)) : t.unseen (a :: stack) ≤ t.unseen stack :=
  List.countP_mono_left fun l _ h => by simp at h ⊢; exact h.2

theorem unseen_cons_lt {t : FileTree} {a : Location × String}
    {stack : List (Location × String)} (h : t.IsDirectory a.1)
    (ha : stack.find? (fun b => b.1 = a.1) = none) :
    t.unseen (a :: stack) < t.unseen stack := by
  refine countP_lt_countP (fun l h => ?_) (mem_directories_iff.mpr h) ?_ (by simp)
  · simp at h ⊢; exact h.2
  · simpa using ha

theorem isDirectory_of_mem_children {t : FileTree} {dir : Location} {name : String}
    (h : (name, Node.directory) ∈ t.children dir) : t.IsDirectory (dir ++ [name]) := by
  obtain ⟨⟨loc, node⟩, he, hm⟩ := List.mem_filterMap.mp h
  split at hm
  · split at hm
    · rename_i n _ hl
      cases hm
      exact .inr (hl ▸ OrderedMap.mem_entries_iff.mp he)
    · cases hm
  · cases hm

end FileTree

/-- What a walk meets, directories apart. -/
inductive Found where
  | file (path : String)
  | unreadable (e : WalkError)

/-- Walks the directory `dir`, reached as `path`. The stack holds the directories being walked,
`dir` first. -/
def walk (t : FileTree) (stack : List (Location × String)) (dir : Location) (path : String) :
    List Found :=
  (t.children dir).attach.flatMap fun ⟨(name, node), hc⟩ =>
    let inner := Path.join path name
    match node, hc with
    | .file _, _ => [.file inner]
    | .directory, _hc =>
      match t.resolve inner with
      | .error e => [.unreadable (.io inner e)]
      | .ok _ => walk t ((dir ++ [name], inner) :: stack) (dir ++ [name]) inner
    | .link _, _ =>
      match _hr : t.resolve inner with
      | .error e => [.unreadable (.io inner e)]
      | .ok (.vacant _ _) => [.unreadable (.io inner .notFound)]
      | .ok (.file _ _) => [.file inner]
      | .ok (.directory target) =>
        match _hs : stack.find? (fun a => a.1 = target) with
        | some a => [.unreadable (.loop inner a.2)]
        | none => walk t ((target, inner) :: stack) target inner
termination_by (t.unseen stack, t.depth + 1 - dir.length)
decreasing_by
  · refine Prod.Lex.right' _ (t.unseen_cons_le _ _) ?_
    have := FileTree.length_le_depth (FileTree.isDirectory_of_mem_children _hc)
    simp at this ⊢
    omega
  · exact Prod.Lex.left _ _ (FileTree.unseen_cons_lt (FileTree.resolve_isDirectory _hr) _hs)

end ShellDocs.Files
