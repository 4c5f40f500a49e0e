import Mathlib.Data.List.Basic
import Mathlib.Data.List.Induction
import ShellDocs.Files.Tree
import ShellDocs.Proofs.OrderedMap

/-! # Entries of a file tree

A file tree is determined by its entries and by the directory where relative paths start.
Putting a node changes one entry, and removing a node that holds nothing takes one away.
-/

namespace ShellDocs.Files

/-- A text too long to be a dot or two is a name as long as there is no slash in it. -/
theorem isName_of_length {s : String} (hl : 2 < s.toList.length) (hs : '/' ∉ s.toList) :
    IsName s := by
  have hne : ∀ short : String, short.toList.length ≤ 2 → s ≠ short := by
    rintro short hshort rfl
    omega
  exact ⟨hne _ (by decide), hne _ (by decide), hne _ (by decide), hs⟩

theorem isName_append_md {s : String} (h : '/' ∉ s.toList) : IsName (s ++ ".md") := by
  have hl : (s ++ ".md").toList = s.toList ++ ['.', 'm', 'd'] := String.toList_append
  refine isName_of_length ?_ ?_ <;> rw [hl]
  · rw [List.length_append, List.length_cons, List.length_cons, List.length_cons]
    omega
  · simpa using h

namespace FileTree

variable {t u : FileTree} {dir loc : Location} {name : String} {node : Node}

theorem nodes_get?_nil (t : FileTree) : t.nodes.get? [] = none := by
  by_contra h
  obtain ⟨dir, name, he, -⟩ := t.rooted [] (Option.isSome_iff_ne_none.mpr h)
  simp at he

@[simp] theorem get?_nil (t : FileTree) : t.get? [] = some .directory := if_pos rfl

theorem get?_of_ne_nil (h : loc ≠ []) : t.get? loc = t.nodes.get? loc := if_neg h

@[simp] theorem get?_append_singleton (t : FileTree) (dir : Location) (name : String) :
    t.get? (dir ++ [name]) = t.nodes.get? (dir ++ [name]) := get?_of_ne_nil (by simp)

theorem isDirectory_iff : t.IsDirectory loc ↔ t.get? loc = some .directory := by
  by_cases h : loc = []
  · simp [h, Nodes.IsDirectory]
  · simp [h, Nodes.IsDirectory, get?]

theorem ext_get? (h : ∀ loc, t.get? loc = u.get? loc) (hc : t.cwd = u.cwd) : t = u := by
  have hn : t.nodes = u.nodes := OrderedMap.ext_get? fun loc => by
    by_cases hl : loc = []
    · rw [hl, nodes_get?_nil, nodes_get?_nil]
    · rw [← get?_of_ne_nil hl, ← get?_of_ne_nil hl, h]
  cases t; cases u
  simp only at hn hc
  subst hn hc
  rfl

theorem isDirectory_of_get? (h : t.get? (dir ++ [name]) = some node) :
    t.IsDirectory dir ∧ IsName name := by
  rw [get?_append_singleton] at h
  obtain ⟨d, n, he, hn, hd⟩ := t.rooted (dir ++ [name]) (by simp [h])
  obtain ⟨rfl, hs⟩ := List.append_inj' he rfl
  obtain rfl : name = n := by simpa using hs
  exact ⟨hd, hn⟩

theorem isDirectory_above {top : Location} (hp : top <+: loc) (h : t.IsDirectory loc) :
    t.IsDirectory top := by
  obtain ⟨rest, rfl⟩ := hp
  induction rest using List.reverseRecOn with
  | nil => simpa using h
  | append_singleton rest name ih =>
    rw [← List.append_assoc] at h
    exact ih (isDirectory_of_get? (isDirectory_iff.mp h)).1

theorem isDirectory_of_get?_below {top rest : Location} (h : t.get? (top ++ rest) = some node)
    (hr : rest ≠ []) : t.IsDirectory top := by
  obtain ⟨rest, name, rfl⟩ := (List.eq_nil_or_concat' rest).resolve_left hr
  rw [← List.append_assoc] at h
  exact isDirectory_above (List.prefix_append top rest) (isDirectory_of_get? h).1

theorem isName_of_get?_below {top rest : Location} (h : t.get? (top ++ rest) = some node) :
    ∀ name ∈ rest, IsName name := by
  induction rest using List.reverseRecOn generalizing node with
  | nil => simp
  | append_singleton rest last ih =>
    rw [← List.append_assoc] at h
    obtain ⟨hd, hlast⟩ := isDirectory_of_get? h
    intro name hm
    rcases List.mem_append.mp hm with hm | hm
    · exact ih (isDirectory_iff.mp hd) name hm
    · rw [List.mem_singleton.mp hm]
      exact hlast

section Children

theorem append_lt_append_iff (front : Location) {a b : Location} :
    front ++ a < front ++ b ↔ a < b := by
  induction front with
  | nil => rfl
  | cons name front ih =>
    rw [List.cons_append, List.cons_append, List.cons_lt_cons_iff, ih]
    constructor
    · rintro (h | ⟨-, h⟩)
      · exact absurd h (String.lt_irrefl name)
      · exact h
    · intro h
      exact .inr ⟨rfl, h⟩

theorem child_eq_some_iff {e : Location × Node} {x : String × Node} :
    (match e.1.getLast? with
      | some name => if e.1 = dir ++ [name] then some (name, e.2) else none
      | none => none) = some x ↔ e = (dir ++ [x.1], x.2) := by
  constructor
  · intro h
    split at h
    · split at h
      · rename_i he
        cases h
        rw [← he]
      · cases h
    · cases h
  · rintro rfl
    simp

theorem mem_children_iff : (name, node) ∈ t.children dir ↔ t.get? (dir ++ [name]) = some node := by
  rw [get?_append_singleton, children, List.mem_filterMap]
  constructor
  · rintro ⟨e, he, hx⟩
    rw [child_eq_some_iff.mp hx] at he
    exact OrderedMap.mem_entries_iff.mp he
  · intro hg
    exact ⟨(dir ++ [name], node), OrderedMap.mem_entries_iff.mpr hg, child_eq_some_iff.mpr rfl⟩

theorem children_ascending (t : FileTree) (dir : Location) :
    (t.children dir).Pairwise fun a b => a.1 < b.1 := by
  rw [children, List.pairwise_filterMap]
  refine t.nodes.ascending.imp fun {a b} hlt x hx y hy => ?_
  rw [child_eq_some_iff.mp hx, child_eq_some_iff.mp hy, append_lt_append_iff,
    List.cons_lt_cons_iff] at hlt
  rcases hlt with h | ⟨-, h⟩
  · exact h
  · cases h

end Children

section Put

theorem put_of_not_mayPut (h : ¬ t.MayPut dir name) (node : Node) : t.put dir name node = t :=
  dif_neg h

@[simp] theorem cwd_put (t : FileTree) (dir : Location) (name : String) (node : Node) :
    (t.put dir name node).cwd = t.cwd := by
  unfold put
  split <;> rfl

theorem get?_put (h : t.MayPut dir name) (node : Node) (loc : Location) :
    (t.put dir name node).get? loc = if loc = dir ++ [name] then some node else t.get? loc := by
  unfold put
  rw [dif_pos h]
  by_cases hl : loc = []
  · simp [hl]
  · simp [get?_of_ne_nil hl]

@[simp] theorem get?_put_self (h : t.MayPut dir name) (node : Node) :
    (t.put dir name node).get? (dir ++ [name]) = some node := by
  rw [get?_put h, if_pos rfl]

theorem get?_put_of_ne (hl : loc ≠ dir ++ [name]) (node : Node) :
    (t.put dir name node).get? loc = t.get? loc := by
  by_cases h : t.MayPut dir name
  · rw [get?_put h, if_neg hl]
  · rw [put_of_not_mayPut h]

theorem mayPut_put {d : Location} {n : String} (h : t.MayPut dir name) (c : ByteArray) :
    (t.put dir name (.file c)).MayPut d n ↔ t.MayPut d n := by
  have hd : ∀ loc, (t.put dir name (.file c)).IsDirectory loc ↔ t.IsDirectory loc := by
    intro loc
    rw [isDirectory_iff, isDirectory_iff, get?_put h]
    split
    · rename_i hl
      have := h.2.2
      rw [← hl, isDirectory_iff] at this
      simp [this]
    · exact Iff.rfl
  simp only [MayPut, hd]

theorem put_put (h : t.MayPut dir name) (c : ByteArray) :
    (t.put dir name (.file c)).put dir name node = t.put dir name node := by
  refine ext_get? (fun loc => ?_) (by simp)
  rw [get?_put ((mayPut_put h c).mpr h), get?_put h, get?_put h]
  split <;> rfl

theorem mayPut_of_get?_file {c : ByteArray} (h : t.get? (dir ++ [name]) = some (.file c)) :
    t.MayPut dir name := by
  obtain ⟨hd, hn⟩ := isDirectory_of_get? h
  refine ⟨hd, hn, ?_⟩
  rw [isDirectory_iff, h]
  simp

theorem put_self {c : ByteArray} (h : t.get? (dir ++ [name]) = some (.file c)) :
    t.put dir name (.file c) = t := by
  refine ext_get? (fun loc => ?_) (cwd_put ..)
  rw [get?_put (mayPut_of_get?_file h)]
  split
  · rename_i hl
    rw [hl, h]
  · rfl

end Put

section Remove

theorem not_prefix_cwd {top : Location} (h : ¬ t.IsDirectory top) : ¬ top <+: t.cwd :=
  fun hp => h (isDirectory_above hp t.cwd_isDirectory)

theorem get?_remove {top : Location} (h : ¬ t.IsDirectory top) (loc : Location) :
    (t.remove top).get? loc = if loc = top then none else t.get? loc := by
  unfold remove
  rw [dif_neg (not_prefix_cwd h)]
  by_cases hl : loc = []
  · have hne : ([] : Location) ≠ top := fun he => h (he ▸ .inl rfl)
    simp [hl, hne]
  · rw [get?_of_ne_nil hl, get?_of_ne_nil hl, OrderedMap.get?_filter]
    by_cases he : loc = top
    · have hp : top.isPrefixOf top = true := List.isPrefixOf_iff_prefix.mpr List.prefix_rfl
      simp [he, hp]
    · rw [if_neg he]
      split
      · rfl
      · rename_i hp
        have hp' : top <+: loc := by simpa using hp
        obtain ⟨rest, rfl⟩ := hp'
        have hr : rest ≠ [] := by rintro rfl; simp at he
        cases hg : t.nodes.get? (top ++ rest) with
        | none => rfl
        | some node => exact absurd (isDirectory_of_get?_below (by rwa [get?_of_ne_nil hl]) hr) h

theorem cwd_remove {top : Location} (h : ¬ t.IsDirectory top) : (t.remove top).cwd = t.cwd := by
  unfold remove
  rw [dif_neg (not_prefix_cwd h)]

theorem remove_put (h : t.MayPut dir name) (hv : t.get? (dir ++ [name]) = none) (c : ByteArray) :
    (t.put dir name (.file c)).remove (dir ++ [name]) = t := by
  have hd : ¬ (t.put dir name (.file c)).IsDirectory (dir ++ [name]) := by
    rw [isDirectory_iff, get?_put_self h]
    simp
  refine ext_get? (fun loc => ?_) (by rw [cwd_remove hd, cwd_put])
  rw [get?_remove hd, get?_put h]
  split
  · rename_i hl
    rw [hl, hv]
  · rfl

end Remove

end FileTree

end ShellDocs.Files
