import ShellDocs.OrderedMap

/-! # File trees

A file tree is a finite set of locations, each with a directory, a file or a symbolic link.
A location is the list of names that leads to it from the top. Every location but the top
lies in a directory.
-/

namespace ShellDocs.Files

abbrev Location := List String

/-! Locations are ordered name by name from the top. -/

instance : LE Location := List.instLE

instance : Std.IsLinearOrder Location := List.instIsLinearOrder

instance : Std.LawfulOrderLT Location := List.instLawfulOrderLTOfAsymmLt

instance decidableEqBytes : DecidableEq ByteArray := ByteArray.instDecidableEq

inductive Node where
  | directory
  | file (contents : ByteArray)
  | link (target : String)
deriving DecidableEq

def IsName (s : String) : Prop := s ≠ "" ∧ s ≠ "." ∧ s ≠ ".." ∧ '/' ∉ s.toList

instance (s : String) : Decidable (IsName s) := by unfold IsName; infer_instance

abbrev Nodes := OrderedMap Location Node

def Nodes.IsDirectory (nodes : Nodes) (loc : Location) : Prop :=
  loc = [] ∨ nodes.get? loc = some .directory

instance (nodes : Nodes) (loc : Location) : Decidable (nodes.IsDirectory loc) := by
  unfold Nodes.IsDirectory; infer_instance

structure FileTree where
  nodes : Nodes
  /-- Where relative paths start. -/
  cwd : Location
  rooted : ∀ loc, (nodes.get? loc).isSome →
    ∃ dir name, loc = dir ++ [name] ∧ IsName name ∧ nodes.IsDirectory dir
  cwd_isDirectory : nodes.IsDirectory cwd

namespace FileTree

/-- The tree that holds nothing but its top. -/
def empty : FileTree where
  nodes := ∅
  cwd := []
  rooted := by simp
  cwd_isDirectory := .inl rfl

instance : Inhabited FileTree := ⟨empty⟩

def get? (t : FileTree) (loc : Location) : Option Node :=
  if loc = [] then some .directory else t.nodes.get? loc

abbrev IsDirectory (t : FileTree) (loc : Location) : Prop := t.nodes.IsDirectory loc

/-- The entries of a directory in ascending order of their names. -/
def children (t : FileTree) (dir : Location) : List (String × Node) :=
  t.nodes.entries.filterMap fun e =>
    match e.1.getLast? with
    | some name => if e.1 = dir ++ [name] then some (name, e.2) else none
    | none => none

/-- A node may be put into a directory under a name that stands for no directory. -/
def MayPut (t : FileTree) (dir : Location) (name : String) : Prop :=
  t.IsDirectory dir ∧ IsName name ∧ ¬ t.IsDirectory (dir ++ [name])

instance (t : FileTree) (dir : Location) (name : String) : Decidable (t.MayPut dir name) := by
  unfold MayPut; infer_instance

theorem isDirectory_insert {t : FileTree} {dir loc : Location} {name : String} {node : Node}
    (h : t.MayPut dir name) (hl : t.IsDirectory loc) :
    Nodes.IsDirectory (t.nodes.insert (dir ++ [name]) node) loc := by
  by_cases he : loc = dir ++ [name]
  · exact absurd (he ▸ hl) h.2.2
  · rcases hl with hl | hl
    · exact .inl hl
    · exact .inr (by simp [he, hl])

/-- Puts a node into a directory, where that may be done. -/
def put (t : FileTree) (dir : Location) (name : String) (node : Node) : FileTree :=
  if h : t.MayPut dir name then
    { nodes := t.nodes.insert (dir ++ [name]) node
      cwd := t.cwd
      rooted := fun loc hl => by
        by_cases he : loc = dir ++ [name]
        · exact ⟨dir, name, he, h.2.1, isDirectory_insert h h.1⟩
        · obtain ⟨d, n, hd, hn, hi⟩ := t.rooted loc (by simpa [he] using hl)
          exact ⟨d, n, hd, hn, isDirectory_insert h hi⟩
      cwd_isDirectory := isDirectory_insert h t.cwd_isDirectory }
  else t

theorem isDirectory_filter {t : FileTree} {top loc : Location} (hp : ¬ top <+: loc)
    (hl : t.IsDirectory loc) :
    Nodes.IsDirectory (t.nodes.filter (fun l => !top.isPrefixOf l)) loc := by
  rcases hl with hl | hl
  · exact .inl hl
  · refine .inr ?_
    rw [OrderedMap.get?_filter]
    simpa [hl] using hp

/-- Removes a node and all that lies below it. The directory where relative paths start
stays. -/
def remove (t : FileTree) (top : Location) : FileTree :=
  if h : top <+: t.cwd then t else
    { nodes := t.nodes.filter (fun l => !top.isPrefixOf l)
      cwd := t.cwd
      rooted := fun loc hl => by
        rw [OrderedMap.get?_filter] at hl
        by_cases hp : top <+: loc
        · simp [List.isPrefixOf_iff_prefix.mpr hp] at hl
        · have hf : top.isPrefixOf loc = false :=
            Bool.eq_false_iff.mpr fun hb => hp (List.isPrefixOf_iff_prefix.mp hb)
          obtain ⟨d, n, hd, hn, hi⟩ := t.rooted loc (by simpa [hf] using hl)
          refine ⟨d, n, hd, hn, isDirectory_filter (fun hpd => hp ?_) hi⟩
          exact hd ▸ hpd.trans (List.prefix_append d [n])
      cwd_isDirectory := isDirectory_filter h t.cwd_isDirectory }

/-- Relative paths start from another directory. -/
def enter (t : FileTree) (dir : Location) : FileTree :=
  if h : t.IsDirectory dir then { t with cwd := dir, cwd_isDirectory := h } else t

end FileTree

end ShellDocs.Files
