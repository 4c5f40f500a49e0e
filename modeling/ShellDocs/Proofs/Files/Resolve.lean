import ShellDocs.Files.Create
import ShellDocs.Proofs.Files.Path
import ShellDocs.Proofs.Files.Tree
import ShellDocs.Scan.Walk

/-! # Paths through changing trees

A path that ends in a directory passes through directories and links alone. It leads to the
same place in every tree that has the same directories and links, whatever happens to files.
-/

namespace ShellDocs.Files

/-- A stride that ends in a directory or at a link. -/
def Stop.IsWay : Stop → Prop
  | .place (.directory _) => True
  | .link _ _ _ => True
  | _ => False

namespace FileTree

variable {t u : FileTree} {dir loc : Location} {name path : String} {segments : List String}

section Steps

inductive Enters (t : FileTree) (dir : Location) : String → Location → Prop where
  | stay : Enters t dir "." dir
  | up : Enters t dir ".." dir.dropLast
  | down {name : String} : ¬ isDots name → name.utf8ByteSize ≤ maxName →
      t.get? (dir ++ [name]) = some .directory → Enters t dir name (dir ++ [name])

structure Meets (t : FileTree) (dir : Location) (name target : String) : Prop where
  not_isDots : ¬ isDots name
  le_maxName : name.utf8ByteSize ≤ maxName
  link : t.get? (dir ++ [name]) = some (.link target)

theorem not_isDots_iff : ¬ isDots name ↔ name ≠ "." ∧ name ≠ ".." := by simp [isDots]

theorem Enters.stride {d : Location} {rest : List String} (h : Enters t dir name d) :
    t.stride dir (name :: rest) = t.stride d rest := by
  cases h with
  | stay => simp [FileTree.stride]
  | up => simp [FileTree.stride]
  | down hn hl hg =>
    obtain ⟨hn, hn'⟩ := not_isDots_iff.mp hn
    rw [FileTree.stride, if_neg hn, if_neg hn', if_neg (by omega), hg]

theorem Meets.stride {target : String} {rest : List String} (h : Meets t dir name target) :
    t.stride dir (name :: rest) = .link dir target rest := by
  obtain ⟨hn, hl, hg⟩ := h
  obtain ⟨hn, hn'⟩ := not_isDots_iff.mp hn
  rw [FileTree.stride, if_neg hn, if_neg hn', if_neg (by omega), hg]

theorem enters_or_meets {rest : List String} (h : (t.stride dir (name :: rest)).IsWay) :
    (∃ d, Enters t dir name d) ∨ ∃ target, Meets t dir name target := by
  rw [FileTree.stride] at h
  split at h
  · rename_i hd
    subst hd
    exact .inl ⟨dir, .stay⟩
  rename_i hdot
  split at h
  · rename_i hd
    subst hd
    exact .inl ⟨dir.dropLast, .up⟩
  rename_i hdots
  have hn : ¬ isDots name := not_isDots_iff.mpr ⟨hdot, hdots⟩
  split at h
  · cases h
  rename_i hlen
  split at h
  · rename_i hg
    exact .inl ⟨_, .down hn (by omega) hg⟩
  · split at h <;> cases h
  · rename_i target hg
    exact .inr ⟨target, hn, by omega, hg⟩
  · split at h <;> cases h

theorem follow_congr {d : Location} {rest : List String} {links : Nat}
    (h : t.stride dir segments = t.stride d rest) :
    t.follow links dir segments = t.follow links d rest := by
  unfold follow
  rw [h]

theorem follow_of_link {d : Location} {target : String} {rest : List String} {links : Nat}
    (h : t.stride dir segments = .link d target rest) :
    t.follow (links + 1) dir segments =
      t.follow links (if Path.isAbsolute target then [] else d) (route target ++ rest) := by
  rw [follow, h]

theorem follow_eq_directory_iff {links : Nat} :
    t.follow links dir segments = .ok (.directory loc) ↔
      t.stride dir segments = .place (.directory loc) ∨
        ∃ n d target rest, links = n + 1 ∧ t.stride dir segments = .link d target rest ∧
          t.follow n (if Path.isAbsolute target then [] else d) (route target ++ rest) =
            .ok (.directory loc) := by
  constructor
  · intro h
    unfold follow at h
    split at h
    · rename_i p hp
      cases h
      exact .inl hp
    · cases h
    · rename_i d target rest hp
      split at h
      · cases h
      · rename_i n
        exact .inr ⟨n, d, target, rest, rfl, hp, h⟩
  · rintro (hs | ⟨n, d, target, rest, rfl, hs, hf⟩)
    · unfold follow
      rw [hs]
    · rw [follow_of_link hs, hf]

end Steps

section Ways

/-- Every directory and every link of `t` stands in `u` as well. -/
structure KeepsWays (t u : FileTree) : Prop where
  directory : ∀ {loc}, t.get? loc = some .directory → u.get? loc = some .directory
  link : ∀ {loc target}, t.get? loc = some (.link target) → u.get? loc = some (.link target)
  cwd : u.cwd = t.cwd

theorem KeepsWays.refl (t : FileTree) : KeepsWays t t := ⟨id, id, rfl⟩

theorem KeepsWays.trans {v : FileTree} (h : KeepsWays t u) (h' : KeepsWays u v) :
    KeepsWays t v :=
  ⟨h'.directory ∘ h.directory, h'.link ∘ h.link, h'.cwd.trans h.cwd⟩

theorem KeepsWays.isDirectory (h : KeepsWays t u) (hd : t.IsDirectory loc) : u.IsDirectory loc :=
  isDirectory_iff.mpr (h.directory (isDirectory_iff.mp hd))

theorem KeepsWays.origin (h : KeepsWays t u) (path : String) : u.origin path = t.origin path := by
  rw [FileTree.origin, FileTree.origin, h.cwd]

theorem keepsWays_of_put_file (t : FileTree) (dir : Location) (name : String) (c : ByteArray) :
    KeepsWays (t.put dir name (.file c)) t := by
  by_cases h : t.MayPut dir name
  · refine ⟨fun {loc} hg => ?_, fun {loc target} hg => ?_, (cwd_put ..).symm⟩ <;>
      rw [get?_put h] at hg <;> split at hg
    · cases hg
    · exact hg
    · cases hg
    · exact hg
  · rw [put_of_not_mayPut h]
    exact .refl t

theorem keepsWays_put (hl : ∀ target, t.get? (dir ++ [name]) ≠ some (.link target)) (node : Node) :
    KeepsWays t (t.put dir name node) := by
  by_cases h : t.MayPut dir name
  · refine ⟨fun {loc} hg => ?_, fun {loc target} hg => ?_, cwd_put ..⟩ <;> rw [get?_put h]
    · rw [if_neg, hg]
      rintro rfl
      exact h.2.2 (isDirectory_iff.mpr hg)
    · rw [if_neg, hg]
      rintro rfl
      exact hl target hg
  · rw [put_of_not_mayPut h]
    exact .refl t

theorem keepsWays_put_of_none (h : t.get? (dir ++ [name]) = none) (node : Node) :
    KeepsWays t (t.put dir name node) := by
  refine keepsWays_put (fun target ht => ?_) node
  rw [h] at ht
  cases ht

theorem KeepsWays.enters {d : Location} (h : KeepsWays t u) (he : Enters t dir name d) :
    Enters u dir name d := by
  cases he with
  | stay => exact .stay
  | up => exact .up
  | down hn hl hg => exact .down hn hl (h.directory hg)

theorem KeepsWays.stride (h : KeepsWays t u) (hs : (t.stride dir segments).IsWay) :
    u.stride dir segments = t.stride dir segments := by
  induction segments generalizing dir with
  | nil => rfl
  | cons name rest ih =>
    rcases enters_or_meets hs with ⟨d, he⟩ | ⟨target, hn, hl, hg⟩
    · rw [he.stride] at hs ⊢
      rw [(h.enters he).stride, ih hs]
    · rw [Meets.stride ⟨hn, hl, hg⟩, Meets.stride ⟨hn, hl, h.link hg⟩]

theorem KeepsWays.follow (h : KeepsWays t u) {links : Nat}
    (hf : t.follow links dir segments = .ok (.directory loc)) :
    u.follow links dir segments = .ok (.directory loc) := by
  induction links using Nat.strongRecOn generalizing dir segments with
  | ind links ih =>
    rcases follow_eq_directory_iff.mp hf with hs | ⟨n, d, target, rest, rfl, hs, hr⟩
    · refine follow_eq_directory_iff.mpr (.inl ?_)
      rw [h.stride (by rw [hs]; trivial), hs]
    · refine follow_eq_directory_iff.mpr (.inr ⟨n, d, target, rest, rfl, ?_, ?_⟩)
      · rw [h.stride (by rw [hs]; trivial), hs]
      · exact ih n (Nat.lt_succ_self n) hr

theorem directoryFrom_eq_ok_iff :
    t.directoryFrom dir segments = .ok loc ↔
      t.follow maxLinks dir segments = .ok (.directory loc) := by
  unfold directoryFrom
  cases t.follow maxLinks dir segments with
  | error e => simp [bind, Except.bind]
  | ok p => cases p <;> simp [bind, Except.bind]

theorem KeepsWays.resolve (h : KeepsWays t u) (hr : t.resolve path = .ok (.directory loc)) :
    u.resolve path = .ok (.directory loc) := by
  unfold FileTree.resolve at hr ⊢
  cases hc : checkPath path with
  | error e => simp [hc, bind, Except.bind] at hr
  | ok _ =>
    simp only [hc, bind, Except.bind] at hr ⊢
    rw [h.origin]
    exact h.follow hr

end Ways

section Ends

theorem checkPath_of_resolve {p : Place} (h : t.resolve path = .ok p) :
    checkPath path = .ok () := by
  cases hc : checkPath path with
  | error e => simp [FileTree.resolve, hc, bind, Except.bind] at h
  | ok _ => rfl

theorem readBytes_eq_ok_iff {bytes : ByteArray} :
    t.readBytes path = .ok bytes ↔ ∃ loc, t.resolve path = .ok (.file loc bytes) := by
  unfold readBytes
  cases t.resolve path with
  | error e => simp [bind, Except.bind]
  | ok p => cases p <;> simp [bind, Except.bind]

theorem isFileAt_iff :
    t.isFileAt path = true ↔ ∃ loc bytes, t.resolve path = .ok (.file loc bytes) := by
  unfold isFileAt
  cases t.resolve path with
  | error e => simp
  | ok p => cases p <;> simp

end Ends

section Append

theorem stride_append_of_directory {rest : List String}
    (h : t.stride dir segments = .place (.directory loc)) :
    t.stride dir (segments ++ rest) = t.stride loc rest := by
  induction segments generalizing dir with
  | nil =>
    simp only [stride, Stop.place.injEq, Place.directory.injEq] at h
    rw [List.nil_append, h]
  | cons name front ih =>
    rw [List.cons_append]
    rcases enters_or_meets (by rw [h]; trivial) with ⟨d, he⟩ | ⟨target, hm⟩
    · rw [he.stride] at h ⊢
      exact ih h
    · rw [hm.stride] at h
      cases h

theorem stride_append_of_link {d : Location} {target : String} {left rest : List String}
    (h : t.stride dir segments = .link d target left) :
    t.stride dir (segments ++ rest) = .link d target (left ++ rest) := by
  induction segments generalizing dir with
  | nil => cases h
  | cons name front ih =>
    rw [List.cons_append]
    rcases enters_or_meets (by rw [h]; trivial) with ⟨d, he⟩ | ⟨target, hm⟩
    · rw [he.stride] at h ⊢
      exact ih h
    · rw [hm.stride] at h ⊢
      cases h
      rfl

theorem isWay_of_append {rest : List String} (h : (t.stride dir (segments ++ rest)).IsWay) :
    (t.stride dir segments).IsWay := by
  induction segments generalizing dir with
  | nil => trivial
  | cons name front ih =>
    rw [List.cons_append] at h
    rcases enters_or_meets h with ⟨d, he⟩ | ⟨target, hm⟩
    · rw [he.stride] at h ⊢
      exact ih h
    · rw [hm.stride]
      trivial

theorem isWay_cases {s : Stop} (h : s.IsWay) :
    (∃ loc, s = .place (.directory loc)) ∨ ∃ d target rest, s = .link d target rest := by
  unfold Stop.IsWay at h
  split at h
  · exact .inl ⟨_, rfl⟩
  · exact .inr ⟨_, _, _, rfl⟩
  · cases h

/-- What follows a way to a directory is followed from that directory, through no more links
than are left. -/
theorem follow_append {links : Nat} {rest : List String} {r : Except IoError Place}
    (h : t.follow links dir segments = .ok (.directory loc))
    (hr : ∀ n, t.follow n loc rest = r) : t.follow links dir (segments ++ rest) = r := by
  induction links using Nat.strongRecOn generalizing dir segments with
  | ind links ih =>
    rcases follow_eq_directory_iff.mp h with hs | ⟨n, d, target, left, rfl, hs, hf⟩
    · rw [← hr links, follow_congr (stride_append_of_directory hs)]
    · rw [follow_of_link (stride_append_of_link hs), ← List.append_assoc]
      exact ih n (Nat.lt_succ_self n) hf

theorem follow_dot (t : FileTree) (links : Nat) (dir : Location) :
    t.follow links dir ["."] = .ok (.directory dir) := by
  unfold follow
  simp [stride]

theorem exists_of_follow_append {links : Nat} {rest : List String}
    (h : t.follow links dir (segments ++ rest) = .ok (.directory loc)) :
    ∃ d, t.follow links dir segments = .ok (.directory d) := by
  induction links using Nat.strongRecOn generalizing dir segments with
  | ind links ih =>
    have hcases := follow_eq_directory_iff.mp h
    have hw : (t.stride dir (segments ++ rest)).IsWay := by
      rcases hcases with hs | ⟨n, d, target, left, -, hs, -⟩ <;> rw [hs] <;> trivial
    rcases isWay_cases (isWay_of_append hw) with ⟨d, hd⟩ | ⟨d, target, left, hd⟩
    · exact ⟨d, follow_eq_directory_iff.mpr (.inl hd)⟩
    · rw [stride_append_of_link hd] at hcases
      rcases hcases with hs | ⟨n, d', target', left', rfl, hs, hf⟩
      · cases hs
      · cases hs
        rw [← List.append_assoc] at hf
        obtain ⟨l, hl⟩ := ih n (Nat.lt_succ_self n) hf
        exact ⟨l, follow_eq_directory_iff.mpr (.inr ⟨n, _, _, _, rfl, hd, hl⟩)⟩

theorem follow_of_append_dot {links : Nat}
    (h : t.follow links dir (segments ++ ["."]) = .ok (.directory loc)) :
    t.follow links dir segments = .ok (.directory loc) := by
  obtain ⟨d, hd⟩ := exists_of_follow_append h
  have hdot := follow_append hd fun n => follow_dot t n d
  rw [h] at hdot
  cases hdot
  exact hd

end Append

end FileTree

end ShellDocs.Files
