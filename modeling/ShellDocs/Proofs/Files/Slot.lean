import ShellDocs.Proofs.Files.Resolve

/-! # Slots

The slot of a path is the directory and the name under which the path would put a file. For
a name joined to a path it is the directory that the path leads to, with that name.
-/

namespace ShellDocs.Files

/-- Where a node at a location leads, if it leads nowhere else. -/
def Node.place? (loc : Location) : Node → Option Place
  | .directory => some (.directory loc)
  | .file contents => some (.file loc contents)
  | .link _ => none

namespace FileTree

variable {t u : FileTree} {dir loc : Location} {name path base : String}

theorem slot_of_segments_nil (hc : checkPath path = .ok ()) (hs : Path.segments path = []) :
    t.slot path = .ok ([], ".") := by
  unfold slot
  simp [bind, Except.bind, hc, hs]

theorem slot_of_segments {front : List String} (hc : checkPath path = .ok ())
    (hs : Path.segments path = front ++ [name]) :
    t.slot path = (t.directoryFrom (t.origin path) front).bind fun dir =>
      if maxName < name.utf8ByteSize then .error .nameTooLong else .ok (dir, name) := by
  unfold slot
  simp [bind, hc, Except.bind, hs]

theorem slot_of_follow {front : List String} (hc : checkPath path = .ok ())
    (hs : Path.segments path = front ++ [name])
    (hf : t.follow maxLinks (t.origin path) front = .ok (.directory dir))
    (hl : name.utf8ByteSize ≤ maxName) : t.slot path = .ok (dir, name) := by
  rw [slot_of_segments hc hs, directoryFrom_eq_ok_iff.mpr hf]
  exact if_neg (by omega)

theorem slot_cases (h : t.slot path = .ok (dir, name)) :
    checkPath path = .ok () ∧ (dir = [] ∧ name = "." ∧ Path.segments path = [] ∨
      ∃ front, Path.segments path = front ++ [name] ∧
        t.follow maxLinks (t.origin path) front = .ok (.directory dir) ∧
        name.utf8ByteSize ≤ maxName) := by
  cases hc : checkPath path with
  | error e => simp [slot, bind, Except.bind, hc] at h
  | ok _ =>
    refine ⟨rfl, ?_⟩
    rcases List.eq_nil_or_concat' (Path.segments path) with hs | ⟨front, last, hs⟩
    · rw [slot_of_segments_nil hc hs] at h
      cases h
      exact .inl ⟨rfl, rfl, hs⟩
    · rw [slot_of_segments hc hs] at h
      cases hd : t.directoryFrom (t.origin path) front with
      | error e =>
        rw [hd] at h
        cases h
      | ok d =>
        rw [hd, Except.bind] at h
        split at h
        · cases h
        · cases h
          exact .inr ⟨front, hs, directoryFrom_eq_ok_iff.mp hd, by omega⟩

theorem isDirectory_origin (t : FileTree) (path : String) : t.IsDirectory (t.origin path) := by
  unfold origin
  split
  · exact .inl rfl
  · exact t.cwd_isDirectory

theorem isDirectory_of_slot (h : t.slot path = .ok (dir, name)) : t.IsDirectory dir := by
  rcases (slot_cases h).2 with ⟨rfl, -, -⟩ | ⟨front, -, hf, -⟩
  · exact .inl rfl
  · exact follow_isDirectory (t.isDirectory_origin path) hf

theorem isName_of_mem_segments (h : name ∈ Path.segments path) (hn : ¬ isDots name) :
    IsName name := by
  obtain ⟨hne, hsl⟩ := Path.mem_segments h
  obtain ⟨hdot, hdots⟩ := not_isDots_iff.mp hn
  exact ⟨hne, hdot, hdots, hsl⟩

theorem isName_of_slot (h : t.slot path = .ok (dir, name)) (hn : ¬ isDots name) : IsName name := by
  rcases (slot_cases h).2 with ⟨-, rfl, -⟩ | ⟨front, hs, -, -⟩
  · exact absurd rfl (not_isDots_iff.mp hn).1
  · have hm : name ∈ Path.segments path := by simp [hs]
    exact isName_of_mem_segments hm hn

theorem KeepsWays.slot (h : KeepsWays t u) (hs : t.slot path = .ok (dir, name)) :
    u.slot path = .ok (dir, name) := by
  obtain ⟨hc, ⟨rfl, rfl, hn⟩ | ⟨front, hf, hd, hl⟩⟩ := slot_cases hs
  · exact slot_of_segments_nil hc hn
  · refine slot_of_follow hc hf ?_ hl
    rw [h.origin]
    exact h.follow hd

section Joined

/-- The directory that a path leads to. The empty path leads to where relative paths start. -/
def LeadsTo (t : FileTree) (path : String) (loc : Location) : Prop :=
  if path = "" then loc = t.cwd else t.resolve path = .ok (.directory loc)

theorem KeepsWays.leadsTo (h : KeepsWays t u) (hl : t.LeadsTo path loc) : u.LeadsTo path loc := by
  unfold LeadsTo at hl ⊢
  split
  · rename_i hp
    rw [if_pos hp] at hl
    rw [hl, h.cwd]
  · rename_i hp
    rw [if_neg hp] at hl
    exact h.resolve hl

theorem LeadsTo.unique {loc' : Location} (h : t.LeadsTo path loc) (h' : t.LeadsTo path loc') :
    loc = loc' := by
  unfold LeadsTo at h h'
  by_cases hp : path = ""
  · rw [if_pos hp] at h h'
    rw [h, h']
  · rw [if_neg hp] at h h'
    rw [h] at h'
    cases h'
    rfl

theorem checkPath_eq_ok_iff :
    checkPath path = .ok () ↔
      '\x00' ∉ path.toList ∧ path ≠ "" ∧ path.utf8ByteSize ≤ maxPath := by
  unfold checkPath
  split
  · simp_all
  split
  · simp_all
  split
  · simp_all
  · simp_all

theorem checkPath_of_join (hn : IsName name) (hb : base ≠ "")
    (h : checkPath (Path.join base name) = .ok ()) : checkPath base = .ok () := by
  obtain ⟨gap, hg⟩ := Path.exists_join_eq base hn
  obtain ⟨hz, -, hl⟩ := checkPath_eq_ok_iff.mp h
  rw [hg] at hz hl
  refine checkPath_eq_ok_iff.mpr ⟨fun h => hz (by simp [h]), hb, ?_⟩
  simp only [String.utf8ByteSize_append] at hl
  omega

theorem origin_join (t : FileTree) (base : String) (hn : IsName name) :
    t.origin (Path.join base name) = t.origin base := by
  rw [origin, origin, Path.isAbsolute_join base hn]

theorem isDirectory_of_leadsTo (h : t.LeadsTo base loc) : t.IsDirectory loc := by
  unfold LeadsTo at h
  split at h
  · exact h ▸ t.cwd_isDirectory
  · exact resolve_isDirectory h

theorem leadsTo_iff_follow :
    t.LeadsTo base loc ↔ (base ≠ "" → checkPath base = .ok ()) ∧
      t.follow maxLinks (t.origin base) (Path.segments base) = .ok (.directory loc) := by
  unfold LeadsTo
  by_cases hb : base = ""
  · subst hb
    simp [Path.segments, Path.rawSegments, Text.splitOn, follow, stride, origin,
      Path.isAbsolute, eq_comm]
  · rw [if_neg hb]
    unfold resolve
    cases hc : checkPath base with
    | error e => simp [bind, Except.bind, hb]
    | ok _ =>
      simp only [bind, Except.bind, route, implies_true, true_and]
      split
      · exact ⟨follow_of_append_dot, fun hf => follow_append hf fun n => follow_dot t n loc⟩
      · rw [List.append_nil]

theorem leadsTo_of_slot_join {last : String} (hn : IsName name)
    (h : t.slot (Path.join base name) = .ok (dir, last)) : last = name ∧ t.LeadsTo base dir := by
  obtain ⟨hc, ⟨-, -, hs⟩ | ⟨front, hs, hf, -⟩⟩ := slot_cases h
  · rw [Path.segments_join base hn] at hs
    simp at hs
  · rw [Path.segments_join base hn] at hs
    obtain ⟨rfl, hl⟩ := List.append_inj' hs rfl
    rw [origin_join t base hn] at hf
    refine ⟨by simpa using hl.symm, leadsTo_iff_follow.mpr ⟨fun hb => ?_, hf⟩⟩
    exact checkPath_of_join hn hb hc

/-- Where a joined path leads is decided in the directory that the path before the name leads
to. -/
theorem resolve_join_eq {r : Except IoError Place} (hn : IsName name) (hl : t.LeadsTo base dir)
    (hr : ∀ links, t.follow links dir [name] = r) :
    t.resolve (Path.join base name) = (checkPath (Path.join base name)).bind fun _ => r := by
  unfold resolve
  simp only [bind, route, if_neg (Path.not_endsInSlash_join base hn), List.append_nil,
    Path.segments_join base hn, origin_join t base hn]
  rw [follow_append (leadsTo_iff_follow.mp hl).2 hr]

theorem follow_singleton {node : Node} {p : Place} (hn : IsName name)
    (hlen : name.utf8ByteSize ≤ maxName) (hg : t.get? (dir ++ [name]) = some node)
    (hp : node.place? (dir ++ [name]) = some p) (links : Nat) :
    t.follow links dir [name] = .ok p := by
  unfold follow
  rw [stride, if_neg hn.2.1, if_neg hn.2.2.1, if_neg (by omega), hg]
  cases node with
  | directory | file =>
    cases hp
    rfl
  | link target => cases hp

theorem follow_singleton_of_lt (hn : IsName name) (hlen : maxName < name.utf8ByteSize)
    (dir : Location) (links : Nat) : t.follow links dir [name] = .error .nameTooLong := by
  unfold follow
  rw [stride, if_neg hn.2.1, if_neg hn.2.2.1, if_pos hlen]

theorem follow_singleton_of_none (hn : IsName name) (hlen : name.utf8ByteSize ≤ maxName)
    (hg : t.get? (dir ++ [name]) = none) (links : Nat) :
    t.follow links dir [name] = .ok (.vacant dir name) := by
  unfold follow
  rw [stride, if_neg hn.2.1, if_neg hn.2.2.1, if_neg (by omega), hg]
  rfl

theorem le_maxName_of_resolve_join {p : Place} (hn : IsName name) (hl : t.LeadsTo base dir)
    (h : t.resolve (Path.join base name) = .ok p) : name.utf8ByteSize ≤ maxName := by
  by_contra hlt
  have hlong := follow_singleton_of_lt (t := t) hn (Nat.lt_of_not_le hlt) dir
  have hc := checkPath_of_resolve h
  rw [resolve_join_eq hn hl hlong, hc] at h
  cases h

theorem resolve_join_of_place {node : Node} {p : Place} (hn : IsName name) (hl : t.LeadsTo base dir)
    (hc : checkPath (Path.join base name) = .ok ()) (hlen : name.utf8ByteSize ≤ maxName)
    (hg : t.get? (dir ++ [name]) = some node) (hp : node.place? (dir ++ [name]) = some p) :
    t.resolve (Path.join base name) = .ok p := by
  rw [resolve_join_eq hn hl (follow_singleton hn hlen hg hp), hc]
  rfl

theorem resolve_join {c : ByteArray} (hn : IsName name) (hl : t.LeadsTo base dir)
    (hc : checkPath (Path.join base name) = .ok ()) (hlen : name.utf8ByteSize ≤ maxName)
    (hg : t.get? (dir ++ [name]) = some (.file c)) :
    t.resolve (Path.join base name) = .ok (.file (dir ++ [name]) c) :=
  resolve_join_of_place hn hl hc hlen hg rfl

theorem eq_of_resolve_join {node : Node} {p q : Place} (hn : IsName name)
    (hl : t.LeadsTo base dir) (hg : t.get? (dir ++ [name]) = some node)
    (hp : node.place? (dir ++ [name]) = some p) (hq : t.resolve (Path.join base name) = .ok q) :
    q = p := by
  cases hc : checkPath (Path.join base name) with
  | error e => simp [resolve, hc, bind, Except.bind] at hq
  | ok _ =>
    rcases Nat.lt_or_ge maxName name.utf8ByteSize with hlen | hlen
    · rw [resolve_join_eq hn hl (follow_singleton_of_lt hn hlen dir), hc] at hq
      cases hq
    · rw [resolve_join_of_place hn hl hc hlen hg hp] at hq
      cases hq
      rfl

end Joined

end FileTree

end ShellDocs.Files
