import ShellDocs.Proofs.Files.Create

/-! # Trees without links

In a tree without links a path is followed in one stride. It leads to a directory, or to a name in
a directory, and what is done to a file under that name is not seen on any other way.
-/

namespace ShellDocs.Files

/-- A path leads to a name in a directory: to the file there, or to nothing. -/
inductive FileTree.EndsAt (t : FileTree) (dir : Location) (name : String) : Place → Prop where
  | file {contents : ByteArray} : t.get? (dir ++ [name]) = some (.file contents) →
      EndsAt t dir name (.file (dir ++ [name]) contents)
  | vacant : t.get? (dir ++ [name]) = none → EndsAt t dir name (.vacant dir name)

def FileTree.IsFileOrNone (t : FileTree) (loc : Location) : Prop :=
  t.get? loc = none ∨ ∃ contents, t.get? loc = some (.file contents)

namespace FileTree

variable {t u : FileTree} {start dir loc : Location} {name path : String}
  {segments : List String} {p : Place}

def NoLinks (t : FileTree) : Prop := ∀ loc target, t.get? loc ≠ some (.link target)

theorem KeepsWays.noLinks (h : KeepsWays u t) (ht : t.NoLinks) : u.NoLinks :=
  fun loc target hu => ht loc target (h.link hu)

theorem Grows.noLinks (h : Grows t u path) (ht : t.NoLinks) : u.NoLinks :=
  fun loc target hu => ht loc target ((h.get?_eq_some_iff (by simp)).mp hu)

theorem noLinks_iff : t.NoLinks ↔ ∀ e ∈ t.nodes.entries, e.2.place? e.1 ≠ none := by
  constructor
  · rintro ht ⟨loc, node⟩ he hp
    cases node with
    | link target =>
      have hg := OrderedMap.mem_entries_iff.mp he
      have hne : loc ≠ [] := by
        rintro rfl
        rw [nodes_get?_nil] at hg
        cases hg
      exact ht loc target (by rw [get?_of_ne_nil hne, hg])
    | _ => cases hp
  · intro h loc target hg
    have hne : loc ≠ [] := by
      rintro rfl
      rw [get?_nil] at hg
      cases hg
    rw [get?_of_ne_nil hne] at hg
    exact h (loc, .link target) (OrderedMap.mem_entries_iff.mpr hg) rfl

instance : Decidable t.NoLinks := decidable_of_iff' _ noLinks_iff

section Strides

theorem stride_ne_link (ht : t.NoLinks) {target : String} {rest : List String} :
    t.stride start segments ≠ .link dir target rest := by
  induction segments generalizing start with
  | nil => exact nofun
  | cons name rest ih =>
    intro h
    rcases enters_or_meets (by rw [h]; trivial) with ⟨d, he⟩ | ⟨target, hm⟩
    · rw [he.stride] at h
      exact ih h
    · exact ht _ _ hm.link

theorem follow_eq_ok_iff (ht : t.NoLinks) {links : Nat} :
    t.follow links start segments = .ok p ↔ t.stride start segments = .place p := by
  unfold follow
  cases hs : t.stride start segments with
  | place q => simp
  | failed e => simp
  | link d target rest => exact absurd hs (stride_ne_link ht)

theorem enters_or_endsAt {rest : List String} (h : t.stride dir (name :: rest) = .place p) :
    (∃ d, Enters t dir name d) ∨
      rest = [] ∧ ¬ isDots name ∧ name.utf8ByteSize ≤ maxName ∧ EndsAt t dir name p := by
  rw [stride] at h
  split at h
  · rename_i hd
    subst hd
    exact .inl ⟨dir, .stay⟩
  rename_i hdot
  split at h
  · rename_i hd
    subst hd
    exact .inl ⟨dir.dropLast, .up⟩
  rename_i hdots
  have hn : ¬ isDots name := not_isDots_iff.mpr ⟨hdot, hdots⟩
  split at h
  · cases h
  rename_i hlen
  split at h
  · rename_i hg
    exact .inl ⟨_, .down hn (by omega) hg⟩
  · rename_i hg
    split at h
    · rename_i hrest
      cases h
      exact .inr ⟨hrest, hn, by omega, .file hg⟩
    · cases h
  · cases h
  · rename_i hg
    split at h
    · rename_i hrest
      cases h
      exact .inr ⟨hrest, hn, by omega, .vacant hg⟩
    · cases h

/-- A stride that does not end in a directory ends under the last of its names. -/
theorem exists_of_stride (h : t.stride start segments = .place p)
    (hp : ∀ loc, p ≠ .directory loc) :
    ∃ front dir name, segments = front ++ [name] ∧ t.stride start front = .place (.directory dir) ∧
      ¬ isDots name ∧ name.utf8ByteSize ≤ maxName ∧ EndsAt t dir name p := by
  induction segments generalizing start with
  | nil =>
    cases h
    exact absurd rfl (hp start)
  | cons name rest ih =>
    rcases enters_or_endsAt h with ⟨d, he⟩ | ⟨rfl, hlast⟩
    · rw [he.stride] at h
      obtain ⟨front, dir, last, rfl, hd, hlast⟩ := ih h
      exact ⟨name :: front, dir, last, rfl, by rw [he.stride, hd], hlast⟩
    · exact ⟨[], start, name, rfl, rfl, hlast⟩

end Strides

section Slots

theorem EndsAt.isFileOrNone (h : EndsAt t dir name p) : t.IsFileOrNone (dir ++ [name]) := by
  cases h with
  | file hg => exact .inr ⟨_, hg⟩
  | vacant hg => exact .inl hg

theorem IsFileOrNone.not_isDirectory (h : t.IsFileOrNone loc) : ¬ t.IsDirectory loc := by
  rw [isDirectory_iff]
  rcases h with h | ⟨c, h⟩ <;> simp [h]

/-- Without links a path that does not lead to a directory leads to its slot. -/
theorem exists_slot_of_resolve (ht : t.NoLinks) (h : t.resolve path = .ok p)
    (hp : ∀ loc, p ≠ .directory loc) :
    ∃ front dir name, Path.segments path = front ++ [name] ∧ t.slot path = .ok (dir, name) ∧
      t.MayPut dir name ∧ EndsAt t dir name p := by
  have hc := checkPath_of_resolve h
  have hstride : t.stride (t.origin path) (route path) = .place p := by
    simpa [resolve, hc, bind, Except.bind, follow_eq_ok_iff ht] using h
  obtain ⟨front, dir, name, hroute, hd, hdots, hlen, hend⟩ := exists_of_stride hstride hp
  have hs : Path.segments path = front ++ [name] := by
    unfold route at hroute
    split at hroute
    · obtain ⟨-, hdot⟩ := List.append_inj' hroute rfl
      exact absurd (List.singleton_inj.mp hdot).symm (not_isDots_iff.mp hdots).1
    · rwa [List.append_nil] at hroute
  have hslot := slot_of_follow hc hs ((follow_eq_ok_iff ht).mpr hd) hlen
  refine ⟨front, dir, name, hs, hslot, ⟨isDirectory_of_slot hslot, ?_, ?_⟩, hend⟩
  · exact isName_of_slot hslot hdots
  · exact hend.isFileOrNone.not_isDirectory

end Slots

section Edits

/-- Two trees that differ in nothing but a file under one name, which may be missing in either. -/
structure DiffersAt (t u : FileTree) (loc : Location) : Prop where
  cwd : u.cwd = t.cwd
  get?_of_ne : ∀ l ≠ loc, u.get? l = t.get? l
  before : t.IsFileOrNone loc
  after : u.IsFileOrNone loc

theorem DiffersAt.symm (h : DiffersAt t u loc) : DiffersAt u t loc :=
  ⟨h.cwd.symm, fun l hl => (h.get?_of_ne l hl).symm, h.after, h.before⟩

theorem DiffersAt.keepsWays (h : DiffersAt t u loc) : KeepsWays t u := by
  have hother : ∀ {l node}, t.get? l = some node → (∀ c, node ≠ .file c) →
      u.get? l = some node := by
    intro l node hg hf
    rw [h.get?_of_ne, hg]
    rintro rfl
    rcases h.before with hn | ⟨c, hc⟩
    · rw [hn] at hg
      cases hg
    · rw [hc, Option.some.injEq] at hg
      exact hf c hg.symm
  exact ⟨fun hg => hother hg nofun, fun hg => hother hg nofun, h.cwd⟩

theorem differsAt_put (hput : t.MayPut dir name) (hb : t.IsFileOrNone (dir ++ [name]))
    (c : ByteArray) : DiffersAt t (t.put dir name (.file c)) (dir ++ [name]) where
  cwd := cwd_put ..
  get?_of_ne _ hl := get?_put_of_ne hl _
  before := hb
  after := .inr ⟨c, get?_put_self hput _⟩

theorem differsAt_remove (hb : t.IsFileOrNone loc) : DiffersAt t (t.remove loc) loc where
  cwd := cwd_remove hb.not_isDirectory
  get?_of_ne l hl := by rw [get?_remove hb.not_isDirectory, if_neg hl]
  before := hb
  after := .inl (by rw [get?_remove hb.not_isDirectory, if_pos rfl])

/-- A single file is created, overwritten or deleted under a path. -/
inductive Edits (t : FileTree) (path : String) : FileTree → Prop where
  | write {contents : ByteArray} {u : FileTree} : t.writeFile path contents = .ok u →
      Edits t path u
  | delete {u : FileTree} : t.isFileAt path = true → t.removeAt path = .ok u → Edits t path u

theorem writeFile_of_endsAt (hr : t.resolve path = .ok p) (he : EndsAt t dir name p)
    (c : ByteArray) : t.writeFile path c = .ok (t.put dir name (.file c)) := by
  cases he with
  | file _ => simp [writeFile, hr, bind, Except.bind]
  | vacant _ => simp [writeFile, hr, bind, Except.bind]

theorem writeFile_directory (hr : t.resolve path = .ok (.directory loc)) (c : ByteArray) :
    t.writeFile path c = .error .isDirectory := by
  simp [writeFile, hr, bind, Except.bind]

/-- Without links an edit changes the file under the last name of the path. -/
theorem Edits.exists_differsAt (ht : t.NoLinks) (h : Edits t path u) :
    ∃ front dir name, Path.segments path = front ++ [name] ∧ IsName name ∧
      DiffersAt t u (dir ++ [name]) := by
  cases h with
  | @write c _ h =>
    cases hr : t.resolve path with
    | error e => simp [writeFile, hr, bind, Except.bind] at h
    | ok p =>
      have hp : ∀ loc, p ≠ .directory loc := by
        rintro loc rfl
        rw [writeFile_directory hr] at h
        cases h
      obtain ⟨front, dir, name, hs, -, hput, hend⟩ := exists_slot_of_resolve ht hr hp
      rw [writeFile_of_endsAt hr hend] at h
      cases h
      exact ⟨front, dir, name, hs, hput.2.1, differsAt_put hput hend.isFileOrNone c⟩
  | delete hf h =>
    obtain ⟨loc, c, hr⟩ := isFileAt_iff.mp hf
    obtain ⟨front, dir, name, hs, hslot, hput, hend⟩ := exists_slot_of_resolve ht hr nofun
    have hu : u = t.remove (dir ++ [name]) := by
      unfold removeAt at h
      simp only [hslot, bind, Except.bind] at h
      split at h
      · cases h
      split at h
      · cases h
      · exact (Except.ok.inj h).symm
    exact ⟨front, dir, name, hs, hput.2.1, hu ▸ differsAt_remove hend.isFileOrNone⟩

end Edits

end FileTree

end ShellDocs.Files
