import ShellDocs.Proofs.Files.Slot

/-! # Making directories

Making a directory and those above it adds directories where nothing stood, each of them on
the way of the path, and changes nothing else. This holds as well when the last of them
cannot be made.
-/

namespace ShellDocs.Files

inductive Path.Through (path : String) : String → Prop where
  | self : Through path path
  | parent {p q : String} : Through path p → Path.parent? p = some q → Through path q

theorem Path.Through.trans {path p q : String} (h : Through path p) (h' : Through p q) :
    Through path q := by
  induction h' with
  | self => exact h
  | parent _ hp ih => exact .parent ih hp

namespace FileTree

variable {t u v : FileTree} {dir loc : Location} {name path p : String}

/-- A directory stands in `u` where nothing stood in `t`, and it is on the way of the path. -/
structure MadeOnWay (t u : FileTree) (path : String) (loc : Location) : Prop where
  vacant : t.get? loc = none
  made : u.get? loc = some .directory
  onWay : ∃ p, Path.Through path p ∧ u.LeadsTo p loc

/-- The tree `u` is `t` with directories made on the way of the path. -/
structure Grows (t u : FileTree) (path : String) : Prop where
  cwd : u.cwd = t.cwd
  get? : ∀ loc, u.get? loc = t.get? loc ∨ MadeOnWay t u path loc

theorem Grows.refl (t : FileTree) (path : String) : Grows t t path := ⟨rfl, fun _ => .inl rfl⟩

theorem Grows.get?_of_some (h : Grows t u path) {node : Node} (hg : t.get? loc = some node) :
    u.get? loc = some node := by
  rcases h.get? loc with he | hm
  · rw [he, hg]
  · rw [hm.vacant] at hg
    cases hg

theorem Grows.keepsWays (h : Grows t u path) : KeepsWays t u :=
  ⟨h.get?_of_some, h.get?_of_some, h.cwd⟩

theorem Grows.get?_eq_some_iff (h : Grows t u path) {node : Node} (hn : node ≠ .directory) :
    u.get? loc = some node ↔ t.get? loc = some node := by
  refine ⟨fun hu => ?_, h.get?_of_some⟩
  rcases h.get? loc with he | hm
  · rw [← he, hu]
  · rw [hm.made, Option.some.injEq] at hu
    exact absurd hu.symm hn

theorem Grows.trans (h : Grows t u p) (h' : Grows u v path) (hp : Path.Through path p) :
    Grows t v path := by
  refine ⟨h'.cwd.trans h.cwd, fun loc => ?_⟩
  rcases h.get? loc with he | ⟨hn, hm, q, hq, hl⟩
  · rcases h'.get? loc with he' | ⟨hn, hm, hw⟩
    · exact .inl (he'.trans he)
    · exact .inr ⟨he ▸ hn, hm, hw⟩
  · have hl' : v.LeadsTo q loc := h'.keepsWays.leadsTo hl
    exact .inr ⟨hn, h'.get?_of_some hm, q, hp.trans hq, hl'⟩

section Single

theorem makeDirectory_eq_ok (h : t.makeDirectory path = .ok u) :
    ∃ dir name, t.slot path = .ok (dir, name) ∧ t.MayPut dir name ∧
      t.get? (dir ++ [name]) = none ∧ u = t.put dir name .directory := by
  unfold makeDirectory at h
  cases hs : t.slot path with
  | error e => simp [hs, bind, Except.bind] at h
  | ok s =>
    obtain ⟨dir, name⟩ := s
    simp only [hs, bind, Except.bind] at h
    split at h
    · cases h
    · rename_i hc
      obtain ⟨hd, hv⟩ := not_or.mp hc
      have hn : t.get? (dir ++ [name]) = none := by simpa using hv
      cases h
      refine ⟨dir, name, rfl, ⟨isDirectory_of_slot hs, isName_of_slot hs hd, ?_⟩, hn, rfl⟩
      rw [isDirectory_iff, hn]
      simp

theorem leadsTo_of_slot (h : t.slot path = .ok (dir, name)) (hn : IsName name)
    (hg : t.get? (dir ++ [name]) = some .directory) : t.LeadsTo path (dir ++ [name]) := by
  obtain ⟨hc, ⟨-, rfl, -⟩ | ⟨front, hs, hf, hl⟩⟩ := slot_cases h
  · exact absurd rfl hn.2.1
  · refine leadsTo_iff_follow.mpr ⟨fun _ => hc, ?_⟩
    rw [hs]
    exact follow_append hf (follow_singleton hn hl hg rfl)

theorem makeDirectory_grows (h : t.makeDirectory path = .ok u) : Grows t u path := by
  obtain ⟨dir, name, hs, hput, hn, rfl⟩ := makeDirectory_eq_ok h
  refine ⟨cwd_put .., fun loc => ?_⟩
  by_cases hl : loc = dir ++ [name]
  · have hk : KeepsWays t (t.put dir name .directory) := keepsWays_put_of_none hn _
    subst hl
    refine .inr ⟨hn, get?_put_self hput _, path, .self, ?_⟩
    exact leadsTo_of_slot (hk.slot hs) hput.2.1 (get?_put_self hput _)
  · exact .inl (get?_put_of_ne hl _)

theorem ensureDirectory_grows (h : t.ensureDirectory path = .ok u) : Grows t u path := by
  unfold ensureDirectory at h
  split at h
  · rename_i v hm
    cases h
    exact makeDirectory_grows hm
  · split at h
    · cases h
      exact .refl t path
    · cases h

end Single

theorem createDirectoriesWith_grows (fuel : Nat) (t : FileTree) (path : String) :
    Grows t (createDirectoriesWith fuel t path).1 path := by
  induction fuel generalizing t path with
  | zero => exact .refl t path
  | succ fuel ih =>
    unfold createDirectoriesWith
    split
    · exact .refl t path
    split
    · rename_i u hm
      exact makeDirectory_grows hm
    · split
      · exact .refl t path
      · -- The parent comes first, and its ways are those of the path.
        rename_i parent hp
        have hpar := ih t parent
        have hway : Path.Through path parent := .parent .self hp
        split
        · rename_i u e hc
          rw [hc] at hpar
          exact hpar.trans (.refl u path) hway
        · rename_i u hc
          rw [hc] at hpar
          split
          · rename_i v hv
            exact hpar.trans (ensureDirectory_grows hv) hway
          · exact hpar.trans (.refl u path) hway
    · split <;> exact .refl t path

theorem createDirectories_grows (t : FileTree) (path : String) :
    Grows t (t.createDirectories path).1 path :=
  createDirectoriesWith_grows ..

section Present

theorem makeDirectory_of_leadsTo (hp : path ≠ "") (h : t.LeadsTo path loc) :
    t.makeDirectory path = .error .alreadyExists := by
  obtain ⟨hc, hf⟩ := leadsTo_iff_follow.mp h
  rcases List.eq_nil_or_concat' (Path.segments path) with hs | ⟨front, name, hs⟩
  · simp [makeDirectory, slot_of_segments_nil (hc hp) hs, bind, Except.bind, isDots]
  · rw [hs] at hf
    obtain ⟨d, hd⟩ := exists_of_follow_append hf
    have hslot : name.utf8ByteSize ≤ maxName → t.slot path = .ok (d, name) :=
      slot_of_follow (hc hp) hs hd
    by_cases hdots : isDots name
    · have hlen : name.utf8ByteSize ≤ maxName := by
        rcases (Bool.or_eq_true _ _).mp hdots with hdot | hdot
        all_goals
          rw [of_decide_eq_true hdot]
          decide
      simp [makeDirectory, hslot hlen, bind, Except.bind, hdots]
    · have hm : name ∈ Path.segments path := by simp [hs]
      have hn : IsName name := isName_of_mem_segments hm hdots
      have hlen : name.utf8ByteSize ≤ maxName := by
        by_contra hlong
        rw [follow_append hd (follow_singleton_of_lt hn (Nat.lt_of_not_le hlong) d)] at hf
        cases hf
      have hsome : (t.get? (d ++ [name])).isSome := by
        by_contra hnone
        have hg : t.get? (d ++ [name]) = none := by simpa using hnone
        rw [follow_append hd (follow_singleton_of_none hn hlen hg)] at hf
        cases hf
      simp only [makeDirectory, hslot hlen, bind, Except.bind]
      rw [if_pos (.inr hsome)]

theorem createDirectories_of_leadsTo (h : t.LeadsTo path loc) :
    t.createDirectories path = (t, .ok ()) := by
  unfold createDirectories createDirectoriesWith
  split
  · rfl
  · rename_i hp
    have hr : t.resolve path = .ok (.directory loc) := by
      rwa [LeadsTo, if_neg hp] at h
    rw [makeDirectory_of_leadsTo hp h]
    simp only [isDirectoryAt, hr, if_true]

end Present

end FileTree

end ShellDocs.Files
