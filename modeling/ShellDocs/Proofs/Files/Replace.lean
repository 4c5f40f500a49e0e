import ShellDocs.Files.Replace
import ShellDocs.Proofs.Attempt
import ShellDocs.Proofs.Files.Slot

/-! # Replacing a file as a whole

Replacing a file either puts the new contents into the slot of its path or leaves the tree as
it was. Of the temporary file nothing stays in either case.
-/

namespace ShellDocs.Files.FileTree

variable {t u v : FileTree} {dir loc : Location} {name path : String} {c : ByteArray}

section Temporary

theorem toList_temporaryName (n : Nat) :
    (temporaryName n).toList = ['.', 't', 'm', 'p'] ++ List.replicate n 'x' :=
  String.toList_ofList

theorem isName_temporaryName (n : Nat) : IsName (temporaryName n) := by
  refine isName_of_length ?_ ?_ <;> rw [toList_temporaryName]
  · rw [List.length_append, List.length_cons, List.length_cons, List.length_cons]
    omega
  · simp

theorem temporaryName_injective {m n : Nat} (h : temporaryName m = temporaryName n) : m = n := by
  have := congrArg (fun s : String => s.toList.length) h
  simpa [toList_temporaryName] using this

/-- Among more temporary names than there are entries one is free. -/
theorem get?_freshName (t : FileTree) (dir : Location) :
    t.get? (dir ++ [t.freshName dir]) = none := by
  unfold freshName
  cases hf : (List.range (t.nodes.size + 1)).find? fun n =>
      (t.get? (dir ++ [temporaryName n])).isNone with
  | some n =>
    have := List.find?_some hf
    simpa using this
  | none =>
    exfalso
    have hsub : (List.range (t.nodes.size + 1)).map (fun n => dir ++ [temporaryName n]) ⊆
        t.nodes.keys := by
      intro loc hl
      obtain ⟨n, hn, rfl⟩ := List.mem_map.mp hl
      have hs := List.find?_eq_none.mp hf n hn
      rw [get?_append_singleton, Option.isNone_iff_eq_none, ← ne_eq,
        Option.ne_none_iff_exists'] at hs
      exact OrderedMap.mem_keys_iff.mpr hs
    have hnd : ((List.range (t.nodes.size + 1)).map
        (fun n => dir ++ [temporaryName n])).Nodup := by
      refine List.Pairwise.map _ (fun m n hmn he => hmn ?_) List.nodup_range
      exact temporaryName_injective (by simpa using he)
    have hle := hnd.length_le_of_subset hsub
    simp only [OrderedMap.keys, OrderedMap.size, List.length_map, List.length_range] at hle
    omega

theorem mayPut_freshName (h : t.IsDirectory dir) : t.MayPut dir (t.freshName dir) := by
  refine ⟨h, ?_, ?_⟩
  · unfold freshName
    exact isName_temporaryName _
  · rw [isDirectory_iff, get?_freshName]
    simp

/-- There is room for a temporary file in the directory that the path leads to. -/
structure HasRoom (t : FileTree) (directory : String) (dir : Location) : Prop where
  check : checkPath (t.temporaryPath directory) = .ok ()
  leadsTo : t.LeadsTo directory dir

theorem KeepsWays.hasRoom {directory : String} (h : KeepsWays t u) (hr : t.HasRoom directory dir) :
    u.HasRoom directory dir where
  check := by rw [temporaryPath, h.cwd, ← temporaryPath, hr.check]
  leadsTo := h.leadsTo hr.leadsTo

theorem directoryAt_eq_ok_iff : t.directoryAt path = .ok dir ↔ t.LeadsTo path dir := by
  unfold directoryAt LeadsTo
  split
  · have hcwd : t.directoryFrom t.cwd [] = .ok t.cwd := rfl
    rw [hcwd, Except.ok.injEq, eq_comm]
  · simp only [resolve, bind]
    cases checkPath path with
    | error e => simp [Except.bind]
    | ok _ => exact directoryFrom_eq_ok_iff

theorem createTemporary_eq_ok_iff {directory : String} {r : FileTree × Location × String} :
    t.createTemporary directory = .ok r ↔ ∃ dir, t.HasRoom directory dir ∧
      r = (t.put dir (t.freshName dir) (.file .empty), dir, t.freshName dir) := by
  unfold createTemporary
  simp only [bind_eq_ok_iff, directoryAt_eq_ok_iff, Except.ok.injEq, eq_comm (b := r)]
  constructor
  · rintro ⟨⟨⟩, hc, dir, hl, he⟩
    exact ⟨dir, ⟨hc, hl⟩, he⟩
  · rintro ⟨dir, hroom, he⟩
    exact ⟨⟨⟩, hroom.check, dir, hroom.leadsTo, he⟩

theorem createTemporary_eq_ok {directory : String}
    (h : t.createTemporary directory = .ok (u, dir, name)) :
    t.IsDirectory dir ∧ name = t.freshName dir ∧ u = t.put dir name (.file .empty) := by
  obtain ⟨d, hr, he⟩ := createTemporary_eq_ok_iff.mp h
  cases he
  exact ⟨isDirectory_of_leadsTo hr.leadsTo, rfl, rfl⟩

end Temporary

theorem append_put (h : t.MayPut dir name) (c bytes : ByteArray) :
    (t.put dir name (.file c)).append dir name bytes = t.put dir name (.file (c ++ bytes)) := by
  unfold append
  rw [get?_put_self h]
  exact put_put h c

theorem append_empty (t : FileTree) (dir : Location) (name : String) :
    t.append dir name .empty = t := by
  unfold append
  split
  · rename_i c hg
    rw [ByteArray.append_empty, put_self hg]
  · rfl

theorem append_append (t : FileTree) (dir : Location) (name : String) (a b : ByteArray) :
    (t.append dir name a).append dir name b = t.append dir name (a ++ b) := by
  unfold append
  cases hg : t.get? (dir ++ [name]) with
  | none => simp only [hg]
  | some node =>
    cases node with
    | file c =>
      have hput := mayPut_of_get?_file hg
      simp only [get?_put_self hput, put_put hput, ByteArray.append_assoc]
    | directory => simp only [hg]
    | link target => simp only [hg]

theorem rename_eq_ok (hg : t.get? (dir ++ [name]) = some (.file c))
    (h : t.rename dir name path = .ok u) :
    ∃ d n, t.slot path = .ok (d, n) ∧ ¬ isDots n ∧ ¬ t.IsDirectory (d ++ [n]) ∧
      u = (t.remove (dir ++ [name])).put d n (.file c) := by
  unfold rename at h
  simp only [hg] at h
  by_cases hz : '\x00' ∈ path.toList
  · simp [hz, bind, Except.bind, throw, throwThe, MonadExceptOf.throw] at h
  · cases hs : t.slot path with
    | error e => simp [hz, hs, bind, Except.bind] at h
    | ok s =>
      obtain ⟨d, n⟩ := s
      simp only [hz, hs, bind, Except.bind, if_false] at h
      split at h
      · cases h
      rename_i hd
      split at h
      · cases h
      split at h
      · cases h
      rename_i hdir
      cases h
      exact ⟨d, n, rfl, hd, hdir, rfl⟩

section Replacing

variable {e : IoError} {w : FileTree}

theorem replaceFile_of_error (h : t.createTemporary (temporaryDirectory path) = .error e) :
    t.replaceFile path c = (t, .error e) := by
  simp only [replaceFile, h]

theorem replaceFile_of_rename (h : t.createTemporary (temporaryDirectory path) = .ok (u, dir, name))
    (hr : (u.append dir name c).rename dir name path = .ok w) :
    t.replaceFile path c = (w, .ok ()) := by
  simp only [replaceFile, h, hr]

theorem replaceFile_of_rename_error
    (h : t.createTemporary (temporaryDirectory path) = .ok (u, dir, name))
    (hr : (u.append dir name c).rename dir name path = .error e) :
    t.replaceFile path c = ((u.append dir name c).remove (dir ++ [name]), .error e) := by
  simp only [replaceFile, h, hr]

end Replacing

theorem rename_put_eq_ok (hput : t.MayPut dir name) (hv : t.get? (dir ++ [name]) = none)
    (h : (t.put dir name (.file c)).rename dir name path = .ok u) :
    ∃ d n, t.slot path = .ok (d, n) ∧ t.MayPut d n ∧ u = t.put d n (.file c) := by
  have hin : KeepsWays (t.put dir name (.file c)) t := keepsWays_of_put_file ..
  have hout : KeepsWays t (t.put dir name (.file c)) := keepsWays_put_of_none hv _
  obtain ⟨d, n, hs, hn, hdir, rfl⟩ := rename_eq_ok (get?_put_self hput _) h
  have hst := hin.slot hs
  refine ⟨d, n, hst, ⟨isDirectory_of_slot hst, isName_of_slot hst hn, fun hd => ?_⟩, ?_⟩
  · exact hdir (hout.isDirectory hd)
  · rw [remove_put hput hv]

/-- A file is replaced as a whole, or nothing happens. -/
theorem replaceFile_cases (t : FileTree) (path : String) (c : ByteArray) :
    (∃ e, t.replaceFile path c = (t, .error e)) ∨
      ∃ dir name, t.slot path = .ok (dir, name) ∧ t.MayPut dir name ∧
        t.replaceFile path c = (t.put dir name (.file c), .ok ()) := by
  unfold replaceFile
  cases hc : t.createTemporary (temporaryDirectory path) with
  | error e => exact .inl ⟨e, rfl⟩
  | ok r =>
    obtain ⟨u, dir, tmp⟩ := r
    obtain ⟨hd, rfl, rfl⟩ := createTemporary_eq_ok hc
    have hput := mayPut_freshName hd
    have hvacant := t.get?_freshName dir
    simp only [append_put hput, ByteArray.empty_append]
    cases hr : (t.put dir (t.freshName dir) (.file c)).rename dir (t.freshName dir) path with
    | error e => exact .inl ⟨e, Prod.ext (remove_put hput hvacant c) rfl⟩
    | ok w =>
      obtain ⟨d, n, hs, hmay, rfl⟩ := rename_put_eq_ok hput hvacant hr
      exact .inr ⟨d, n, hs, hmay, rfl⟩

theorem replaceFile_eq_ok (h : t.replaceFile path c = (u, .ok ())) :
    ∃ dir name, t.slot path = .ok (dir, name) ∧ t.MayPut dir name ∧
      u = t.put dir name (.file c) := by
  rcases t.replaceFile_cases path c with ⟨e, he⟩ | ⟨dir, name, hs, hput, hr⟩
  · rw [h] at he
    cases he
  · rw [h] at hr
    cases hr
    exact ⟨dir, name, hs, hput, rfl⟩

theorem exists_hasRoom_of_replaceFile (h : t.replaceFile path c = (u, .ok ())) :
    ∃ dir, t.HasRoom (temporaryDirectory path) dir := by
  cases hc : t.createTemporary (temporaryDirectory path) with
  | error e =>
    rw [replaceFile_of_error hc] at h
    cases h
  | ok r =>
    obtain ⟨dir, hroom, -⟩ := createTemporary_eq_ok_iff.mp hc
    exact ⟨dir, hroom⟩

theorem replaceFile_of_slot {d : Location} (hr : t.HasRoom (temporaryDirectory path) d)
    (hs : t.slot path = .ok (dir, name)) (hput : t.MayPut dir name)
    (he : ¬ Path.endsInSlash path) : t.replaceFile path c = (t.put dir name (.file c), .ok ()) := by
  have hd : t.MayPut d (t.freshName d) := mayPut_freshName (isDirectory_of_leadsTo hr.leadsTo)
  have hv : t.get? (d ++ [t.freshName d]) = none := t.get?_freshName d
  refine replaceFile_of_rename (createTemporary_eq_ok_iff.mpr ⟨d, hr, rfl⟩) ?_
  rw [append_put hd, ByteArray.empty_append]
  -- The temporary file stands where nothing stood, so the slot is the same next to it.
  have hslot : (t.put d (t.freshName d) (.file c)).slot path = .ok (dir, name) :=
    (keepsWays_put_of_none hv _).slot hs
  have hz : '\x00' ∉ path.toList := (checkPath_eq_ok_iff.mp (slot_cases hs).1).1
  have hdots : ¬ isDots name := not_isDots_iff.mpr ⟨hput.2.1.2.1, hput.2.1.2.2.1⟩
  have hdir : ¬ (t.put d (t.freshName d) (.file c)).IsDirectory (dir ++ [name]) := fun hdir =>
    hput.2.2 ((keepsWays_of_put_file ..).isDirectory hdir)
  simp only [rename, hz, hslot, get?_put_self hd, bind, Except.bind, if_false, hdots, he, hdir,
    Bool.false_eq_true, remove_put hd hv]

end ShellDocs.Files.FileTree
