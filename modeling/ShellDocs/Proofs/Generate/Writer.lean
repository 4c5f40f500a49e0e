import Mathlib.Algebra.Ring.Nat
import ShellDocs.Proofs.Generate.Write

/-! # Writing step by step

A run of writes makes its directory. For each file it makes a temporary one, writes the contents
into it piece by piece, and renames it. A writer that goes through these steps does what the run
does at once, and what it does between two files is seen in no entry but that of the temporary file.
-/

namespace ShellDocs

open Files Page

/-- How far a run of writes has come. -/
inductive Writer where
  | begun (files : List PlannedFile)
  /-- The files under these paths are written, and others are still to come. -/
  | between (paths : List String) (files : List PlannedFile)
  /-- The temporary file for `f` holds the first `k` bytes of its contents. -/
  | filling (paths : List String) (dir : Location) (name : String) (k : Nat) (f : PlannedFile)
      (rest : List PlannedFile)
  /-- The temporary file could not be renamed and has to go. -/
  | clearing (dir : Location) (name : String) (e : Error)
  | ended (result : Except Error (List String))

namespace Writer

variable {output : String} {t u base : FileTree} {w : Writer} {files rest : List PlannedFile}
  {paths : List String} {f : PlannedFile} {dir loc : Location} {name : String} {n k : Nat}

/-- Makes the temporary file for `f`, which belongs under `path`. -/
def prepare (t : FileTree) (path : String) (paths : List String) (f : PlannedFile)
    (rest : List PlannedFile) : FileTree × Writer :=
  match t.createTemporary (FileTree.temporaryDirectory path) with
  | .error e => (t, .ended (.error (.write path e)))
  | .ok (u, dir, name) => (u, .filling paths dir name 0 f rest)

/-- Gives the temporary file its name at the end of `path`. -/
def publish (t : FileTree) (path : String) (paths : List String) (dir : Location) (name : String)
    (rest : List PlannedFile) : FileTree × Writer :=
  match t.rename dir name path with
  | .ok u => (u, .between (paths ++ [path]) rest)
  | .error e => (t, .clearing dir name (.write path e))

/-- Takes one step. A piece of contents has `n` bytes, or what is left of them. -/
def step (output : String) (n : Nat) (t : FileTree) : Writer → FileTree × Writer
  | begun files =>
    match t.createDirectories output with
    | (u, .error e) => (u, .ended (.error (.write output e)))
    | (u, .ok ()) => (u, .between [] files)
  | between paths [] => (t, .ended (.ok paths))
  | between paths (f :: rest) => prepare t (Path.join output f.name) paths f rest
  | filling paths dir name k f rest =>
    let contents := f.contents.toUTF8
    let next := min (k + n) contents.size
    if k < contents.size then
      (t.append dir name (contents.extract k next), .filling paths dir name next f rest)
    else publish t (Path.join output f.name) paths dir name rest
  | clearing dir name e => (t.remove (dir ++ [name]), .ended (.error e))
  | ended result => (t, .ended result)

def run (output : String) (sizes : List Nat) (t : FileTree) (w : Writer) : FileTree × Writer :=
  sizes.foldl (fun s n => s.2.step output n s.1) (t, w)

section Alone

/-- What writing the other files comes to, after the files under these paths. -/
def proceed (output : String) (t : FileTree) (paths : List String) (files : List PlannedFile) :
    FileTree × Except Error (List String) :=
  ((writeFiles t output files).1, (writeFiles t output files).2.map (paths ++ ·))

def outcome (output : String) (t : FileTree) : Writer → FileTree × Except Error (List String)
  | begun files => writeAll t output files
  | between paths files => proceed output t paths files
  | filling paths dir name k f rest =>
    let path := Path.join output f.name
    let contents := f.contents.toUTF8
    let v := t.append dir name (contents.extract k contents.size)
    match v.rename dir name path with
    | .ok u => proceed output u (paths ++ [path]) rest
    | .error e => (v.remove (dir ++ [name]), .error (.write path e))
  | clearing dir name e => (t.remove (dir ++ [name]), .error e)
  | ended result => (t, result)

theorem proceed_nil (files : List PlannedFile) :
    proceed output t [] files = writeFiles t output files := by
  unfold proceed
  rcases writeFiles t output files with ⟨u, e | paths⟩ <;> rfl

theorem proceed_cons_of_ok
    (h : t.replaceFile (Path.join output f.name) f.contents.toUTF8 = (u, .ok ())) :
    proceed output t paths (f :: rest) =
      proceed output u (paths ++ [Path.join output f.name]) rest := by
  unfold proceed
  rw [writeFiles_cons_of_ok h]
  rcases writeFiles u output rest with ⟨v, e | later⟩
  · rfl
  · simp [Except.map]

theorem proceed_cons_of_error {cause : IoError}
    (h : t.replaceFile (Path.join output f.name) f.contents.toUTF8 = (u, .error cause)) :
    proceed output t paths (f :: rest) = (u, .error (.write (Path.join output f.name) cause)) := by
  unfold proceed
  rw [writeFiles_cons_of_error h]
  rfl

theorem outcome_step (output : String) (n : Nat) (t : FileTree) (w : Writer) :
    (w.step output n t).2.outcome output (w.step output n t).1 = w.outcome output t := by
  cases w with
  | begun files =>
    simp only [step, outcome, writeAll]
    rcases t.createDirectories output with ⟨u, e | _⟩
    · rfl
    · exact proceed_nil files
  | between paths files =>
    cases files with
    | nil => simp [step, outcome, proceed, writeFiles, Except.map]
    | cons f rest =>
      simp only [step, prepare]
      cases hc : t.createTemporary (FileTree.temporaryDirectory (Path.join output f.name)) with
      | error e => exact (proceed_cons_of_error (FileTree.replaceFile_of_error hc)).symm
      | ok r =>
        obtain ⟨u, dir, name⟩ := r
        simp only [outcome, ByteArray.extract_zero_size]
        cases hr : (u.append dir name f.contents.toUTF8).rename dir name
            (Path.join output f.name) with
        | ok v => exact (proceed_cons_of_ok (FileTree.replaceFile_of_rename hc hr)).symm
        | error e =>
          exact (proceed_cons_of_error (FileTree.replaceFile_of_rename_error hc hr)).symm
  | filling paths dir name k f rest =>
    simp only [step, publish]
    split
    · have hpieces : f.contents.toUTF8.extract k (min (k + n) f.contents.toUTF8.size) ++
          f.contents.toUTF8.extract (min (k + n) f.contents.toUTF8.size) f.contents.toUTF8.size =
          f.contents.toUTF8.extract k f.contents.toUTF8.size := by
        rw [ByteArray.extract_append_extract, Nat.min_eq_left (by omega),
          Nat.max_eq_right (by omega)]
      simp only [outcome, FileTree.append_append, hpieces]
    · have hnone : f.contents.toUTF8.extract k f.contents.toUTF8.size = .empty :=
        ByteArray.extract_eq_empty_iff.mpr (by omega)
      simp only [outcome, hnone, FileTree.append_empty]
      cases t.rename dir name (Path.join output f.name) <;> rfl
  | clearing dir name e => rfl
  | ended result => rfl

def todo (files : List PlannedFile) : Nat := (files.map fun f => f.contents.toUTF8.size + 3).sum

/-- The number of steps to the end, if each piece is a single byte and all goes well. -/
def left : Writer → Nat
  | begun files => todo files + 2
  | between _ files => todo files + 1
  | filling _ _ _ k f rest => (f.contents.toUTF8.size - k) + todo rest + 2
  | clearing _ _ _ => 1
  | ended _ => 0

theorem left_step (hn : 0 < n) (output : String) (t : FileTree) (w : Writer) :
    (w.step output n t).2.left ≤ w.left - 1 := by
  cases w with
  | begun files =>
    simp only [step]
    split <;> simp [left]
  | between paths files =>
    cases files with
    | nil => simp [step, left]
    | cons f rest =>
      simp only [step, prepare]
      split
      · simp [left]
      · simp only [left, todo, List.map_cons, List.sum_cons]
        omega
  | filling paths dir name k f rest =>
    simp only [step, publish]
    split
    · simp only [left]
      omega
    · split
      · simp only [left]
        omega
      · simp only [left]
        omega
  | clearing dir name e => simp [step, left]
  | ended result => simp [step, left]

theorem eq_ended_of_left (h : w.left = 0) : ∃ result, w = .ended result := by
  cases w with
  | ended result => exact ⟨result, rfl⟩
  | _ => simp [left] at h

theorem run_cons (output : String) (n : Nat) (sizes : List Nat) (t : FileTree) (w : Writer) :
    w.run output (n :: sizes) t =
      (w.step output n t).2.run output sizes (w.step output n t).1 := rfl

/-- However the contents are cut, the writer ends with what it comes to. -/
theorem run_eq {sizes : List Nat} (hpos : ∀ n ∈ sizes, 0 < n) (hl : w.left ≤ sizes.length) :
    w.run output sizes t = ((w.outcome output t).1, .ended (w.outcome output t).2) := by
  induction sizes generalizing t w with
  | nil =>
    obtain ⟨result, rfl⟩ := eq_ended_of_left (Nat.le_zero.mp hl)
    rfl
  | cons n sizes ih =>
    have hn : 0 < n := hpos n List.mem_cons_self
    have hleft := left_step hn output t w
    rw [List.length_cons] at hl
    rw [run_cons, ih (fun m hm => hpos m (List.mem_cons_of_mem n hm)) (by omega), outcome_step]

end Alone

section Steps

/-- The tree is `base` with the temporary file of the writer, if there is one. -/
inductive Holds : Writer → FileTree → FileTree → Prop where
  | begun {files : List PlannedFile} {t : FileTree} : Holds (.begun files) t t
  | between {paths : List String} {files : List PlannedFile} {t : FileTree} :
      Holds (.between paths files) t t
  | filling {base : FileTree} {dir : Location} {name : String} {k : Nat} {f : PlannedFile}
      {paths : List String} {rest : List PlannedFile} : base.MayPut dir name →
      base.get? (dir ++ [name]) = none → k ≤ f.contents.toUTF8.size →
      Holds (.filling paths dir name k f rest) base
        (base.put dir name (.file (f.contents.toUTF8.extract 0 k)))
  | clearing {base : FileTree} {dir : Location} {name : String} {e : Error} {c : ByteArray} :
      base.MayPut dir name → base.get? (dir ++ [name]) = none →
      Holds (.clearing dir name e) base (base.put dir name (.file c))
  | ended {result : Except Error (List String)} {t : FileTree} : Holds (.ended result) t t

def remaining : Writer → List PlannedFile
  | begun files | between _ files => files
  | filling _ _ _ _ f rest => f :: rest
  | clearing _ _ _ | ended _ => []

/-- What a step does to the tree without the temporary file. -/
inductive Advance (output : String) (w : Writer) (t : FileTree) : FileTree → Prop where
  | still : Advance output w t t
  | makes {files : List PlannedFile} {u : FileTree} : w = .begun files → t.Grows u output →
      Advance output w t u
  | replaces {f : PlannedFile} {dir : Location} {name : String} : f ∈ w.remaining →
      t.slot (Path.join output f.name) = .ok (dir, name) → t.MayPut dir name →
      Advance output w t (t.put dir name (.file f.contents.toUTF8))

/-- A step takes the writer on, and the tree without its temporary file by an advance. -/
theorem Holds.step (h : Holds w base t) (output : String) (n : Nat) :
    ∃ base', Holds (w.step output n t).2 base' (w.step output n t).1 ∧
      Advance output w base base' := by
  cases h with
  | @begun files t =>
    have hgrows := t.createDirectories_grows output
    refine ⟨(t.createDirectories output).1, ?_, .makes rfl hgrows⟩
    simp only [Writer.step]
    rcases t.createDirectories output with ⟨u, e | _⟩
    · exact .ended
    · exact .between
  | @between paths files t =>
    refine ⟨t, ?_, .still⟩
    cases files with
    | nil => exact .ended
    | cons f rest =>
      simp only [Writer.step, prepare]
      cases hc : t.createTemporary (FileTree.temporaryDirectory (Path.join output f.name)) with
      | error e => exact .ended
      | ok r =>
        obtain ⟨u, dir, name⟩ := r
        obtain ⟨hd, rfl, rfl⟩ := FileTree.createTemporary_eq_ok hc
        have hnone : f.contents.toUTF8.extract 0 0 = .empty :=
          ByteArray.extract_eq_empty_iff.mpr (by omega)
        rw [← hnone]
        exact .filling (FileTree.mayPut_freshName hd) (t.get?_freshName dir) (Nat.zero_le _)
  | @filling base dir name k f paths rest hput hnone hk =>
    simp only [Writer.step, publish]
    split
    · refine ⟨base, ?_, .still⟩
      rw [FileTree.append_put hput, ByteArray.extract_append_extract, Nat.zero_min,
        Nat.max_eq_right (by omega)]
      exact .filling hput hnone (Nat.min_le_right _ _)
    · obtain rfl : k = f.contents.toUTF8.size := by omega
      rw [ByteArray.extract_zero_size]
      split
      · rename_i u hr
        obtain ⟨d, m, hs, hmay, rfl⟩ := FileTree.rename_put_eq_ok hput hnone hr
        exact ⟨_, .between, .replaces List.mem_cons_self hs hmay⟩
      · exact ⟨base, .clearing hput hnone, .still⟩
  | @clearing base dir name e c hput hnone =>
    refine ⟨base, ?_, .still⟩
    simp only [Writer.step, FileTree.remove_put hput hnone]
    exact .ended
  | ended => exact ⟨_, .ended, .still⟩

/-- No file is added to those to be written, and the writer does not begin again. -/
theorem remaining_step (output : String) (n : Nat) (t : FileTree) (w : Writer) :
    (w.step output n t).2.remaining ⊆ w.remaining ∧
      ∀ files, (w.step output n t).2 ≠ .begun files := by
  cases w with
  | begun files =>
    simp only [step]
    split <;> simp [remaining]
  | between paths files =>
    cases files with
    | nil => simp [step, remaining]
    | cons f rest =>
      simp only [step, prepare]
      split <;> simp [remaining]
  | filling paths dir name k f rest =>
    simp only [step, publish]
    split
    · simp [remaining]
    · split <;> simp [remaining]
  | clearing dir name e => simp [step, remaining]
  | ended result => simp [step, remaining]

theorem Holds.keepsWays (h : Holds w base t) : base.KeepsWays t ∧ t.KeepsWays base := by
  cases h with
  | filling hput hnone | clearing hput hnone =>
    exact ⟨FileTree.keepsWays_put_of_none hnone _, FileTree.keepsWays_of_put_file ..⟩
  | _ => exact ⟨.refl _, .refl _⟩

theorem Holds.get?_of_some {node : Node} (h : Holds w base t) (hg : base.get? loc = some node) :
    t.get? loc = some node := by
  cases h with
  | @filling _ dir name _ _ _ _ hput hnone | @clearing _ dir name _ _ hput hnone =>
    have hne : loc ≠ dir ++ [name] := by
      rintro rfl
      rw [hnone] at hg
      cases hg
    rw [FileTree.get?_put_of_ne hne, hg]
  | _ => exact hg

end Steps

end Writer

end ShellDocs
