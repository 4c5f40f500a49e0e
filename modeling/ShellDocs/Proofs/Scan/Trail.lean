import Mathlib.Data.List.Induction
import ShellDocs.Proofs.Files.Path
import ShellDocs.Proofs.Text.Trim
import ShellDocs.Scan.Collect

/-! # Trails

A trail is the list of names that leads from a root to a file. The path of the file is the root
with the names joined to it, and its key are the names alone, however the root is spelled.
-/

namespace ShellDocs

open Files

def Path.below (root : String) (trail : List String) : String := trail.foldl Path.join root

def IsScriptTrail (trail : List String) : Prop :=
  ∃ front stem, stem ≠ "" ∧ trail = front ++ [stem ++ ".sh"]

/-- The names of a trail with slashes between them. -/
def trailKey (trail : List String) : String := "/".intercalate trail

variable {root name : String} {trail : List String}

namespace Path

@[simp] theorem below_nil (root : String) : below root [] = root := rfl

theorem below_concat (root : String) (trail : List String) (name : String) :
    below root (trail ++ [name]) = join (below root trail) name :=
  List.foldl_concat join root name trail

/-- What grows by a name when the name is joined grows by a trail. -/
theorem apply_below {f : String → List String}
    (hf : ∀ base name, IsName name → f (join base name) = f base ++ [name])
    (h : ∀ name ∈ trail, IsName name) : f (below root trail) = f root ++ trail := by
  induction trail using List.reverseRecOn with
  | nil => simp
  | append_singleton front name ih =>
    have hname : IsName name := h name (by simp)
    have hfront : ∀ n ∈ front, IsName n := fun n hn => h n (by simp [hn])
    rw [below_concat, hf _ _ hname, ih hfront, List.append_assoc]

theorem segments_below (h : ∀ name ∈ trail, IsName name) :
    segments (below root trail) = segments root ++ trail :=
  apply_below (fun base _ => segments_join base) h

theorem components_below (h : ∀ name ∈ trail, IsName name) :
    components (below root trail) = components root ++ trail :=
  apply_below (fun base _ => components_join base) h

/-- The names by which a path goes on below a root. -/
def namesBelow (root path : String) : List String :=
  (components path).drop (components root).length

theorem namesBelow_below (h : ∀ name ∈ trail, IsName name) :
    namesBelow root (below root trail) = trail := by
  rw [namesBelow, components_below h, List.drop_left]

theorem join_append (base : String) {k : String} (hk : k ≠ "") (ha : ¬ isAbsolute k)
    (rest : String) :
    join base (k ++ rest) = join base k ++ rest := by
  have hne : k.toList ≠ [] := by simpa using hk
  have ha' : ¬ isAbsolute (k ++ rest) := by
    rwa [isAbsolute, String.toList_append, List.head?_append_of_ne_nil _ hne]
  rw [join, join, if_neg ha, if_neg ha']
  split <;> simp only [String.append_assoc]

theorem fileName?_of_segments {path : String} {front : List String} (hn : IsName name)
    (hs : segments path = front ++ [name]) : fileName? path = some name := by
  have hlast : ((front ++ [name]).filter (· ≠ ".")).getLast? = some name := by
    rw [List.filter_append, List.filter_cons_of_pos (by simpa using hn.2.1), List.filter_nil,
      List.getLast?_concat]
  rw [fileName?, hs, hlast]
  simp [hn.2.2.1]

/-- The extension is `sh` when the name ends in it and does not consist of it. -/
theorem extension?_eq_sh_iff {path : String} {front : List String} (hn : IsName name)
    (hs : segments path = front ++ [name]) :
    extension? path = some "sh" ↔ ∃ stem, stem ≠ "" ∧ name = stem ++ ".sh" := by
  rw [extension?, fileName?_of_segments hn hs, Option.bind_some]
  constructor
  · intro h
    have hcut := List.takeWhile_append_dropWhile (p := (· ≠ '.')) (l := name.toList.reverse)
    have hdot := List.head?_dropWhile_not (· ≠ '.') name.toList.reverse
    split at h
    · rename_i d c rest hdrop
      have hext : (name.toList.reverse.takeWhile (· ≠ '.')).reverse = ['s', 'h'] :=
        String.ofList_injective (by simpa using h)
      have htake : name.toList.reverse.takeWhile (· ≠ '.') = ['h', 's'] := by
        rw [← List.reverse_reverse (List.takeWhile _ _), hext]
        rfl
      rw [hdrop] at hdot hcut
      obtain rfl : d = '.' := by simpa using hdot
      rw [htake] at hcut
      refine ⟨String.ofList (c :: rest).reverse, by simp, String.toList_injective ?_⟩
      rw [← List.reverse_reverse name.toList, ← hcut]
      simp
    · cases h
  · rintro ⟨stem, hne, rfl⟩
    have hrev : (stem ++ ".sh").toList.reverse = 'h' :: 's' :: '.' :: stem.toList.reverse := by
      simp
    obtain ⟨c, rest, hc⟩ := List.exists_cons_of_ne_nil
      (show stem.toList.reverse ≠ [] by simpa using hne)
    rw [hrev, hc]
    simp [List.takeWhile, List.dropWhile]

end Path

section Keys

theorem relativeKey_below (h : ∀ name ∈ trail, IsName name) :
    relativeKey root (Path.below root trail) = trailKey trail := by
  have hpre : (Path.components root).isPrefixOf (Path.components root ++ trail) = true :=
    List.isPrefixOf_iff_prefix.mpr (List.prefix_append _ _)
  simp only [relativeKey, Path.components_below h, hpre, if_true, List.drop_left, trailKey]

theorem toList_trailKey (trail : List String) :
    (trailKey trail).toList = ['/'].intercalate (trail.map String.toList) :=
  String.toList_intercalate

theorem rawSegments_trailKey (h : ∀ name ∈ trail, IsName name) (hne : trail ≠ []) :
    Path.rawSegments (trailKey trail) = trail := by
  have hsplit : Text.splitOn '/' (trailKey trail).toList = trail.map String.toList := by
    rw [toList_trailKey]
    refine Text.splitOn_intercalate (by simpa using hne) fun p hp => ?_
    obtain ⟨name, hn, rfl⟩ := List.mem_map.mp hp
    exact (h name hn).2.2.2
  rw [Path.rawSegments, hsplit, List.map_map]
  simp [Function.comp_def]

theorem segments_trailKey (h : ∀ name ∈ trail, IsName name) :
    Path.segments (trailKey trail) = trail := by
  by_cases hne : trail = []
  · subst hne
    rfl
  · rw [Path.segments, rawSegments_trailKey h hne]
    exact List.filter_eq_self.mpr fun name hn => by simpa using (h name hn).1

theorem trailKey_injective {trail' : List String} (h : ∀ name ∈ trail, IsName name)
    (h' : ∀ name ∈ trail', IsName name) (he : trailKey trail = trailKey trail') :
    trail = trail' := by
  rw [← segments_trailKey h, ← segments_trailKey h', he]

theorem trailKey_concat {front : List String} (hne : front ≠ []) (name : String) :
    trailKey (front ++ [name]) = trailKey front ++ "/" ++ name := by
  refine String.toList_injective ?_
  rw [String.toList_append, String.toList_append, toList_trailKey, toList_trailKey, List.map_append]
  induction front with
  | nil => exact absurd rfl hne
  | cons n front ih =>
    cases front with
    | nil => simp [List.intercalate_cons_cons]
    | cons m front =>
      simp only [List.map_cons, List.cons_append, List.intercalate_cons_cons] at ih ⊢
      rw [ih (List.cons_ne_nil m front)]
      simp

theorem trailKey_append (front : List String) (name rest : String) :
    trailKey (front ++ [name]) ++ rest = trailKey (front ++ [name ++ rest]) := by
  by_cases hne : front = []
  · subst hne
    rfl
  · rw [trailKey_concat hne, trailKey_concat hne, String.append_assoc]

theorem trailKey_ne_empty {front : List String} (hn : IsName name) :
    trailKey (front ++ [name]) ≠ "" := by
  by_cases hne : front = []
  · subst hne
    simpa [trailKey] using hn.1
  · rw [trailKey_concat hne]
    simp [hn.1]

theorem not_isAbsolute_trailKey (h : ∀ name ∈ trail, IsName name) :
    ¬ Path.isAbsolute (trailKey trail) := by
  rw [Path.isAbsolute, toList_trailKey, decide_eq_true_eq]
  cases trail with
  | nil => simp
  | cons n rest =>
    have hn := h n List.mem_cons_self
    have hne : n.toList ≠ [] := by simpa using hn.1
    rw [List.map_cons, Text.head?_intercalate hne]
    exact fun hs => hn.2.2.2 (List.mem_of_head? hs)

theorem below_eq_join (h : ∀ name ∈ trail, IsName name) (hne : trail ≠ []) (root : String) :
    Path.below root trail = Path.join root (trailKey trail) := by
  induction trail using List.reverseRecOn with
  | nil => exact absurd rfl hne
  | append_singleton front name ih =>
    have hname : IsName name := h name (by simp)
    have hfront : ∀ n ∈ front, IsName n := fun n hn => h n (by simp [hn])
    rw [Path.below_concat]
    rcases List.eq_nil_or_concat' front with rfl | ⟨lead, last, rfl⟩
    · rfl
    · have hlast : IsName last := hfront last (by simp)
      have hend : ¬ Path.endsInSlash (Path.below root (lead ++ [last])) := by
        rw [Path.below_concat]
        exact Path.not_endsInSlash_join _ hlast
      have hempty : Path.below root (lead ++ [last]) ≠ "" := by
        rw [Path.below_concat]
        obtain ⟨gap, hg⟩ := Path.exists_join_eq (Path.below root lead) hlast
        simp [hg, hlast.1]
      have hkey : trailKey (lead ++ [last] ++ [name]) = trailKey (lead ++ [last]) ++ "/" ++ name :=
        trailKey_concat (by simp) name
      rw [Path.join_of_isName _ hname, if_neg (by simp [hend, hempty]), ih hfront (by simp), hkey,
        String.append_assoc, String.append_assoc,
        Path.join_append root (trailKey_ne_empty hlast) (not_isAbsolute_trailKey hfront)]

theorem isScriptTrail_concat_iff {front : List String} :
    IsScriptTrail (front ++ [name]) ↔ ∃ stem, stem ≠ "" ∧ name = stem ++ ".sh" := by
  constructor
  · rintro ⟨front', stem, hstem, he⟩
    obtain ⟨-, hs⟩ := List.append_inj' he rfl
    exact ⟨stem, hstem, by simpa using hs⟩
  · rintro ⟨stem, hstem, rfl⟩
    exact ⟨front, stem, hstem, rfl⟩

theorem isScript_iff_of_segments {path : String} {front dir : List String} (hn : IsName name)
    (hs : Path.segments path = front ++ [name]) :
    isScript path = true ↔ IsScriptTrail (dir ++ [name]) := by
  rw [isScript, decide_eq_true_eq, Path.extension?_eq_sh_iff hn hs, isScriptTrail_concat_iff]

theorem isScript_below_iff (h : ∀ name ∈ trail, IsName name) (hne : trail ≠ []) :
    isScript (Path.below root trail) = true ↔ IsScriptTrail trail := by
  obtain ⟨front, name, rfl⟩ := (List.eq_nil_or_concat' trail).resolve_left hne
  have hsegments : Path.segments (Path.below root (front ++ [name])) =
      (Path.segments root ++ front) ++ [name] := by
    rw [Path.segments_below h, List.append_assoc]
  exact isScript_iff_of_segments (h name (by simp)) hsegments

end Keys

end ShellDocs
