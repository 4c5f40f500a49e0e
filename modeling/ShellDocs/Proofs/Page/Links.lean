import ShellDocs.Generate
import ShellDocs.Proofs.Page.Plan
import ShellDocs.Proofs.Page.Text
import ShellDocs.Proofs.Text.Occurrence

/-! # Links between the pages

The pages of the directory groups, the navigation, the index page and the notices about groups
without a page all follow one list of groups. So every link leads to a planned file, and every
page of a group is linked.
-/

namespace ShellDocs.Page

open Text

section Navigation

variable {group : String} {gs : List String}

/-- What stands before the file name of every entry. -/
def generatedMark : List Char := "generated/".toList

theorem slash_not_mem_groupFile (h : '/' ∉ group.toList) : '/' ∉ (groupFile group).toList :=
  (isName_groupFile h).2.2.2

theorem toList_navigationEntry (group : String) :
    (navigationEntry group).toList = ("    - ".toList ++ group.toList ++ ": generated".toList) ++
      '/' :: ((groupFile group).toList ++ ['\n']) := by
  simp [navigationEntry]

theorem following_entries (h : ∀ g ∈ gs, '/' ∉ g.toList) {front : List Char} (hf : '/' ∉ front) :
    List.Forall₂ (fun g text => (groupFile g).toList ++ ['\n'] <+: text) gs
      (following generatedMark (front ++ gs.flatMap (fun g => (navigationEntry g).toList) ++
        "  - Windows:\n    - Components: windows/components/index.md\n".toList)) := by
  have hword : '/' ∉ "generated".toList := by decide
  have hmark : generatedMark = "generated".toList ++ ['/'] := by decide
  rw [hmark]
  induction gs generalizing front with
  | nil =>
    have hlast : front ++ [].flatMap (fun g : String => (navigationEntry g).toList) ++
        "  - Windows:\n    - Components: windows/components/index.md\n".toList =
        (front ++ "  - Windows:\n    - Components: windows".toList) ++ '/' ::
          ("components".toList ++ '/' :: "index.md\n".toList) := by simp
    have hfront : '/' ∉ front ++ "  - Windows:\n    - Components: windows".toList := by
      simp [hf]
    have hend : ¬ "generated".toList <:+
        front ++ "  - Windows:\n    - Components: windows".toList := by
      intro hs
      have := List.suffix_of_suffix_length_le hs (List.suffix_append _ _) (by decide)
      revert this
      decide
    rw [hlast, following_append_sep hword hfront, if_neg hend,
      following_append_sep hword (by decide), if_neg (by decide),
      following_of_not_mem (by decide)]
    exact .nil
  | cons g gs ih =>
    have hg := h g List.mem_cons_self
    have hpiece : '/' ∉ front ++ ("    - ".toList ++ g.toList ++ ": generated".toList) := by
      simp [hf, hg]
    have hends : "generated".toList <:+
        front ++ ("    - ".toList ++ g.toList ++ ": generated".toList) := by
      have hcolon : "generated".toList <:+ ": generated".toList := by decide
      refine hcolon.trans ?_
      rw [← List.append_assoc]
      exact List.suffix_append _ _
    have hline : '/' ∉ (groupFile g).toList ++ ['\n'] := by simp [slash_not_mem_groupFile hg]
    have hrest := ih (fun g' hg' => h g' (List.mem_cons_of_mem g hg')) hline
    have hsplit : front ++ (g :: gs).flatMap (fun g => (navigationEntry g).toList) ++
        "  - Windows:\n    - Components: windows/components/index.md\n".toList =
        (front ++ ("    - ".toList ++ g.toList ++ ": generated".toList)) ++ '/' ::
          ((groupFile g).toList ++ ['\n'] ++ gs.flatMap (fun g => (navigationEntry g).toList) ++
            "  - Windows:\n    - Components: windows/components/index.md\n".toList) := by
      rw [List.flatMap_cons, toList_navigationEntry]
      simp only [List.append_assoc, List.cons_append]
    rw [hsplit, following_append_sep hword hpiece, if_pos hends, List.singleton_append]
    refine .cons ?_ hrest
    rw [List.append_assoc]
    exact List.prefix_append _ _

theorem following_navigation (h : ∀ g ∈ gs, '/' ∉ g.toList) :
    List.Forall₂ (fun g text => (groupFile g).toList ++ ['\n'] <+: text) gs
      (following generatedMark (navigation gs).toList) := by
  unfold navigation
  rw [String.toList_append, String.toList_append, String.toList_join, List.flatMap_map]
  exact following_entries h (by decide)

end Navigation

/-- All parts of the site keep to the directory groups `kept`. -/
structure Keeps (options : Options) (docs : DocSet) (kept : List String) : Prop where
  ascending : kept.Pairwise (· < ·)
  subset : ∀ g ∈ kept, g ∈ docs.byDirectory.keys
  names : (plan options docs).map (·.name) =
    kept.map groupFile ++ [navigationFile, componentsFile, indexFile]
  names_nodup : ((plan options docs).map (·.name)).Nodup
  slash_not_mem : ∀ f ∈ plan options docs, '/' ∉ f.name.toList
  /-- The files that are not fixed are the pages of the groups, each under the name for it. -/
  page_iff : ∀ f, f ∈ plan options docs ∧ f.name ∉ reservedFiles ↔
    ∃ g ∈ kept, f = ⟨groupFile g, groupText options g (docs.inGroup g)⟩
  /-- The navigation names a generated file once for each group. -/
  navigation : ∃ text, ⟨navigationFile, text⟩ ∈ plan options docs ∧
    List.Forall₂ (fun g rest => (groupFile g).toList ++ ['\n'] <+: rest) kept
      (following generatedMark text.toList)
  /-- The index page links the page of all components, and then the pages of these groups with
  the numbers of their scripts. -/
  index : ⟨indexFile, indexText options.title docs.size
    (docs.byCategory.keys.map fun c => (c, (docs.inCategory c).length))
    (kept.map fun g => (g, (docs.inGroup g).length))⟩ ∈ plan options docs
  /-- Whatever is linked is planned. -/
  linked : ∀ name ∈ componentsFile :: kept.map groupFile, ∃ f ∈ plan options docs, f.name = name
  /-- The notices name the other groups. -/
  skipped : ∃ others : List String, others.Pairwise (· < ·) ∧
    (∀ g, g ∈ others ↔ g ∈ docs.byDirectory.keys ∧ g ∉ kept) ∧
    planNotices docs = others.map fun g => .groupSkipped g (groupFile g)

section Keeps

variable (options : Options) (docs : DocSet)

theorem mem_plan_iff {f : PlannedFile} : f ∈ plan options docs ↔
    (∃ g ∈ (groups docs).keys, f = ⟨groupFile g, groupText options g (docs.inGroup g)⟩) ∨
      f = ⟨navigationFile, navigation (groups docs).keys⟩ ∨
      f = ⟨componentsFile, render (components docs)⟩ ∨
      f = ⟨indexFile, render (index options docs)⟩ := by
  simp only [plan, groups_entries, render_groupPage, List.mem_append, List.mem_map, List.mem_cons,
    List.not_mem_nil, or_false, exists_exists_and_eq_and]
  simp only [eq_comm]

theorem mem_groups_keys {g : String} (h : g ∈ (groups docs).keys) :
    groupFile g ∉ reservedFiles ∧ '/' ∉ g.toList := by
  obtain ⟨e, he, rfl⟩ := List.mem_map.mp h
  exact mem_groups he

/-- There is one list of directory groups to which all parts of the site keep. -/
theorem exists_keeps : ∃ kept, Keeps options docs kept := by
  refine ⟨(groups docs).keys, ?_⟩
  have hnames : (plan options docs).map (·.name) =
      (groups docs).keys.map groupFile ++ [navigationFile, componentsFile, indexFile] := by
    rw [map_name_plan, OrderedMap.keys, List.map_map]
    rfl
  constructor
  case ascending => exact OrderedMap.keys_ascending _
  case subset => exact fun g hg => (groups_keys_sublist docs).mem hg
  case names => exact hnames
  case names_nodup => exact nodup_plan options docs
  case slash_not_mem => exact fun f hf => (isName_of_mem_plan hf).2.2.2
  case page_iff =>
    intro f
    rw [mem_plan_iff]
    constructor
    · rintro ⟨hf | rfl | rfl | rfl, hfree⟩
      · exact hf
      all_goals exact absurd (by simp [reservedFiles]) hfree
    · rintro ⟨g, hg, rfl⟩
      exact ⟨.inl ⟨g, hg, rfl⟩, (mem_groups_keys docs hg).1⟩
  case navigation =>
    refine ⟨_, (mem_plan_iff options docs).mpr (.inr (.inl rfl)), ?_⟩
    exact following_navigation fun g hg => (mem_groups_keys docs hg).2
  case index =>
    rw [← render_index]
    exact (mem_plan_iff options docs).mpr (.inr (.inr (.inr rfl)))
  case linked =>
    intro name hname
    have hm : name ∈ (plan options docs).map (·.name) := by
      rw [hnames]
      rcases List.mem_cons.mp hname with rfl | hname
      · simp
      · exact List.mem_append_left _ hname
    simpa using hm
  case skipped =>
    refine ⟨groupsWithoutPage docs, ?_, fun g => mem_groupsWithoutPage, rfl⟩
    exact (OrderedMap.keys_ascending docs.byDirectory).sublist List.filter_sublist

end Keeps

end ShellDocs.Page
