import ShellDocs.Proofs.Page.Chapters
import ShellDocs.Proofs.Page.Text

/-! # Scripts on the pages

The page of all components has every script once, in the chapter of its category. The pages of
the directory groups have the scripts of these groups once, each on the page of its group. The
numbers on the index page add up to the number of scripts.
-/

namespace ShellDocs.Page

section Parts

variable {part : String → Part} {p : Part}

theorem count_present (h : ∀ text, part text ≠ p) (text : Option String) :
    (present part text).count p = 0 := by
  rw [List.count_eq_zero]
  cases text with
  | none => simp [present]
  | some text => simpa [present] using (h text).symm

theorem ends_of_mem_present {level : Nat} (h : ∀ text, (part text).ends level = false)
    {text : Option String} (hp : p ∈ present part text) : p.ends level = false := by
  cases text with
  | none => simp [present] at hp
  | some text =>
    obtain rfl : p = part text := by simpa [present] using hp
    exact h text

def fileLine (path : String) : Part := .labelled "File" ("`" ++ path ++ "`")

theorem fileLine_inj {path path' : String} : fileLine path = fileLine path' ↔ path = path' := by
  simp [fileLine]

theorem count_scriptSection (s : Script) (path : String) :
    (scriptSection s ++ [Part.blank, Part.rule]).count (fileLine path) =
      if s.1 = path then 1 else 0 := by
  have hfile : [Part.labelled "File" ("`" ++ s.1 ++ "`")].count (fileLine path) =
      if s.1 = path then 1 else 0 := by
    rw [← fileLine, List.count_singleton]
    simp [fileLine_inj]
  simp only [scriptSection, List.count_append, hfile]
  rw [count_present, count_present, count_present, count_present, count_present, count_present]
  · simp [fileLine]
  all_goals simp [fileLine]

theorem ends_scriptSection (s : Script) :
    ∀ p ∈ scriptSection s ++ [Part.blank, Part.rule], p.ends 2 = false := by
  intro p hp
  simp only [scriptSection, List.mem_append, List.mem_cons, List.not_mem_nil, or_false] at hp
  rcases hp with (((((((rfl | hp) | rfl) | hp) | hp) | hp) | hp) | hp) | rfl | rfl
  all_goals first | rfl | exact ends_of_mem_present (fun _ => rfl) hp

theorem installCommand_inj {options : Options} {path path' : String} :
    installCommand options path = installCommand options path' ↔ path = path' := by
  unfold installCommand
  rw [String.append_left_inj, String.append_right_inj]

theorem count_groupScript (options : Options) (s : Script) (path : String) :
    (groupScript options s).count (.code "Installation" (installCommand options path)) =
      if s.1 = path then 1 else 0 := by
  simp only [groupScript, List.count_append]
  rw [count_present, count_present, count_present, count_present]
  · by_cases hs : s.1 = path <;> simp [installCommand_inj, hs]
  all_goals simp

def scriptDetails (options : Options) (s : Script) : List Part := (groupScript options s).drop 1

theorem ends_scriptDetails (options : Options) (s : Script) :
    ∀ p ∈ scriptDetails options s, p.ends 2 = false := by
  intro p hp
  simp only [scriptDetails, groupScript, List.mem_append, List.mem_cons, List.not_mem_nil, or_false,
    List.cons_append, List.nil_append, List.drop_succ_cons, List.drop_zero] at hp
  rcases hp with (((hp | hp) | hp) | hp) | rfl | rfl
  all_goals first | rfl | exact ends_of_mem_present (fun _ => rfl) hp

/-- A part that each script has once, for its own path, occurs once for each script. -/
theorem count_flatMap_mark {f : Script → List Part} {mark : String → Part}
    (h : ∀ s path, (f s).count (mark path) = if s.1 = path then 1 else 0) (l : List Script)
    (path : String) : (l.flatMap f).count (mark path) = (l.map (·.1)).count path := by
  induction l with
  | nil => rfl
  | cons s l ih =>
    rw [List.flatMap_cons, List.count_append, h, ih, List.map_cons, List.count_cons]
    simp [Nat.add_comm]

end Parts

section Components

variable (docs : DocSet)

theorem categories_perm :
    (docs.byCategory.keys.flatMap docs.inCategory).Perm docs.entries := by
  refine (flatMap_filter_perm docs.byCategory.nodup_keys docs.entries).trans (.of_eq ?_)
  refine List.filter_eq_self.mpr fun s hs => ?_
  simpa using DocSet.mem_byCategory_keys.mpr ⟨s, hs, rfl⟩

theorem components_eq :
    components docs = [.heading 1 "Component Documentation",
      .paragraph "Auto-generated documentation from script docstrings."] ++
      .heading 2 "Table of Contents" ::
        ((docs.byCategory.keys.map (fun c => .item (headingLink c)) ++ [.blank]) ++
          docs.byCategory.keys.flatMap fun c => .heading 2 c ::
            (docs.inCategory c).flatMap fun s => scriptSection s ++ [Part.blank, Part.rule]) := by
  simp [components, docs.byCategory_entries, List.flatMap_map, categoryParts, headingItem,
    Part.item]

theorem chapters_components :
    chapters 2 (components docs) =
      ("Table of Contents",
        docs.byCategory.keys.map (fun c => .item (headingLink c)) ++ [.blank]) ::
      docs.byCategory.keys.map fun c =>
        (c, (docs.inCategory c).flatMap fun s => scriptSection s ++ [Part.blank, Part.rule]) := by
  have hcategory : ∀ c, ∀ p ∈ (docs.inCategory c).flatMap (fun s =>
      scriptSection s ++ [Part.blank, Part.rule]), p.ends 2 = false := by
    intro c p hp
    obtain ⟨s, -, hp⟩ := List.mem_flatMap.mp hp
    exact ends_scriptSection s p hp
  rw [components_eq, chapters_append (by simp), chapters_heading]
  · exact congrArg _ (chapters_flatMap (fun c => c) _ hcategory _)
  · intro p hp
    simp only [List.mem_append, List.mem_map, List.mem_singleton] at hp
    rcases hp with ⟨c, -, rfl⟩ | rfl <;> rfl
  · cases docs.byCategory.keys <;> simp [Part.ends]

theorem count_components (path : String) :
    (components docs).count (fileLine path) = if path ∈ docs.keys then 1 else 0 := by
  have hchapter : ∀ c, (Part.heading 2 c :: (docs.inCategory c).flatMap fun s =>
      scriptSection s ++ [Part.blank, Part.rule]).count (fileLine path) =
        ((docs.inCategory c).map (·.1)).count path := fun c => by
    rw [List.count_cons_of_ne (by simp [fileLine]), count_flatMap_mark count_scriptSection]
  calc (components docs).count (fileLine path)
    _ = (docs.byCategory.keys.flatMap fun c => Part.heading 2 c ::
          (docs.inCategory c).flatMap fun s => scriptSection s ++ [Part.blank, Part.rule]).count
            (fileLine path) := by
      rw [components_eq]
      simp [List.count_append, fileLine, Part.item, List.count_eq_zero]
    _ = ((docs.byCategory.keys.flatMap docs.inCategory).map (·.1)).count path := by
      rw [List.count_flatMap, List.map_flatMap, List.count_flatMap]
      congr 1
      exact List.map_congr_left fun c _ => hchapter c
    _ = docs.keys.count path := ((categories_perm docs).map _).count_eq path
    _ = if path ∈ docs.keys then 1 else 0 := docs.nodup_keys.count

end Components

section Groups

variable (options : Options) (docs : DocSet)

theorem groups_perm :
    ((groups docs).keys.flatMap docs.inGroup).Perm
      (docs.entries.filter (directoryGroup ·.1 ∈ (groups docs).keys)) :=
  flatMap_filter_perm (groups docs).nodup_keys docs.entries

theorem chapters_groupPage (group : String) :
    chapters 2 (groupPage options group (docs.inGroup group)) =
      (docs.inGroup group).map fun s =>
        (s.2.title?.getD (scriptStem s.1), scriptDetails options s) := by
  rw [groupPage, chapters_append (by simp)]
  exact chapters_flatMap _ _ (ends_scriptDetails options) _

theorem count_groupPage (group path : String) :
    (groupPage options group (docs.inGroup group)).count
        (.code "Installation" (installCommand options path)) =
      if path ∈ docs.keys ∧ directoryGroup path = group then 1 else 0 := by
  have hpaths : (docs.inGroup group).map (·.1) = docs.keys.filter (directoryGroup · = group) := by
    rw [DocSet.inGroup, OrderedMap.keys, List.filter_map]
    rfl
  have hfront : [Part.heading 1 (group ++ " Components"),
      .paragraph ("Documentation for " ++ group ++ " installation scripts.")].count
        (.code "Installation" (installCommand options path)) = 0 := by simp
  have hnd : (docs.keys.filter (directoryGroup · = group)).Nodup := docs.nodup_keys.filter _
  rw [groupPage, List.count_append, count_flatMap_mark (count_groupScript options), hpaths, hfront,
    hnd.count, Nat.zero_add]
  simp [List.mem_filter]

theorem sum_inCategory :
    (docs.byCategory.keys.map fun c => (docs.inCategory c).length).sum = docs.size := by
  rw [← List.length_flatMap, (categories_perm docs).length_eq, OrderedMap.size]

theorem sum_inGroup :
    ((groups docs).keys.map fun g => (docs.inGroup g).length).sum +
      ((groupsWithoutPage docs).map fun g => (docs.inGroup g).length).sum = docs.size := by
  have hall : docs.entries.filter (directoryGroup ·.1 ∈ docs.byDirectory.keys) = docs.entries :=
    List.filter_eq_self.mpr fun s hs => by
      simpa using DocSet.mem_byDirectory_keys.mpr ⟨s, hs, rfl⟩
  calc _
    _ = (((groups docs).keys ++ groupsWithoutPage docs).map fun g =>
          (docs.inGroup g).length).sum := by rw [List.map_append, List.sum_append]
    _ = (docs.byDirectory.keys.map fun g => (docs.inGroup g).length).sum :=
      ((groups_append_perm docs).map _).sum_eq
    _ = docs.size := by
      unfold DocSet.inGroup
      rw [sum_length_filter docs.byDirectory.nodup_keys, hall, OrderedMap.size]

end Groups

/-- Where the scripts of a set stand on its pages, and how many the index page counts. -/
structure Shows (options : Options) (docs : DocSet) : Prop where
  /-- What is written is the texts of the categories with their scripts, the texts of the scripts of
  each group on its page, and the numbers of both. -/
  components_text : render (Page.components docs) =
    componentsText (docs.byCategory.keys.map fun c => (c, docs.inCategory c))
  pages_text : (groups docs).entries.map (fun e => (e.1, render (groupPage options e.1 e.2))) =
    (groups docs).keys.map fun g => (g, groupText options g (docs.inGroup g))
  index_text : render (index options docs) =
    indexText options.title docs.size
      (docs.byCategory.keys.map fun c => (c, (docs.inCategory c).length))
      ((groups docs).keys.map fun g => (g, (docs.inGroup g).length))
  categories_ascending : docs.byCategory.keys.Pairwise (· < ·)
  /-- The page of all components has a chapter for each category with the sections of its
  scripts, and before them the table of contents with an item for each category. -/
  components : chapters 2 (components docs) =
    ("Table of Contents", docs.byCategory.keys.map (fun c => .item (headingLink c)) ++ [.blank]) ::
    docs.byCategory.keys.map fun c =>
      (c, (docs.inCategory c).flatMap fun s => scriptSection s ++ [Part.blank, Part.rule])
  category_ascending : ∀ c, (docs.inCategory c).Pairwise (fun a b => a.1 < b.1)
  mem_category : ∀ c s, s ∈ docs.inCategory c ↔ s ∈ docs.entries ∧ s.2.category = c
  categories_perm : (docs.byCategory.keys.flatMap docs.inCategory).Perm docs.entries
  section_once : ∀ path, (Page.components docs).count (fileLine path) =
    if path ∈ docs.keys then 1 else 0
  /-- The page of a group has a chapter for each script of the group. -/
  pages : (groups docs).entries.map (fun e => groupPage options e.1 e.2) =
    (groups docs).keys.map fun g => groupPage options g (docs.inGroup g)
  page : ∀ g, chapters 2 (groupPage options g (docs.inGroup g)) =
    (docs.inGroup g).map fun s => (s.2.title?.getD (scriptStem s.1), scriptDetails options s)
  group_ascending : ∀ g, (docs.inGroup g).Pairwise (fun a b => a.1 < b.1)
  mem_group : ∀ g s, s ∈ docs.inGroup g ↔ s ∈ docs.entries ∧ directoryGroup s.1 = g
  groups_perm : ((groups docs).keys.flatMap docs.inGroup).Perm
    (docs.entries.filter (directoryGroup ·.1 ∈ (groups docs).keys))
  command_once : ∀ g path, (groupPage options g (docs.inGroup g)).count
    (.code "Installation" (installCommand options path)) =
      if path ∈ docs.keys ∧ directoryGroup path = g then 1 else 0
  /-- The numbers on the index page. -/
  total : ∀ text, .labelled "Total Scripts" text ∈ index options docs ↔ text = toString docs.size
  category_counts : listUnder (.label "Categories") (index options docs) =
    docs.byCategory.keys.map fun c => .item (c ++ ": " ++ scriptCount (docs.inCategory c).length)
  sum_categories : (docs.byCategory.keys.map fun c => (docs.inCategory c).length).sum = docs.size
  group_counts : listUnder (.heading 2 "Documentation Pages") (index options docs) =
    componentsItem :: (groups docs).keys.map fun g =>
      .item (link (g ++ " Components") (groupFile g) ++ " - " ++
        scriptCount (docs.inGroup g).length)
  sum_groups : ((groups docs).keys.map fun g => (docs.inGroup g).length).sum +
    ((groupsWithoutPage docs).map fun g => (docs.inGroup g).length).sum = docs.size

/-- No script is lost, shown twice or shown in a wrong place. -/
theorem shows (options : Options) (docs : DocSet) : Shows options docs := by
  constructor
  case components_text => exact render_components docs
  case pages_text => simp only [groups_entries, List.map_map, Function.comp_def, render_groupPage]
  case index_text => exact render_index options docs
  case categories_ascending => exact OrderedMap.keys_ascending _
  case components => exact chapters_components docs
  case category_ascending => exact fun c => docs.ascending.filter _
  case mem_category => simp [DocSet.inCategory, List.mem_filter]
  case categories_perm => exact Page.categories_perm docs
  case section_once => exact count_components docs
  case pages => rw [groups_entries, List.map_map]; rfl
  case page => exact chapters_groupPage options docs
  case group_ascending => exact fun g => docs.ascending.filter _
  case mem_group => simp [DocSet.inGroup, List.mem_filter]
  case groups_perm => exact Page.groups_perm docs
  case command_once => exact count_groupPage options docs
  case total => simp [index, categoryItem, componentsItem, groupItem, Part.item]
  case category_counts => exact listUnder_categories options docs
  case sum_categories => exact sum_inCategory docs
  case group_counts => exact listUnder_pages options docs
  case sum_groups => exact sum_inGroup docs

end ShellDocs.Page
