import ShellDocs.Generate
import ShellDocs.Proofs.Grouping

/-! # What the pages show

The pages show nine fields of a script and take an empty text for none. Whatever else is recorded
of a script, its place on disk included, changes no page, no name of a page and no notice.
-/

namespace ShellDocs

open Page

namespace Fields

/-- The fields that the pages show where they are there. Every script has a category besides. -/
def shownNames : List String :=
  ["name", "description", "requires", "usage", "example", "notes", "version", "author"]

/-- Two scripts with these fields look the same. -/
structure ShowsAlike (f f' : Fields) : Prop where
  value? : ∀ name ∈ shownNames, f.value? name = f'.value? name
  category : f.category = f'.category

variable {f f' : Fields}

theorem value?_insert_of_ne {name other : String} (h : name ≠ other) (f : Fields) (text : String) :
    value? (f.insert other text) name = f.value? name := by
  rw [value?, OrderedMap.get?_insert, if_neg h, value?]

theorem category_ne_empty (f : Fields) : f.category ≠ "" := by
  unfold category value?
  cases h : (f.get? "category").filter (· ≠ "") with
  | none => decide
  | some text => simpa using (Option.filter_eq_some_iff.mp h).2

def shown (f : Fields) : Fields :=
  (f.filter fun name => name ∈ shownNames ∧ (f.value? name).isSome).insert "category" f.category

theorem showsAlike_shown (f : Fields) : f.shown.ShowsAlike f where
  value? name hn := by
    have hne : name ≠ "category" := by
      rintro rfl
      revert hn
      decide
    rw [shown, value?_insert_of_ne hne, value?, OrderedMap.get?_filter]
    cases hv : f.value? name with
    | none => simp
    | some text =>
      rw [value?] at hv
      simpa [hn] using hv
  category := by
    rw [category, value?, shown, OrderedMap.get?_insert, if_pos rfl, Option.filter_some,
      if_pos (by simpa using f.category_ne_empty), Option.getD_some]

theorem ShowsAlike.shown_eq (h : f.ShowsAlike f') : f.shown = f'.shown := by
  refine OrderedMap.ext_get? fun name => ?_
  have hget : ∀ f : Fields, (f.value? name).isSome → f.get? name = f.value? name := by
    intro f hs
    obtain ⟨text, ht⟩ := Option.isSome_iff_exists.mp hs
    rw [ht, (Option.filter_eq_some_iff.mp ht).1]
  simp only [shown, OrderedMap.get?_insert, OrderedMap.get?_filter, decide_eq_true_eq, h.category]
  by_cases hn : name ∈ shownNames
  · by_cases hs : (f.value? name).isSome
    · rw [hget f hs, hget f' (h.value? name hn ▸ hs), h.value? name hn]
    · simp [hs, h.value? name hn ▸ hs]
  · simp [hn]

end Fields

/-- Two sets have the same scripts, up to what the pages do not show. -/
def DocSet.ShowsAlike (docs docs' : DocSet) : Prop :=
  ∀ path, Option.Rel Fields.ShowsAlike (docs.get? path) (docs'.get? path)

def DocSet.mapFields (g : Fields → Fields) (docs : DocSet) : DocSet := docs.mapValues g

theorem DocSet.ShowsAlike.shown_eq {docs docs' : DocSet} (h : docs.ShowsAlike docs') :
    docs.mapFields Fields.shown = docs'.mapFields Fields.shown := by
  refine OrderedMap.ext_get? fun path => ?_
  have hp := h path
  rw [mapFields, mapFields, OrderedMap.get?_mapValues, OrderedMap.get?_mapValues]
  generalize docs.get? path = fields at hp
  generalize docs'.get? path = fields' at hp
  cases hp with
  | some hs => exact congrArg some hs.shown_eq
  | none => rfl

theorem DocSet.ShowsAlike.keys_eq {docs docs' : DocSet} (h : docs.ShowsAlike docs') :
    docs.keys = docs'.keys := by
  have hshown := congrArg OrderedMap.keys h.shown_eq
  rwa [mapFields, mapFields, OrderedMap.keys_mapValues, OrderedMap.keys_mapValues] at hshown

theorem DocSet.ShowsAlike.isEmpty_eq {docs docs' : DocSet} (h : docs.ShowsAlike docs') :
    docs.isEmpty = docs'.isEmpty := by
  have hkeys := congrArg List.isEmpty h.keys_eq
  rwa [OrderedMap.keys, OrderedMap.keys, List.isEmpty_map, List.isEmpty_map] at hkeys

def Script.mapFields (g : Fields → Fields) (s : Script) : Script := (s.1, g s.2)

namespace Page

section Parts

variable {g : Fields → Fields} (hg : ∀ f, (g f).ShowsAlike f) (s : Script) (scripts : List Script)
include hg

theorem title?_eq (f : Fields) : (g f).title? = f.title? := (hg f).value? "name" (by decide)

theorem versionLine?_eq (f : Fields) : versionLine? (g f) = versionLine? f := by
  rw [versionLine?, versionLine?, (hg f).value? "version" (by decide),
    (hg f).value? "author" (by decide)]

theorem scriptSection_mapFields : scriptSection (Script.mapFields g s) = scriptSection s := by
  have hv := (hg s.2).value?
  simp only [scriptSection, Script.mapFields, displayName, title?_eq hg, versionLine?_eq hg,
    hv "description" (by decide), hv "requires" (by decide), hv "usage" (by decide),
    hv "example" (by decide), hv "notes" (by decide)]

theorem groupScript_mapFields (options : Options) :
    groupScript options (Script.mapFields g s) = groupScript options s := by
  have hv := (hg s.2).value?
  simp only [groupScript, Script.mapFields, title?_eq hg, hv "description" (by decide),
    hv "requires" (by decide), hv "usage" (by decide), hv "notes" (by decide)]

theorem categoryParts_map (category : String) :
    categoryParts category (scripts.map (Script.mapFields g)) = categoryParts category scripts := by
  simp only [categoryParts, List.flatMap_map, scriptSection_mapFields hg]

theorem groupPage_map (options : Options) (group : String) :
    groupPage options group (scripts.map (Script.mapFields g)) =
      groupPage options group scripts := by
  simp only [groupPage, List.flatMap_map, groupScript_mapFields hg]

end Parts

section Site

variable {g : Fields → Fields}

theorem claimFiles_map (f : List Script → List Script) (taken : List String)
    (gs : List (String × List Script)) :
    claimFiles taken (gs.map fun e => (e.1, f e.2)) =
      (claimFiles taken gs).map fun e => (e.1, f e.2) := by
  induction gs generalizing taken with
  | nil => rfl
  | cons d rest ih =>
    simp only [List.map_cons, claimFiles]
    split
    · exact ih taken
    · rw [ih, List.map_cons]

theorem byDirectory_mapFields (g : Fields → Fields) (docs : DocSet) :
    (docs.mapFields g).byDirectory = docs.byDirectory.mapValues (List.map (Script.mapFields g)) :=
  OrderedMap.groupBy_map (fun s : Script => directoryGroup s.1) (Script.mapFields g) docs.entries

theorem groups_mapFields (g : Fields → Fields) (docs : DocSet) :
    groups (docs.mapFields g) = (groups docs).mapValues (List.map (Script.mapFields g)) := by
  refine OrderedMap.ext_entries ?_
  simp only [groups, byDirectory_mapFields, OrderedMap.entries_mapValues]
  exact claimFiles_map _ _ _

theorem planNotices_mapFields (g : Fields → Fields) (docs : DocSet) :
    planNotices (docs.mapFields g) = planNotices docs := by
  have hc : ∀ group, (groups (docs.mapFields g)).contains group = (groups docs).contains group := by
    intro group
    rw [OrderedMap.contains, OrderedMap.contains, groups_mapFields, OrderedMap.get?_mapValues,
      Option.isSome_map]
  simp only [planNotices, groupsWithoutPage, byDirectory_mapFields, OrderedMap.keys_mapValues, hc]

variable (hg : ∀ f, (g f).ShowsAlike f) (docs : DocSet)
include hg

theorem byCategory_mapFields :
    (docs.mapFields g).byCategory = docs.byCategory.mapValues (List.map (Script.mapFields g)) := by
  have hkey : (fun s => (Script.mapFields g s).2.category) = fun s : Script => s.2.category :=
    funext fun s => (hg s.2).category
  have h := OrderedMap.groupBy_map (fun s : Script => s.2.category) (Script.mapFields g)
    docs.entries
  rwa [hkey] at h

theorem components_mapFields : components (docs.mapFields g) = components docs := by
  simp only [components, byCategory_mapFields hg, OrderedMap.keys_mapValues,
    OrderedMap.entries_mapValues, List.flatMap_map, categoryParts_map hg]

theorem index_mapFields (options : Options) :
    index options (docs.mapFields g) = index options docs := by
  have hsize : (docs.mapFields g).size = docs.size := List.length_map _
  simp only [index, hsize, byCategory_mapFields hg, groups_mapFields,
    OrderedMap.entries_mapValues, List.map_map, Function.comp_def, categoryItem, groupItem,
    List.length_map]

theorem plan_mapFields (options : Options) :
    plan options (docs.mapFields g) = plan options docs := by
  simp only [plan, groups_mapFields, OrderedMap.entries_mapValues, OrderedMap.keys_mapValues,
    List.map_map, Function.comp_def, groupPage_map hg, components_mapFields hg,
    index_mapFields hg]

end Site

theorem plan_eq_of_showsAlike {docs docs' : DocSet} (h : docs.ShowsAlike docs')
    (options : Options) : plan options docs = plan options docs' := by
  rw [← plan_mapFields Fields.showsAlike_shown docs options, h.shown_eq,
    plan_mapFields Fields.showsAlike_shown docs' options]

theorem planNotices_eq_of_showsAlike {docs docs' : DocSet} (h : docs.ShowsAlike docs') :
    planNotices docs = planNotices docs' := by
  rw [← planNotices_mapFields Fields.shown docs, h.shown_eq, planNotices_mapFields]

end Page

end ShellDocs
