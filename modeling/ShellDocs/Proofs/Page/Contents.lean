import Mathlib.Data.List.Nodup
import ShellDocs.Preview.HeadingId
import ShellDocs.Proofs.Page.Scripts
import ShellDocs.Proofs.Text.Bytes

/-! # The table of contents

The table of contents of the page of all components links each category by the identifier that the
heading of the category gets. A link leads to the first heading with its identifier, and this is the
heading of the category unless one of the headings above has the same identifier.
-/

namespace ShellDocs.Page

open Markdown

def Part.heading? : Part → Option (Nat × String)
  | .heading level text => some (level, text)
  | _ => none

def headings (parts : List Part) : List (Nat × String) := parts.filterMap Part.heading?

def headingEvents (h : Nat × String) : List Event := around (.heading h.1 none) [.text h.2]

def identifier? : Event → Option String
  | .start (.heading _ id ..) => id
  | _ => none

/-- The identifiers for the headings of a page, where the text of a heading is taken as a single
text, with no markup in it. -/
def identifiers (parts : List Part) : List String :=
  (Preview.withHeadingIds ((headings parts).flatMap headingEvents)).filterMap identifier?

/-- What a heading on the page of all components is for. -/
inductive Heading where
  | title
  | contents
  | category (name : String)
  | script (s : Script)
deriving DecidableEq

namespace Heading

def level : Heading → Nat
  | title => 1
  | contents | category _ => 2
  | script _ => 3

def text : Heading → String
  | title => "Component Documentation"
  | contents => "Table of Contents"
  | category name => name
  | script s => displayName s

end Heading

def chapterOutline (docs : DocSet) (category : String) : List Heading :=
  .category category :: (docs.inCategory category).map .script

/-- The headings of the page of all components. -/
def outline (docs : DocSet) : List Heading :=
  .title :: .contents :: docs.byCategory.keys.flatMap (chapterOutline docs)

/-- The first heading of the page of all components that has the identifier. -/
def target? (docs : DocSet) (id : String) : Option Heading :=
  (((outline docs).zip (identifiers (components docs))).find? (·.2 = id)).map (·.1)

section Identifiers

theorem headings_append (parts rest : List Part) :
    headings (parts ++ rest) = headings parts ++ headings rest := List.filterMap_append

@[simp] theorem headings_heading (level : Nat) (text : String) (rest : List Part) :
    headings (.heading level text :: rest) = (level, text) :: headings rest := rfl

@[simp] theorem headings_paragraph (text : String) (rest : List Part) :
    headings (.paragraph text :: rest) = headings rest := rfl

@[simp] theorem headings_nil : headings [] = [] := rfl

theorem headings_flatMap {α : Type} (f : α → List Part) (l : List α) :
    headings (l.flatMap f) = l.flatMap fun a => headings (f a) := by
  simp only [headings, List.filterMap_flatMap]

theorem headings_present {part : String → Part} (h : ∀ text, (part text).heading? = none)
    (text : Option String) : headings (present part text) = [] := by
  cases text with
  | none => rfl
  | some text => simp [present, headings, h]

theorem headings_scriptSection (s : Script) :
    headings (scriptSection s ++ [.blank, .rule]) = [(3, displayName s)] := by
  simp only [scriptSection, headings_append]
  rw [headings_present, headings_present, headings_present, headings_present, headings_present,
    headings_present]
  · rfl
  all_goals exact fun _ => rfl

theorem headings_components (docs : DocSet) :
    headings (components docs) = (outline docs).map fun h => (h.level, h.text) := by
  have hchapter : ∀ c, headings (.heading 2 c :: (docs.inCategory c).flatMap fun s =>
      scriptSection s ++ [Part.blank, Part.rule]) =
        (chapterOutline docs c).map fun h => (h.level, h.text) := by
    intro c
    rw [← List.singleton_append, headings_append, headings_flatMap]
    simp only [headings_scriptSection, ← List.map_eq_flatMap, chapterOutline, List.map_cons,
      List.map_map]
    rfl
  have hitems : headings (docs.byCategory.keys.map (fun c => Part.item (headingLink c)) ++
      [.blank]) = [] := by
    simp [headings, Part.heading?, Part.item]
  rw [components_eq, headings_append, headings_heading, headings_paragraph, headings_nil,
    headings_heading, headings_append, hitems, headings_flatMap]
  simp only [hchapter, outline, List.map_cons, List.map_flatMap]
  rfl

theorem withHeadingIds_headingEvents (h : Nat × String) (rest : List Event) :
    Preview.withHeadingIds (headingEvents h ++ rest) =
      .start (.heading h.1 (some (anchor h.2))) :: .text h.2 :: .stop (.heading h.1 none) ::
        Preview.withHeadingIds rest := by
  have htext : Preview.headingText (.text h.2 :: .stop (.heading h.1 none) :: rest) = h.2 := by
    simp [Preview.headingText, Preview.isHeadingStop, Preview.textOf?]
  rw [← htext]
  rfl

theorem identifiers_eq (parts : List Part) :
    identifiers parts = (headings parts).map fun h => anchor h.2 := by
  unfold identifiers
  induction headings parts with
  | nil => rfl
  | cons h hs ih =>
    rw [List.flatMap_cons, withHeadingIds_headingEvents, List.map_cons, ← ih]
    rfl

theorem identifiers_components (docs : DocSet) :
    identifiers (components docs) = (outline docs).map (anchor ·.text) := by
  rw [identifiers_eq, headings_components, List.map_map]
  rfl

theorem target?_eq (docs : DocSet) (id : String) :
    target? docs id = (outline docs).find? (anchor ·.text = id) := by
  rw [target?, identifiers_components, ← List.map_prod_left_eq_zip, List.find?_map, Option.map_map]
  simp only [Function.comp_def, Option.map_id']

end Identifiers

section Above

variable {docs : DocSet} {c : String}

def Above (docs : DocSet) (c : String) : Heading → Prop
  | .title | .contents => True
  | .category c' => c' ∈ docs.byCategory.keys ∧ c' < c
  | .script s => s ∈ docs.entries ∧ s.2.category < c

theorem mem_chapterOutline {h : Heading} :
    h ∈ chapterOutline docs c ↔
      h = .category c ∨ ∃ s ∈ docs.entries, s.2.category = c ∧ h = .script s := by
  simp [chapterOutline, DocSet.inCategory, and_assoc, eq_comm (a := h)]

theorem mem_chapters_iff {ks : List String} {h : Heading} :
    h ∈ ks.flatMap (chapterOutline docs) ↔
      (∃ c ∈ ks, h = .category c) ∨ ∃ s ∈ docs.entries, s.2.category ∈ ks ∧ h = .script s := by
  simp only [List.mem_flatMap, mem_chapterOutline]
  constructor
  · rintro ⟨c, hc, rfl | ⟨s, hs, rfl, rfl⟩⟩
    · exact .inl ⟨c, hc, rfl⟩
    · exact .inr ⟨s, hs, hc, rfl⟩
  · rintro (⟨c, hc, rfl⟩ | ⟨s, hs, hc, rfl⟩)
    · exact ⟨c, hc, .inl rfl⟩
    · exact ⟨_, hc, .inr ⟨s, hs, rfl, rfl⟩⟩

theorem exists_outline_eq (hc : c ∈ docs.byCategory.keys) :
    ∃ front back, outline docs = front ++ .category c :: back ∧
      ∀ h, h ∈ front ↔ Above docs c h := by
  obtain ⟨ks, ks', hks⟩ := List.mem_iff_append.mp hc
  -- the keys ascend, so that those in front of the category are the smaller ones
  have hmem : ∀ c', c' ∈ ks ↔ c' ∈ docs.byCategory.keys ∧ c' < c := by
    have hasc := hks ▸ docs.byCategory.keys_ascending
    rw [List.pairwise_append, List.pairwise_cons] at hasc
    obtain ⟨-, ⟨hafter, -⟩, hbefore⟩ := hasc
    intro c'
    rw [hks, List.mem_append, List.mem_cons]
    constructor
    · exact fun hm => ⟨.inl hm, hbefore c' hm c List.mem_cons_self⟩
    · rintro ⟨hm | rfl | hm, hlt⟩
      · exact hm
      · exact absurd hlt Std.lt_irrefl
      · exact absurd (hafter c' hm) (Std.not_lt.mpr (Std.le_of_lt hlt))
  refine ⟨.title :: .contents :: ks.flatMap (chapterOutline docs),
    (docs.inCategory c).map .script ++ ks'.flatMap (chapterOutline docs), ?_, fun h => ?_⟩
  · rw [outline, hks, List.flatMap_append, List.flatMap_cons, chapterOutline]
    rfl
  · rw [List.mem_cons, List.mem_cons, mem_chapters_iff]
    cases h with
    | title => simp [Above]
    | contents => simp [Above]
    | category c' => simp [Above, hmem]
    | script s =>
      simp only [Above, hmem, reduceCtorEq, and_false, exists_false, false_or,
        Heading.script.injEq]
      constructor
      · rintro ⟨s, hs, ⟨-, hlt⟩, rfl⟩
        exact ⟨hs, hlt⟩
      · rintro ⟨hs, hlt⟩
        exact ⟨s, hs, ⟨DocSet.mem_byCategory_keys.mpr ⟨s, hs, rfl⟩, hlt⟩, rfl⟩

/-- The entry of a category leads to the first heading with its identifier above the heading of the
category, or else to this one. -/
theorem target?_cases (hc : c ∈ docs.byCategory.keys) :
    target? docs (anchor c) = some (.category c) ∧
        (∀ h, Above docs c h → anchor h.text ≠ anchor c) ∨
      ∃ h, target? docs (anchor c) = some h ∧ Above docs c h ∧ anchor h.text = anchor c := by
  obtain ⟨front, back, ho, hmem⟩ := exists_outline_eq hc
  rw [target?_eq, ho, List.find?_append]
  cases hf : front.find? (anchor ·.text = anchor c) with
  | none =>
    refine .inl ⟨?_, fun h hh he => ?_⟩
    · rw [Option.none_or, List.find?_cons_of_pos (by simp [Heading.text])]
    · have := List.find?_eq_none.mp hf h ((hmem h).mpr hh)
      simp [he] at this
  | some h =>
    refine .inr ⟨h, rfl, (hmem h).mp (List.mem_of_find?_eq_some hf), ?_⟩
    simpa using List.find?_some hf

theorem not_above_self : ¬ Above docs c (.category c) := fun h => Std.lt_irrefl h.2

theorem target?_eq_category_iff (hc : c ∈ docs.byCategory.keys) :
    target? docs (anchor c) = some (.category c) ↔
      ∀ h, Above docs c h → anchor h.text ≠ anchor c := by
  rcases target?_cases hc with ⟨ht, hnone⟩ | ⟨h, ht, hh, he⟩
  · exact iff_of_true ht hnone
  · refine iff_of_false (fun ht' => ?_) fun hnone => hnone h hh he
    obtain rfl := Option.some.inj (ht.symm.trans ht')
    exact not_above_self hh

theorem nodup_outline (docs : DocSet) : (outline docs).Nodup := by
  have hentries : docs.entries.Nodup :=
    docs.ascending.imp fun hab he => absurd (he ▸ hab) Std.lt_irrefl
  have hchapters : (docs.byCategory.keys.flatMap (chapterOutline docs)).Nodup := by
    -- a script is in the chapter of its category only
    refine List.nodup_flatMap.mpr ⟨fun c _ => ?_, ?_⟩
    · refine List.nodup_cons.mpr ⟨by simp, ?_⟩
      exact (hentries.filter _).map fun _ _ => Heading.script.inj
    · refine docs.byCategory.nodup_keys.imp fun {c c'} hne h hm hm' => ?_
      rw [mem_chapterOutline] at hm hm'
      rcases hm with rfl | ⟨s, -, rfl, rfl⟩
      · simp [hne] at hm'
      · obtain h | ⟨s', -, rfl, h⟩ := hm'
        · cases h
        · exact hne (by rw [Heading.script.inj h])
  refine List.nodup_cons.mpr ⟨?_, List.nodup_cons.mpr ⟨?_, hchapters⟩⟩
  · rw [List.mem_cons, mem_chapters_iff]
    simp
  · rw [mem_chapters_iff]
    simp

theorem forall_above_iff {P : Heading → Prop} :
    (∀ h, Above docs c h → P h) ↔ P .title ∧ P .contents ∧
      (∀ c' ∈ docs.byCategory.keys, c' < c → P (.category c')) ∧
      ∀ s ∈ docs.entries, s.2.category < c → P (.script s) := by
  constructor
  · exact fun h => ⟨h .title trivial, h .contents trivial,
      fun c' hc hlt => h (.category c') ⟨hc, hlt⟩, fun s hs hlt => h (.script s) ⟨hs, hlt⟩⟩
  · rintro ⟨htitle, hcontents, hcategory, hscript⟩ (_ | _ | c' | s) hh
    · exact htitle
    · exact hcontents
    · exact hcategory c' hh.1 hh.2
    · exact hscript s hh.1 hh.2

theorem listUnder_components (docs : DocSet) :
    listUnder (.heading 2 "Table of Contents") (components docs) =
      docs.byCategory.keys.map fun c => .item (headingLink c) := by
  rw [components_eq, List.append_assoc]
  exact listUnder_append (by simp) (by simp [Part.item]) _

end Above

/-- Where the entries of the table of contents lead. -/
structure Leads (docs : DocSet) : Prop where
  text_eq : render (components docs) =
    componentsText (docs.byCategory.keys.map fun c => (c, docs.inCategory c))
  headings_eq : headings (components docs) = (outline docs).map fun h => (h.level, h.text)
  identifiers_eq : identifiers (components docs) = (outline docs).map (anchor ·.text)
  nodup : (outline docs).Nodup
  entries_eq : listUnder (.heading 2 "Table of Contents") (components docs) =
    docs.byCategory.keys.map fun c => .item (link c ("#" ++ anchor c))
  /-- An entry leads to its own category if and only if no heading above has the same identifier. -/
  target_iff : ∀ c ∈ docs.byCategory.keys,
    target? docs (anchor c) = some (.category c) ↔
      anchor c ≠ "component-documentation" ∧ anchor c ≠ "table-of-contents" ∧
      (∀ c' ∈ docs.byCategory.keys, Text.bytes c' < Text.bytes c → anchor c' ≠ anchor c) ∧
      ∀ s ∈ docs.entries, Text.bytes s.2.category < Text.bytes c →
        anchor (displayName s) ≠ anchor c
  /-- Any other entry leads to the first of those headings. -/
  target_above : ∀ c ∈ docs.byCategory.keys,
    target? docs (anchor c) = some (.category c) ∨
      ∃ h, target? docs (anchor c) = some h ∧ Above docs c h ∧ anchor h.text = anchor c
  distinct : ∀ c c', target? docs (anchor c) = some (.category c) →
    target? docs (anchor c') = some (.category c') → c ≠ c' → anchor c ≠ anchor c'

theorem leads (docs : DocSet) : Leads docs where
  text_eq := render_components docs
  headings_eq := headings_components docs
  identifiers_eq := identifiers_components docs
  nodup := nodup_outline docs
  entries_eq := listUnder_components docs
  target_iff c hc := by
    have htitle : anchor "Component Documentation" = "component-documentation" := by
      decide +kernel
    have hcontents : anchor "Table of Contents" = "table-of-contents" := by decide +kernel
    rw [target?_eq_category_iff hc, forall_above_iff]
    simp only [Heading.text, htitle, hcontents, Text.bytes_lt_bytes_iff, ne_comm]
  target_above c hc := (target?_cases hc).imp_left And.left
  distinct c c' hc hc' hne he := by
    rw [he] at hc
    exact hne (Heading.category.inj (Option.some.inj (hc.symm.trans hc')))

/-- Not every entry leads to its own category: letter case makes no difference to an identifier. -/
theorem not_forall_target :
    ¬ ∀ (docs : DocSet), ∀ c ∈ docs.byCategory.keys,
      target? docs (anchor c) = some (.category c) := by
  intro h
  have hpython := h (OrderedMap.ofList [
    ("a.sh", OrderedMap.ofList [("category", "Python")]),
    ("b.sh", OrderedMap.ofList [("category", "python")])]) "python" (by decide +kernel)
  revert hpython
  decide +kernel

end ShellDocs.Page
