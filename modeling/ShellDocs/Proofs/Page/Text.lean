import ShellDocs.Page.Plan
import ShellDocs.Proofs.Page.Index

/-! # Texts of the pages

What is written for each page, letter for letter. The text of a page is put together from the texts
of its scripts, its categories or its links, in the order in which it has them.
-/

namespace ShellDocs.Page

section Texts

def enclosed (front back : String) (text : Option String) : String :=
  (text.map (front ++ · ++ back)).getD ""

def sectionText (s : Script) : String :=
  "### " ++ displayName s ++ "\n\n"
    ++ enclosed "" "\n\n" (s.2.value? "description")
    ++ ("**File:** `" ++ s.1 ++ "`\n\n")
    ++ enclosed "**Requirements:** " "\n\n" (s.2.value? "requires")
    ++ enclosed "**Usage:**\n```bash\n" "\n```\n\n" (s.2.value? "usage")
    ++ enclosed "**Example:**\n```bash\n" "\n```\n\n" (s.2.value? "example")
    ++ enclosed "**Notes:** " "\n\n" (s.2.value? "notes")
    ++ enclosed "" "\n\n" (versionLine? s.2)

def categoryText (category : String) (scripts : List Script) : String :=
  "## " ++ category ++ "\n\n" ++ String.join (scripts.map fun s => sectionText s ++ "\n---\n\n")

def contentsTop : String :=
  "# Component Documentation\n\nAuto-generated documentation from script docstrings.\n\n" ++
    "## Table of Contents\n\n"

/-- The page of all components, with the scripts of each category. -/
def componentsText (categories : List (String × List Script)) : String :=
  contentsTop
    ++ String.join (categories.map fun e => "- [" ++ e.1 ++ "](#" ++ anchor e.1 ++ ")\n")
    ++ "\n"
    ++ String.join (categories.map fun e => categoryText e.1 e.2)

def groupScriptText (options : Options) (s : Script) : String :=
  "## " ++ s.2.title?.getD (scriptStem s.1) ++ "\n\n"
    ++ enclosed "**Description:** " "\n\n" (s.2.value? "description")
    ++ enclosed "**Usage:**\n```bash\n" "\n```\n\n" (s.2.value? "usage")
    ++ enclosed "**Requirements:** " "\n\n" (s.2.value? "requires")
    ++ enclosed "**Notes:** " "\n\n" (s.2.value? "notes")
    ++ ("**Installation:**\n```bash\n" ++ installCommand options s.1 ++ "\n```\n\n")
    ++ "---\n\n"

/-- The page of a directory group with its scripts. -/
def groupText (options : Options) (group : String) (scripts : List Script) : String :=
  "# " ++ group ++ " Components\n\n"
    ++ ("Documentation for " ++ group ++ " installation scripts.\n\n")
    ++ String.join (scripts.map (groupScriptText options))

def countText (n : Nat) : String := toString n ++ if n = 1 then " script" else " scripts"

def indexTop (title : String) (total : Nat) : String :=
  "# " ++ title ++ "\n\n"
    ++ "This documentation is automatically generated from docstrings in the shell scripts.\n\n"
    ++ ("**Total Scripts:** " ++ toString total ++ "\n\n")
    ++ "**Categories:**\n"

def pagesTop : String :=
  "\n## Documentation Pages\n\n" ++
    "- [Components Documentation](components.md) - Detailed documentation for all components\n"

/-- The index page with the number of all scripts, of those in each category and of those on each
page of a group. -/
def indexText (title : String) (total : Nat) (categories pages : List (String × Nat)) : String :=
  indexTop title total
    ++ String.join (categories.map fun e => "- " ++ e.1 ++ ": " ++ countText e.2 ++ "\n")
    ++ pagesTop
    ++ String.join (pages.map fun e =>
        "- [" ++ e.1 ++ " Components](" ++ groupFile e.1 ++ ") - " ++ countText e.2 ++ "\n")
    ++ "\n"

end Texts

section Parts

namespace Part

@[simp] theorem hashes_one : hashes 1 = "#" := by decide

@[simp] theorem hashes_two : hashes 2 = "##" := by decide

@[simp] theorem hashes_three : hashes 3 = "###" := by decide

@[simp] theorem render_heading (level : Nat) (text : String) :
    (heading level text).render = hashes level ++ " " ++ text ++ "\n\n" := rfl

@[simp] theorem render_paragraph (text : String) :
    (paragraph text).render = text ++ "\n\n" := rfl

@[simp] theorem render_label (l : String) : (label l).render = "**" ++ l ++ ":**\n" := rfl

@[simp] theorem render_labelled (l text : String) :
    (labelled l text).render = "**" ++ l ++ ":** " ++ text ++ "\n\n" := rfl

@[simp] theorem render_code (l text : String) :
    (code l text).render = "**" ++ l ++ ":**\n```bash\n" ++ text ++ "\n```\n\n" := rfl

@[simp] theorem render_rule : rule.render = "---\n\n" := rfl

@[simp] theorem render_blank : blank.render = "\n" := rfl

end Part

variable {α : Type}

@[simp] theorem render_nil : render [] = "" := by decide

@[simp] theorem render_cons (p : Part) (parts : List Part) :
    render (p :: parts) = p.render ++ render parts := String.join_cons

@[simp] theorem render_append (parts rest : List Part) :
    render (parts ++ rest) = render parts ++ render rest := by
  rw [render, List.map_append, String.join_append, render, render]

theorem render_map (part : α → Part) (l : List α) :
    render (l.map part) = String.join (l.map fun a => (part a).render) := by
  rw [render, List.map_map]
  rfl

theorem render_flatMap (parts : α → List Part) (l : List α) :
    render (l.flatMap parts) = String.join (l.map fun a => render (parts a)) := by
  induction l with
  | nil => rfl
  | cons a l ih => rw [List.flatMap_cons, render_append, ih, List.map_cons, String.join_cons]

theorem render_present {part : String → Part} {front back : String}
    (h : ∀ text, (part text).render = front ++ text ++ back) (text : Option String) :
    render (present part text) = enclosed front back text := by
  cases text with
  | none => rfl
  | some text => simp [present, enclosed, h]

theorem render_present_paragraph (text : Option String) :
    render (present .paragraph text) = enclosed "" "\n\n" text :=
  render_present (by simp) text

theorem render_present_labelled (label : String) (text : Option String) :
    render (present (.labelled label) text) = enclosed ("**" ++ label ++ ":** ") "\n\n" text :=
  render_present (by simp) text

theorem render_present_code (label : String) (text : Option String) :
    render (present (.code label) text) =
      enclosed ("**" ++ label ++ ":**\n```bash\n") "\n```\n\n" text :=
  render_present (by simp [String.append_assoc]) text

end Parts

section Render

variable (options : Options) (docs : DocSet) (s : Script)

theorem render_file (path : String) :
    (Part.labelled "File" ("`" ++ path ++ "`")).render = "**File:** `" ++ path ++ "`\n\n" := by
  simp [← String.toList_inj]

theorem render_headingItem (c : String) :
    (Part.line (headingItem c)).render = "- [" ++ c ++ "](#" ++ anchor c ++ ")\n" := by
  simp [← String.toList_inj, Part.render, headingItem, headingLink, link]

theorem scriptCount_eq (n : Nat) : scriptCount n = countText n := by
  unfold scriptCount countText
  by_cases h : n = 1
  · subst h
    decide
  · rw [if_neg h, if_neg h]

theorem render_categoryItem (c : String) (scripts : List Script) :
    (categoryItem c scripts).render = "- " ++ c ++ ": " ++ countText scripts.length ++ "\n" := by
  rw [categoryItem, scriptCount_eq]
  simp only [Part.item, Part.render, String.append_assoc]

theorem render_groupItem (g : String) (scripts : List Script) :
    (groupItem g scripts).render =
      "- [" ++ g ++ " Components](" ++ groupFile g ++ ") - " ++
        countText scripts.length ++ "\n" := by
  rw [groupItem, scriptCount_eq]
  simp [← String.toList_inj, Part.item, Part.render, link]

theorem render_scriptSection : render (scriptSection s) = sectionText s := by
  simp only [scriptSection, render_append, render_cons, render_nil, render_present_paragraph,
    render_present_labelled, render_present_code, render_file, Part.render_heading,
    Part.hashes_three, sectionText, String.reduceAppend, String.append_empty]

theorem render_groupScript : render (groupScript options s) = groupScriptText options s := by
  simp only [groupScript, render_append, render_cons, render_nil, render_present_labelled,
    render_present_code, Part.render_heading, Part.render_code, Part.render_rule, Part.hashes_two,
    groupScriptText, String.reduceAppend, String.append_empty]
  simp only [String.append_assoc]

theorem render_categoryParts (c : String) (scripts : List Script) :
    render (categoryParts c scripts) = categoryText c scripts := by
  simp only [categoryParts, render_cons, render_flatMap, render_append, render_nil,
    render_scriptSection, Part.render_heading, Part.render_blank, Part.render_rule,
    Part.hashes_two, categoryText, String.reduceAppend, String.append_empty]

theorem render_components : render (components docs) =
    componentsText (docs.byCategory.keys.map fun c => (c, docs.inCategory c)) := by
  have htop : render [.heading 1 "Component Documentation",
      .paragraph "Auto-generated documentation from script docstrings.",
      .heading 2 "Table of Contents"] = contentsTop := by decide
  have hblank : render [.blank] = "\n" := by decide
  rw [components, docs.byCategory_entries, List.flatMap_map, render_append, render_append,
    render_append, htop, hblank, render_map, render_flatMap, componentsText, List.map_map,
    List.map_map]
  simp only [render_headingItem, render_categoryParts, Function.comp_def]

theorem render_groupPage (group : String) (scripts : List Script) :
    render (groupPage options group scripts) = groupText options group scripts := by
  have hscripts : (fun s => render (groupScript options s)) = groupScriptText options :=
    funext (render_groupScript options)
  simp only [groupPage, render_append, render_cons, render_nil, render_flatMap, hscripts, groupText,
    Part.render_heading, Part.render_paragraph, Part.hashes_one, String.reduceAppend,
    String.append_empty]
  simp only [String.append_assoc, String.reduceAppend]

theorem render_index : render (index options docs) =
    indexText options.title docs.size
      (docs.byCategory.keys.map fun c => (c, (docs.inCategory c).length))
      ((groups docs).keys.map fun g => (g, (docs.inGroup g).length)) := by
  have htop : render [.heading 1 options.title,
      .paragraph
        "This documentation is automatically generated from docstrings in the shell scripts.",
      .labelled "Total Scripts" (toString docs.size), .label "Categories"] =
        indexTop options.title docs.size := by
    simp only [render_cons, render_nil, Part.render_heading, Part.render_paragraph,
      Part.render_labelled, Part.render_label, Part.hashes_one, indexTop, String.reduceAppend,
      String.append_empty]
    simp only [String.append_assoc]
  have hpages : render [.blank, .heading 2 "Documentation Pages", componentsItem] = pagesTop := by
    decide
  have hblank : render [.blank] = "\n" := by decide
  rw [index, docs.byCategory_entries, groups_entries, render_append, render_append, render_append,
    render_append, htop, hpages, hblank, render_map, render_map, indexText, List.map_map,
    List.map_map, List.map_map, List.map_map]
  simp only [render_categoryItem, render_groupItem, Function.comp_def]

end Render

end ShellDocs.Page
