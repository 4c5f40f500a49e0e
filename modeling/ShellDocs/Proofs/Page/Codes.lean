import ShellDocs.Page.Group
import ShellDocs.Proofs.Block.RoundTrip
import ShellDocs.Proofs.Page.Fences

/-! # Code of the scripts

The usage, the example and the command of a script stand between fences, each on one line. A
reader finds these blocks and no others if the description opens no fence of its own and no code
looks like the fence that ends its block, and only then.
-/

namespace ShellDocs.Page

open Markdown

section Kinds

variable {l : List Char} {c : Char} {title text : String} {level : Nat}

/-- Most characters at the start of a line rule out that it opens a fence. -/
theorem fence?_eq_none (hc : c ∉ [' ', '`', '~']) : fence? (c :: l) = none := by
  obtain ⟨hs, hb, ht⟩ : c ≠ ' ' ∧ c ≠ '`' ∧ c ≠ '~' := by simpa using hc
  simp [fence?, unindented?, runLength, hs, hb, ht]

theorem not_closes {f : Fence} (hf : f.count ≠ 0) (hs : c ≠ ' ') (hm : c ≠ f.mark) :
    ¬ closes f (c :: l) := by
  simp [closes, unindented?, runLength, hs, hm, hf]

theorem lines_paragraph (h : '\n' ∉ l) : Text.lines (l ++ ['\n', '\n']) =
    [if l.getLast? = some '\r' then l.dropLast else l, []] :=
  Text.lines_append_newline h ['\n']

theorem fence?_of_mem_lines (hl : l.head? = some c) (h : '\n' ∉ l) (hc : c ∉ [' ', '`', '~']) :
    ∀ x ∈ Text.lines (l ++ ['\n', '\n']), fence? x = none := by
  have hempty : fence? [] = none := by decide
  obtain ⟨rest, rfl⟩ : ∃ rest, l = c :: rest := ⟨l.tail, List.eq_cons_of_mem_head? hl⟩
  rw [lines_paragraph h]
  intro x hx
  obtain rfl | rfl : x = _ ∨ x = [] := by simpa using hx
  · split
    · cases rest with
      | nil => exact hempty
      | cons d rest => exact fence?_eq_none hc
    · exact fence?_eq_none hc
  · exact hempty

theorem heading_contained (h : '\n' ∉ text.toList) : (Part.heading (level + 1) text).Contained := by
  have hrender : (Part.heading (level + 1) text).render.toList =
      ('#' :: (List.replicate level '#' ++ ' ' :: text.toList)) ++ ['\n', '\n'] := by
    simp [Part.render, Part.hashes, List.replicate_succ]
  change ∀ x ∈ Text.lines (Part.heading (level + 1) text).render.toList, fence? x = none
  rw [hrender]
  exact fence?_of_mem_lines rfl (by simpa using h) (by decide)

theorem labelled_contained (ht : '\n' ∉ title.toList) (h : '\n' ∉ text.toList) :
    (Part.labelled title text).Contained := by
  have hrender : (Part.labelled title text).render.toList =
      ('*' :: '*' :: (title.toList ++ (":** ".toList ++ text.toList))) ++ ['\n', '\n'] := by
    simp [Part.render]
  change ∀ x ∈ Text.lines (Part.labelled title text).render.toList, fence? x = none
  rw [hrender]
  exact fence?_of_mem_lines rfl (by simpa using ⟨ht, h⟩) (by decide)

theorem contained_paragraph : (Part.paragraph text).Contained ↔
    ∀ x ∈ Text.lines (text.toList ++ ['\n', '\n']), fence? x = none := by
  change (∀ x ∈ Text.lines (text ++ "\n\n").toList, fence? x = none) ↔ _
  rw [String.toList_append]
  rfl

theorem starred_contained (hl : text.toList.head? = some '*') (h : '\n' ∉ text.toList) :
    (Part.paragraph text).Contained := by
  rw [contained_paragraph]
  exact fence?_of_mem_lines hl h (by decide)

theorem rule_contained : Part.rule.Contained := by
  unfold Part.Contained
  decide

theorem getLast?_ne_return (h : Block.IsFieldText text) : text.toList.getLast? ≠ some '\r' := by
  have hlast := (Text.trim_eq_self_iff.mp h.2).2
  exact fun hr => hlast '\r' hr (by decide)

theorem paragraph_contained_iff (h : Block.IsFieldText text) :
    (Part.paragraph text).Contained ↔ fence? text.toList = none := by
  have hempty : fence? [] = none := by decide
  rw [contained_paragraph, lines_paragraph h.1, if_neg (getLast?_ne_return h)]
  simp [hempty]

def codeLabels : List String := ["Usage", "Example", "Installation"]

theorem code_contained_iff (ht : title ∈ codeLabels) (hn : '\n' ∉ text.toList)
    (hr : text.toList.getLast? ≠ some '\r') :
    (Part.code title text).Contained ↔ ¬ closes ⟨'`', 3⟩ text.toList := by
  have hlabel : ∀ title ∈ codeLabels, ∀ l ∈ labelLines title, fence? l = none := by decide
  have hcode : Text.lines (text.toList ++ ['\n']) = [text.toList] := by
    rw [Text.lines_append_newline hn [], if_neg hr]
    rfl
  rw [Part.Contained, and_iff_right (hlabel title ht), and_iff_right hcode]

end Kinds

section Scripts

variable {options : Options} {path title text : String} {f : Fields} {P : Part → Prop}

theorem forall_mem_present {part : String → Part} {value : Option String} :
    (∀ p ∈ present part value, P p) ↔ ∀ text, value = some text → P (part text) := by
  cases value <;> simp [present]

theorem isFieldText_of_value? (hn : Block.Normal f) {name value : String}
    (h : f.value? name = some value) : Block.IsFieldText value :=
  (hn name value (Option.filter_eq_some_iff.mp h).1).2

theorem newline_not_mem_baseName (hp : '\n' ∉ path.toList) : '\n' ∉ (baseName path).toList := by
  rw [baseName, String.toList_ofList, List.mem_reverse]
  intro h
  exact hp (by simpa using (List.takeWhile_sublist _).subset h)

theorem newline_not_mem_scriptStem (hp : '\n' ∉ path.toList) :
    '\n' ∉ (scriptStem path).toList := by
  have hbase := newline_not_mem_baseName hp
  unfold scriptStem
  dsimp only
  split
  · rename_i stem hstem
    rw [String.toList_ofList, List.mem_reverse]
    intro h
    have hmem : '\n' ∈ (baseName path).toList.reverse := by
      rw [hstem]
      simp [h]
    exact hbase (List.mem_reverse.mp hmem)
  · exact hbase

theorem newline_not_mem_title (hn : Block.Normal f) {fallback : String}
    (hf : '\n' ∉ fallback.toList) : '\n' ∉ ((Fields.title? f).getD fallback).toList := by
  cases h : Fields.title? f with
  | none => exact hf
  | some title => exact (isFieldText_of_value? hn h).1

theorem versionLine_contained (hn : Block.Normal f) (h : versionLine? f = some text) :
    (Part.paragraph text).Contained := by
  have hnew : ∀ name value, f.value? name = some value → '\n' ∉ value.toList := fun _ _ h =>
    (isFieldText_of_value? hn h).1
  unfold versionLine? at h
  split at h
  · cases h
  · rename_i hv _
    cases h
    exact starred_contained (by simp) (by simpa using hnew _ _ hv)
  · rename_i ha
    cases h
    exact starred_contained (by simp) (by simpa using hnew _ _ ha)
  · rename_i hv ha
    cases h
    exact starred_contained (by simp) (by simpa using ⟨hnew _ _ hv, hnew _ _ ha⟩)

theorem newline_mem_trimSlashesEnd_iff :
    '\n' ∈ (trimSlashesEnd text).toList ↔ '\n' ∈ text.toList := by
  have hcut := List.takeWhile_append_dropWhile (p := (· = '/')) (l := text.toList.reverse)
  have hfront : '\n' ∉ text.toList.reverse.takeWhile (· = '/') := fun hm =>
    absurd (List.mem_takeWhile_imp hm) (by decide)
  have hmem : '\n' ∈ text.toList.reverse ↔ '\n' ∈ text.toList := List.mem_reverse
  rw [← hcut, List.mem_append, or_iff_right hfront] at hmem
  rw [trimSlashesEnd, String.toList_ofList, List.mem_reverse]
  exact hmem

theorem installCommand_contained_iff (hp : '\n' ∉ path.toList) :
    (Part.code "Installation" (installCommand options path)).Contained ↔
      '\n' ∉ options.installBase.toList := by
  -- The long literal gets a name, so that it is not taken apart at each step.
  obtain ⟨start, hnew, hhead, hcommand⟩ : ∃ start : String, '\n' ∉ start.toList ∧
      start.toList.head? = some '/' ∧
      installCommand options path =
        start ++ trimSlashesEnd options.installBase ++ "/" ++ path ++ ")\"" :=
    ⟨_, by decide, by decide, rfl⟩
  have hline : '\n' ∉ (installCommand options path).toList ↔
      '\n' ∉ options.installBase.toList := by
    rw [hcommand]
    simp [hnew, hp, newline_mem_trimSlashesEnd_iff]
  constructor
  · rintro ⟨-, hl, -⟩
    exact hline.mp (Text.newline_not_mem_of_mem_lines (hl ▸ List.mem_singleton_self _))
  · intro hb
    refine (code_contained_iff (by decide) (hline.mpr hb) ?_).mpr ?_
    all_goals rw [hcommand]
    · simp [List.getLast?_cons, List.getLast?_append]
    · simp only [String.toList_append, List.append_assoc]
      rw [List.eq_cons_of_mem_head? hhead, List.cons_append]
      exact not_closes (by decide) (by decide) (by decide)

/-- The text of the field opens no fence. -/
def Plain (f : Fields) (name : String) : Prop :=
  ∀ text ∈ f.value? name, fence? text.toList = none

/-- The text of the field is not taken for the end of the block that it is put in. -/
def Fits (f : Fields) (name : String) : Prop :=
  ∀ text ∈ f.value? name, ¬ closes ⟨'`', 3⟩ text.toList

instance (f : Fields) (name : String) : Decidable (Plain f name) :=
  inferInstanceAs (Decidable (∀ text ∈ f.value? name, fence? text.toList = none))

instance (f : Fields) (name : String) : Decidable (Fits f name) :=
  inferInstanceAs (Decidable (∀ text ∈ f.value? name, ¬ closes ⟨'`', 3⟩ text.toList))

theorem paragraph_value_contained_iff (hn : Block.Normal f) {name : String} :
    (∀ text, f.value? name = some text → (Part.paragraph text).Contained) ↔ Plain f name :=
  forall₂_congr fun _ h => paragraph_contained_iff (isFieldText_of_value? hn h)

theorem code_value_contained_iff (hn : Block.Normal f) {name : String} (ht : title ∈ codeLabels) :
    (∀ text, f.value? name = some text → (Part.code title text).Contained) ↔ Fits f name :=
  forall₂_congr fun _ h =>
    have hv := isFieldText_of_value? hn h
    code_contained_iff ht hv.1 (getLast?_ne_return hv)

theorem labelled_value_contained (hn : Block.Normal f) {name : String} (ht : '\n' ∉ title.toList) :
    ∀ text, f.value? name = some text → (Part.labelled title text).Contained :=
  fun _ h => labelled_contained ht (isFieldText_of_value? hn h).1

theorem scriptSection_contained_iff (hp : '\n' ∉ path.toList) (hn : Block.Normal f) :
    (∀ p ∈ scriptSection (path, f), p.Contained) ↔
      Plain f "description" ∧ Fits f "usage" ∧ Fits f "example" := by
  have hheading : (Part.heading 3 (displayName (path, f))).Contained :=
    heading_contained (newline_not_mem_title hn (newline_not_mem_baseName hp))
  have hfile : (Part.labelled "File" ("`" ++ path ++ "`")).Contained :=
    labelled_contained (by decide) (by simpa using hp)
  have husage : "Usage" ∈ codeLabels := by decide
  have hexample : "Example" ∈ codeLabels := by decide
  simp only [scriptSection, List.forall_mem_append, List.forall_mem_singleton, forall_mem_present,
    paragraph_value_contained_iff hn, code_value_contained_iff hn husage,
    code_value_contained_iff hn hexample]
  constructor
  · rintro ⟨⟨⟨⟨⟨⟨⟨-, hd⟩, -⟩, -⟩, hu⟩, he⟩, -⟩, -⟩
    exact ⟨hd, hu, he⟩
  · rintro ⟨hd, hu, he⟩
    exact ⟨⟨⟨⟨⟨⟨⟨hheading, hd⟩, hfile⟩, labelled_value_contained hn (by decide)⟩, hu⟩, he⟩,
      labelled_value_contained hn (by decide)⟩, fun _ h => versionLine_contained hn h⟩

theorem groupScript_contained_iff (hp : '\n' ∉ path.toList) (hn : Block.Normal f) :
    (∀ p ∈ groupScript options (path, f), p.Contained) ↔
      Fits f "usage" ∧ '\n' ∉ options.installBase.toList := by
  have hheading : (Part.heading 2 (f.title?.getD (scriptStem path))).Contained :=
    heading_contained (newline_not_mem_title hn (newline_not_mem_scriptStem hp))
  have husage : "Usage" ∈ codeLabels := by decide
  simp only [groupScript, List.forall_mem_append, List.forall_mem_cons, forall_mem_present,
    code_value_contained_iff hn husage, installCommand_contained_iff hp]
  constructor
  · rintro ⟨⟨⟨⟨⟨-, -⟩, hu⟩, -⟩, -⟩, hb, -⟩
    exact ⟨hu, hb⟩
  · rintro ⟨hu, hb⟩
    exact ⟨⟨⟨⟨⟨⟨hheading, List.forall_mem_nil _⟩, labelled_value_contained hn (by decide)⟩, hu⟩,
      labelled_value_contained hn (by decide)⟩, labelled_value_contained hn (by decide)⟩,
      hb, rule_contained, List.forall_mem_nil _⟩

end Scripts

section Blocks

variable {options : Options} {path : String} {f : Fields} {parts : List Part}

/-- The blocks of a reading, each with the line that opens it. -/
def blocks (ps : List Piece) : List (List Char × List (List Char)) :=
  ps.filterMap fun
    | .block opening body => some (opening, body)
    | _ => none

/-- A reader finds the codes in blocks of their own, each on one line, and the text ends in none of
them. -/
structure Holds (text : String) (codes : List String) : Prop where
  blocks_eq : blocks (reading text) = codes.map fun code => ("```bash".toList, [code.toList])
  closed : ∀ opening body, .unclosed opening body ∉ reading text

def codes (parts : List Part) : List String :=
  parts.filterMap fun
    | .code _ code => some code
    | _ => none

theorem codes_append (front rest : List Part) :
    codes (front ++ rest) = codes front ++ codes rest :=
  List.filterMap_append

theorem blocks_map_line (ls : List (List Char)) : blocks (ls.map .line) = [] := by
  simp [blocks]

theorem blocks_pieces (p : Part) :
    blocks p.pieces = (codes [p]).map fun code => ("```bash".toList, [code.toList]) := by
  cases p with
  | code title content =>
    rw [Part.pieces, blocks, List.filterMap_append, ← blocks, blocks_map_line]
    rfl
  | _ => exact blocks_map_line _

theorem blocks_flatMap_pieces (parts : List Part) : blocks (parts.flatMap Part.pieces) =
    (codes parts).map fun code => ("```bash".toList, [code.toList]) := by
  induction parts with
  | nil => rfl
  | cons p parts ih =>
    have hblocks : blocks (p.pieces ++ parts.flatMap Part.pieces) =
        blocks p.pieces ++ blocks (parts.flatMap Part.pieces) := List.filterMap_append
    have hcodes : codes (p :: parts) = codes [p] ++ codes parts := codes_append [p] parts
    rw [List.flatMap_cons, hblocks, ih, blocks_pieces, hcodes, List.map_append]

theorem unclosed_not_mem_pieces (p : Part) (opening : List Char) (body : List (List Char)) :
    .unclosed opening body ∉ p.pieces := by
  cases p <;> simp [Part.pieces]

theorem holds_of_reading_eq (h : reading (render parts) = parts.flatMap Part.pieces) :
    Holds (render parts) (codes parts) where
  blocks_eq := h ▸ blocks_flatMap_pieces parts
  closed := by
    intro opening body hm
    rw [h] at hm
    obtain ⟨p, -, hp⟩ := List.mem_flatMap.mp hm
    exact unclosed_not_mem_pieces p opening body hp

theorem codes_present_code (title : String) (value : Option String) :
    codes (present (.code title) value) = value.toList := by
  cases value <;> rfl

theorem codes_present_paragraph (value : Option String) :
    codes (present .paragraph value) = [] := by
  cases value <;> rfl

theorem codes_present_labelled (title : String) (value : Option String) :
    codes (present (.labelled title) value) = [] := by
  cases value <;> rfl

theorem codes_scriptSection : codes (scriptSection (path, f)) =
    (f.value? "usage").toList ++ (f.value? "example").toList := by
  simp only [scriptSection, codes_append, codes_present_code, codes_present_paragraph,
    codes_present_labelled, List.append_nil]
  rfl

theorem codes_groupScript : codes (groupScript options (path, f)) =
    (f.value? "usage").toList ++ [installCommand options path] := by
  simp only [groupScript, codes_append, codes_present_code, codes_present_labelled,
    List.append_nil]
  rfl

end Blocks

/-- The code of a script stands between fences of its own, in the section of the script and in its
part of the page of its group. -/
structure Encloses (options : Options) (path : String) (f : Fields) : Prop where
  section_read : reading (render (scriptSection (path, f))) =
      (scriptSection (path, f)).flatMap Part.pieces ↔
    Plain f "description" ∧ Fits f "usage" ∧ Fits f "example"
  section_holds (hd : Plain f "description") (hu : Fits f "usage") (he : Fits f "example") :
    Holds (render (scriptSection (path, f)))
      ((f.value? "usage").toList ++ (f.value? "example").toList)
  group_read : reading (render (groupScript options (path, f))) =
      (groupScript options (path, f)).flatMap Part.pieces ↔
    Fits f "usage" ∧ '\n' ∉ options.installBase.toList
  group_holds (hu : Fits f "usage") (hb : '\n' ∉ options.installBase.toList) :
    Holds (render (groupScript options (path, f)))
      ((f.value? "usage").toList ++ [installCommand options path])

theorem encloses {options : Options} {path text : String} {f : Fields}
    (hp : '\n' ∉ path.toList) (hr : Block.read? text = some f) : Encloses options path f := by
  have hn := Block.normal_of_read? hr
  have hsection := reading_render_eq_iff.trans (scriptSection_contained_iff hp hn)
  have hgroup : _ ↔ _ ∧ '\n' ∉ options.installBase.toList :=
    reading_render_eq_iff.trans (groupScript_contained_iff hp hn)
  constructor
  case section_read => exact hsection
  case section_holds =>
    intro hd hu he
    rw [← codes_scriptSection]
    exact holds_of_reading_eq (hsection.mpr ⟨hd, hu, he⟩)
  case group_read => exact hgroup
  case group_holds =>
    intro hu hb
    rw [← codes_groupScript]
    exact holds_of_reading_eq (hgroup.mpr ⟨hu, hb⟩)

def fittingText : String := "# @doc\n# @description: Adds a tool.\n# @usage: bash a.sh\n# @/doc\n"

theorem encloses_fittingText : ∃ f, Block.read? fittingText = some f ∧
    Encloses {} "tools/a.sh" f ∧ Plain f "description" ∧ Fits f "usage" ∧ Fits f "example" := by
  have hread := (Option.some_get (show (Block.read? fittingText).isSome by decide)).symm
  refine ⟨_, hread, encloses (by decide) hread, ?_, ?_, ?_⟩
  all_goals decide

def backticksText : String := "# @doc\n# @usage: ```\n# @/doc\n"

/-- A code of backticks alone ends its own block. -/
theorem not_forall_holds : ¬ ∀ (options : Options) (path text : String) (f : Fields),
    '\n' ∉ options.installBase.toList → '\n' ∉ path.toList → Block.read? text = some f →
      Holds (render (scriptSection (path, f)))
          ((f.value? "usage").toList ++ (f.value? "example").toList) ∧
        Holds (render (groupScript options (path, f)))
          ((f.value? "usage").toList ++ [installCommand options path]) := by
  intro h
  have hread := (Option.some_get (show (Block.read? backticksText).isSome by decide)).symm
  have hblocks := (h {} "a.sh" backticksText _ (by decide) (by decide) hread).1.blocks_eq
  revert hblocks
  decide

end ShellDocs.Page
