import ShellDocs.Config.Load
import ShellDocs.Proofs.Config.Table
import ShellDocs.Proofs.Files.Resolve

/-! # Sources of settings

A setting is the value of its flag, or else its value in the configuration file, or else its
default. The file is the one that is named, which has to be there, or the one with the default name
if there is one.
-/

namespace ShellDocs.Config

open Files

section Files

variable {t : FileTree} {path text : String} {parse : Toml.Parser}

def HoldsText (t : FileTree) (path text : String) : Prop :=
  ∃ loc bytes, t.resolve path = .ok (.file loc bytes) ∧ String.fromUTF8? bytes = some text

theorem textOf_eq_ok_iff {bytes : ByteArray} :
    FileTree.textOf bytes = .ok text ↔ String.fromUTF8? bytes = some text := by
  unfold FileTree.textOf
  cases String.fromUTF8? bytes <;> simp

theorem readText_eq_ok_iff : t.readText path = .ok text ↔ HoldsText t path text := by
  simp only [FileTree.readText, bind_eq_ok_iff, FileTree.readBytes_eq_ok_iff, textOf_eq_ok_iff,
    HoldsText]
  constructor
  · rintro ⟨bytes, ⟨loc, hr⟩, ht⟩
    exact ⟨loc, bytes, hr, ht⟩
  · rintro ⟨loc, bytes, hr, ht⟩
    exact ⟨bytes, ⟨loc, hr⟩, ht⟩

/-- A text is no document or stands for a table with a fault. -/
def Invalid (parse : Toml.Parser) (text : String) : Prop :=
  parse text = none ∨ ∃ table, parse text = some table ∧ Faulty table

theorem ofText_eq_ok_iff {c : Config} :
    ofText parse text = .ok c ↔ ∃ table, parse text = some table ∧ Describes table c := by
  unfold ofText
  cases parse text with
  | none => simp
  | some table => simp [ofTable_eq_ok_iff]

theorem exists_ofText_eq_error_iff :
    (∃ fault, ofText parse text = .error fault) ↔ Invalid parse text := by
  have hok : (∃ c, ofText parse text = .ok c) ↔ ¬ Invalid parse text := by
    simp only [ofText_eq_ok_iff, Invalid]
    cases parse text with
    | none => simp
    | some table =>
      simp only [Option.some.injEq, exists_eq_left', reduceCtorEq, false_or]
      exact exists_describes_iff
  cases hc : ofText parse text with
  | ok c => simpa using hok.mp ⟨c, hc⟩
  | error fault =>
    simp only [hc, reduceCtorEq, exists_false, false_iff, not_not] at hok
    exact ⟨fun _ => hok, fun _ => ⟨fault, rfl⟩⟩

theorem read_of_holdsText (h : HoldsText t path text) :
    read t path parse = (ofText parse text).mapError (.configInvalid path) := by
  rw [read, readText_eq_ok_iff.mpr h]

theorem exists_read_eq_configRead (h : ∀ text, ¬ HoldsText t path text) :
    ∃ e, read t path parse = .error (.configRead path e) := by
  unfold read
  cases ht : t.readText path with
  | error e => exact ⟨e, rfl⟩
  | ok text => exact absurd (readText_eq_ok_iff.mp ht) (h text)

theorem exists_read_eq_configInvalid (h : HoldsText t path text) (hi : Invalid parse text) :
    ∃ fault, read t path parse = .error (.configInvalid path fault) := by
  obtain ⟨fault, hf⟩ := exists_ofText_eq_error_iff.mpr hi
  exact ⟨fault, by rw [read_of_holdsText h, hf]; rfl⟩

theorem read_eq_ok_iff {c : Config} : read t path parse = .ok c ↔
    ∃ text table, HoldsText t path text ∧ parse text = some table ∧ Describes table c := by
  constructor
  · intro h
    by_cases hnone : ∀ text, ¬ HoldsText t path text
    · obtain ⟨e, he⟩ := exists_read_eq_configRead hnone
      rw [he] at h
      cases h
    · obtain ⟨text, hholds⟩ := not_forall_not.mp hnone
      rw [read_of_holdsText hholds] at h
      cases hc : ofText parse text with
      | error fault => simp [hc, Except.mapError] at h
      | ok c' =>
        obtain ⟨table, hp, hd⟩ := ofText_eq_ok_iff.mp hc
        obtain rfl : c' = c := by simpa [hc, Except.mapError] using h
        exact ⟨text, table, hholds, hp, hd⟩
  · rintro ⟨text, table, hholds, hp, hd⟩
    rw [read_of_holdsText hholds, ofText_eq_ok_iff.mpr ⟨table, hp, hd⟩]
    rfl

/-- The table that the settings are taken from. Without a file it is empty. -/
inductive Chosen (parse : Toml.Parser) (t : FileTree) : Option String → Toml.Table → Prop
  | named {path text : String} {table : Toml.Table} (ht : HoldsText t path text)
    (hp : parse text = some table) : Chosen parse t (some path) table
  | found {text : String} {table : Toml.Table} (ht : HoldsText t "scriptdoc.toml" text)
    (hp : parse text = some table) : Chosen parse t none table
  | missing (hm : ¬ t.isFileAt "scriptdoc.toml") : Chosen parse t none []

theorem HoldsText.isFileAt (h : HoldsText t path text) : t.isFileAt path := by
  obtain ⟨loc, bytes, hr, -⟩ := h
  exact FileTree.isFileAt_iff.mpr ⟨loc, bytes, hr⟩

theorem describes_nil_iff {c : Config} : Describes [] c ↔ c = {} := by
  rw [← ofTable_eq_ok_iff, show ofTable [] = .ok {} from rfl, Except.ok.injEq, eq_comm]

theorem load_none_of_missing (h : ¬ t.isFileAt "scriptdoc.toml") : load t none parse = .ok {} :=
  if_neg h

theorem load_none_of_isFileAt (h : t.isFileAt "scriptdoc.toml") :
    load t none parse = read t "scriptdoc.toml" parse :=
  if_pos h

theorem load_eq_ok_iff {source : Option String} {c : Config} :
    load t source parse = .ok c ↔ ∃ table, Chosen parse t source table ∧ Describes table c := by
  constructor
  · intro h
    cases source with
    | some path =>
      obtain ⟨text, table, ht, hp, hd⟩ := read_eq_ok_iff.mp h
      exact ⟨table, .named ht hp, hd⟩
    | none =>
      by_cases hfile : t.isFileAt "scriptdoc.toml"
      · rw [load_none_of_isFileAt hfile] at h
        obtain ⟨text, table, ht, hp, hd⟩ := read_eq_ok_iff.mp h
        exact ⟨table, .found ht hp, hd⟩
      · rw [load_none_of_missing hfile, Except.ok.injEq] at h
        exact ⟨[], .missing hfile, describes_nil_iff.mpr h.symm⟩
  · rintro ⟨table, hchosen, hd⟩
    cases hchosen with
    | named ht hp => exact read_eq_ok_iff.mpr ⟨_, table, ht, hp, hd⟩
    | found ht hp =>
      rw [load_none_of_isFileAt ht.isFileAt]
      exact read_eq_ok_iff.mpr ⟨_, table, ht, hp, hd⟩
    | missing hm => rw [load_none_of_missing hm, describes_nil_iff.mp hd]

end Files

section Flags

variable {α : Type} {means : Toml.Value → α → Prop} {default x y : α} {value : Option Toml.Value}
  {table : Toml.Table} {o : Overrides} {c c' : Config}

/-- A setting is the value of its flag if there is one, and else what the table says. -/
def Preferred (means : Toml.Value → α → Prop) (default : α) (flag : Option α)
    (value : Option Toml.Value) (x : α) : Prop :=
  match flag with
  | some y => x = y
  | none => Settled means default value x

theorem Settled.preferred (h : Settled means default value x) (flag : Option α) :
    Preferred means default flag value (flag.getD x) := by
  cases flag with
  | none => exact h
  | some y => rfl

theorem Settled.unique (hm : ∀ v x y, means v x → means v y → x = y)
    (hx : Settled means default value x) (hy : Settled means default value y) : x = y := by
  cases value with
  | none => exact hx.trans hy.symm
  | some v => exact hm v x y hx hy

theorem Preferred.unique (hm : ∀ v x y, means v x → means v y → x = y) {flag : Option α}
    (hx : Preferred means default flag value x) (hy : Preferred means default flag value y) :
    x = y := by
  cases flag with
  | none => exact Settled.unique hm hx hy
  | some z => exact hx.trans hy.symm

structure Combines (o : Overrides) (table : Toml.Table) (c : Config) : Prop where
  input : Preferred MeansText "MacOS/Components" o.input (table.lookup "input") c.input
  output : Preferred MeansText "docs/generated" o.output (table.lookup "output") c.output
  title : Preferred MeansText "Python Support Scripts Documentation" none (table.lookup "title")
    c.pages.title
  installBase : Preferred MeansText
    "https://raw.githubusercontent.com/dtudk/pythonsupport-scripts/main/MacOS/Components" none
    (table.lookup "install_base_url") c.pages.installBase
  port : Preferred MeansPort 8000 o.port (serverValue? table "port" 0) c.port
  throttleSeconds : Preferred MeansSeconds 2 none (serverValue? table "throttle_secs" 1)
    c.throttleSeconds

theorem Describes.combines (h : Describes table c) (o : Overrides) :
    Combines o table (c.override o) where
  input := h.input.preferred o.input
  output := h.output.preferred o.output
  title := h.title
  installBase := h.installBase
  port := h.port.preferred o.port
  throttleSeconds := h.throttleSeconds

theorem Combines.unique (h : Combines o table c) (h' : Combines o table c') : c = c' := by
  have htext : ∀ v x y, MeansText v x → MeansText v y → x = y := fun v x y hx hy =>
    Toml.Value.string.inj (hx.symm.trans hy)
  have hport : ∀ v x y, MeansPort v x → MeansPort v y → x = y := fun v x y hx hy =>
    UInt16.toNat_inj.mp (Int.ofNat.inj (Toml.Value.integer.inj (hx.symm.trans hy)))
  have hseconds : ∀ v x y, MeansSeconds v x → MeansSeconds v y → x = y := fun v x y hx hy =>
    Int.ofNat.inj (Toml.Value.integer.inj (hx.symm.trans hy))
  obtain ⟨input, output, ⟨title, base⟩, port, seconds⟩ := c
  obtain ⟨input', output', ⟨title', base'⟩, port', seconds'⟩ := c'
  obtain rfl : input = input' := h.input.unique htext h'.input
  obtain rfl : output = output' := h.output.unique htext h'.output
  obtain rfl : title = title' := h.title.unique htext h'.title
  obtain rfl : base = base' := h.installBase.unique htext h'.installBase
  obtain rfl : port = port' := h.port.unique hport h'.port
  obtain rfl : seconds = seconds' := h.throttleSeconds.unique hseconds h'.throttleSeconds
  rfl

/-- The whole way from the flags and the file to the configuration. -/
theorem load_override_eq_ok_iff {t : FileTree} {source : Option String} {parse : Toml.Parser} :
    (load t source parse).map (·.override o) = .ok c ↔
      ∃ table, Chosen parse t source table ∧ ¬ Faulty table ∧ Combines o table c := by
  rw [map_eq_ok_iff]
  constructor
  · rintro ⟨base, hl, rfl⟩
    obtain ⟨table, hchosen, hd⟩ := load_eq_ok_iff.mp hl
    exact ⟨table, hchosen, hd.not_faulty, hd.combines o⟩
  · rintro ⟨table, hchosen, hf, hc⟩
    obtain ⟨base, hd⟩ := exists_describes_iff.mpr hf
    exact ⟨base, load_eq_ok_iff.mpr ⟨table, hchosen, hd⟩, (hd.combines o).unique hc⟩

end Flags

end ShellDocs.Config
