import ShellDocs.CommandLine.Generator
import ShellDocs.CommandLine.Server
import ShellDocs.Proofs.CommandLine.Arguments
import ShellDocs.Proofs.Config.Load

/-! # Settings of the programs

Both programs resolve their settings in one way: a flag first, then the file, then the default. The
generator succeeds if they are resolved and the pages are generated, and only then.
-/

namespace ShellDocs.CommandLine

open Config Files

section Programs

variable {t : FileTree} {args : List String} {g g' : Given} {c : Config} {e : Error}
  {path : String} {o : Given → Overrides} {parse : Toml.Parser}

theorem Generator.distinct : Generator.program.Distinct := by
  constructor <;> decide

theorem Server.distinct : Server.program.Distinct := by
  constructor <;> decide

/-- The file that the configuration is in: the one of the flag, or the one with the default name if
it is there. -/
inductive Names (t : FileTree) (g : Given) : String → Prop
  | given {path : String} (h : g.value? "config" = some path) : Names t g path
  | found (h : g.value? "config" = none) (hf : t.isFileAt "scriptdoc.toml") :
    Names t g "scriptdoc.toml"

/-- Settings come from flags, the configuration file and defaults, in this order. A file that is
named or found has to be a valid one. -/
structure Resolves (parse : Toml.Parser) (t : FileTree) (settings : Given → Except Error Config)
    (o : Given → Overrides) : Prop where
  settled {g : Given} {c : Config} : settings g = .ok c ↔
    ∃ table, Chosen parse t (g.value? "config") table ∧ ¬ Faulty table ∧ Combines (o g) table c
  absent {g : Given} (hg : g.value? "config" = none) (hm : ¬ t.isFileAt "scriptdoc.toml") :
    ∃ c, settings g = .ok c ∧ Combines (o g) [] c
  unreadable {g : Given} {path : String} (hn : Names t g path)
    (ht : ∀ text, ¬ HoldsText t path text) : ∃ e, settings g = .error (.configRead path e)
  invalid {g : Given} {path text : String} (hn : Names t g path) (ht : HoldsText t path text)
    (hi : Invalid parse text) : ∃ fault, settings g = .error (.configInvalid path fault)

theorem Names.load_eq (h : Names t g path) :
    load t (g.value? "config") parse = read t path parse := by
  cases h with
  | given h => rw [h, load]
  | found h hf => rw [h, load_none_of_isFileAt hf]

theorem resolves :
    Resolves parse t (fun g => (load t (g.value? "config") parse).map (·.override (o g))) o where
  settled := load_override_eq_ok_iff
  absent := by
    intro g hg hm
    rw [hg, load_none_of_missing hm]
    exact ⟨_, rfl, (describes_nil_iff.mpr rfl).combines (o g)⟩
  unreadable := by
    intro g path hn ht
    obtain ⟨e, he⟩ := exists_read_eq_configRead ht
    exact ⟨e, by rw [hn.load_eq, he]; rfl⟩
  invalid := by
    intro g path text hn ht hi
    obtain ⟨fault, hf⟩ := exists_read_eq_configInvalid ht hi
    exact ⟨fault, by rw [hn.load_eq, hf]; rfl⟩

theorem Given.mem_of_value? {name v : String} (h : g.value? name = some v) : (name, v) ∈ g := by
  obtain ⟨front, rest, rfl, -⟩ := List.lookup_eq_some_iff.mp h
  simp

theorem exists_port?_of_read {v : String} (h : Server.program.read args = .ok g)
    (hv : g.value? "port" = some v) : ∃ n, port? v = some n := by
  have hs := ((read_eq_ok_iff Server.distinct).mp h).1
  obtain ⟨f, hf, hlong, hvalue⟩ := hs.knows (by simp) _ (Given.mem_of_value? hv)
  have hport : f.value = some .port := by
    have hall : ∀ f ∈ Server.program.flags, f.long = "port" → f.value = some .port := by decide
    exact hall f hf hlong
  obtain ⟨hnone, -⟩ | ⟨kind, hkind, hallows⟩ := hvalue
  · rw [hport] at hnone
    cases hnone
  · obtain rfl : ValueKind.port = kind := Option.some.inj (hport.symm.trans hkind)
    exact Option.isSome_iff_exists.mp hallows

theorem Generator.run_eq_runGiven (h : Generator.program.read args = .ok g) :
    Generator.run t args parse = Generator.runGiven t g parse := by
  rw [Generator.run, h]

theorem Generator.runGiven_of_settings_eq_error (h : Generator.settings t g parse = .error e) :
    Generator.runGiven t g parse =
      (t, Generator.failed (.during "failed to load configuration" e)) := by
  rw [Generator.runGiven, h]

theorem Generator.runGiven_of_settings_eq_ok (h : Generator.settings t g parse = .ok c) :
    Generator.runGiven t g parse = ((generate t c.generateOptions).tree,
      match (generate t c.generateOptions).result with
      | .error e => Generator.unsuccessful e
      | .ok report => { output := Generator.summary (g.has "verbose") c.output report }) := by
  unfold Generator.runGiven
  split
  · rename_i e he
    cases h.symm.trans he
  · rename_i c' hc
    cases h.symm.trans hc
    rfl

/-- A program that fails ends with code 1, says why and writes nothing else. -/
def Exit.Fails (x : Exit) : Prop := ∃ message, x = { code := 1, errors := message ++ "\n" }

theorem Generator.unsuccessful_fails : (Generator.unsuccessful e).Fails := by
  cases e with
  | nothingToDocument input => exact ⟨"No documented scripts found!", rfl⟩
  | _ => exact ⟨_, rfl⟩

theorem Exit.Fails.code_ne {x : Exit} (h : x.Fails) : x.code ≠ 0 := by
  obtain ⟨message, rfl⟩ := h
  exact Nat.one_ne_zero

theorem Generator.runGiven_cases (parse : Toml.Parser) (t : FileTree) (g : Given) :
    ((∃ c r, Generator.settings t g parse = .ok c ∧
        (generate t c.generateOptions).result = .ok r) ∧
      (Generator.runGiven t g parse).2.code = 0) ∨
    ((¬ ∃ c r, Generator.settings t g parse = .ok c ∧
        (generate t c.generateOptions).result = .ok r) ∧
      (Generator.runGiven t g parse).2.Fails) := by
  cases hs : Generator.settings t g parse with
  | error e =>
    rw [runGiven_of_settings_eq_error hs]
    exact .inr ⟨by simp, _, rfl⟩
  | ok c =>
    rw [runGiven_of_settings_eq_ok hs]
    cases hr : (generate t c.generateOptions).result with
    | error e => exact .inr ⟨by simp [hr], unsuccessful_fails⟩
    | ok r => exact .inl ⟨⟨c, r, rfl, hr⟩, rfl⟩

theorem Server.prepare_of_read (parse : Toml.Parser) (t : FileTree)
    (h : Server.program.read args = .ok g) :
    (∃ l, (Server.prepareGiven t g parse).2 = .ok l ∧
        Server.prepare t args parse = ((Server.prepareGiven t g parse).1, .ok l)) ∨
      ∃ x, x.Fails ∧
        Server.prepare t args parse = ((Server.prepareGiven t g parse).1, .error x) := by
  unfold Server.prepare
  rw [h]
  simp only
  split
  · rename_i hp
    rw [hp]
    exact .inr ⟨_, ⟨_, rfl⟩, rfl⟩
  · rename_i hp
    rw [hp]
    exact .inl ⟨_, rfl, rfl⟩

/-- The server gets ready only with settings, and with new pages if it is to generate them. -/
theorem Server.of_prepareGiven_eq_ok {l : Server.Listening}
    (h : (Server.prepareGiven t g parse).2 = .ok l) : ∃ c, Server.settings t g parse = .ok c ∧
      (g.has "regenerate" → ∃ r, (generate t c.generateOptions).result = .ok r) := by
  unfold Server.prepareGiven at h
  split at h
  · cases h
  · rename_i c hs
    refine ⟨c, hs, fun hreg => ?_⟩
    rw [Server.regenerate, if_pos hreg] at h
    cases hr : (generate t c.generateOptions).result with
    | error e => simp [hr] at h
    | ok r => exact ⟨r, rfl⟩

theorem settings_map_generateOptions (parse : Toml.Parser) (t : FileTree)
    (hc : g.value? "config" = g'.value? "config")
    (hi : g.value? "input" = g'.value? "input") (ho : g.value? "output" = g'.value? "docs-dir") :
    (Generator.settings t g parse).map (·.generateOptions) =
      (Server.settings t g' parse).map (·.generateOptions) := by
  rw [Generator.settings, Server.settings, hc]
  cases load t (g'.value? "config") parse with
  | error e => rfl
  | ok c =>
    simp [Except.map, Config.override, Config.generateOptions, Generator.overrides,
      Server.overrides, hi, ho]

theorem Server.regenerate_tree_eq (hc : g.value? "config" = g'.value? "config")
    (hi : g.value? "input" = g'.value? "input") (ho : g.value? "output" = g'.value? "docs-dir")
    (hs : Server.settings t g' parse = .ok c) (hr : g'.has "regenerate") :
    (Server.regenerate t g' c).1 = (Generator.runGiven t g parse).1 := by
  have hsame := settings_map_generateOptions parse t hc hi ho
  rw [hs] at hsame
  obtain ⟨c', hc', hoptions⟩ := map_eq_ok_iff.mp hsame
  rw [Generator.runGiven_of_settings_eq_ok hc', hoptions, Server.regenerate, if_pos hr]

theorem Server.prepareGiven_of_settings_eq_error (h : Server.settings t g parse = .error e) :
    (Server.prepareGiven t g parse).1 = t := by
  rw [Server.prepareGiven, h]

end Programs

/-- What holds of the settings of both programs, and of the code with which they end. -/
structure Settles (parse : Toml.Parser) (t : FileTree) : Prop where
  generatorReads {args : List String} {g : Given} :
    Generator.program.read args = .ok g ↔ Spells Generator.program none args g ∧ g.Once
  serverReads {args : List String} {g : Given} :
    Server.program.read args = .ok g ↔ Spells Server.program none args g ∧ g.Once
  generator : Resolves parse t (Generator.settings t · parse) fun g =>
    { input := g.value? "input", output := g.value? "output" }
  server : Resolves parse t (Server.settings t · parse) fun g =>
    { input := g.value? "input", output := g.value? "docs-dir",
      port := (g.value? "port").bind port? }
  port {args : List String} {g : Given} {v : String} (h : Server.program.read args = .ok g)
    (hv : g.value? "port" = some v) : ∃ n, port? v = some n
  /-- The same values of the flags give the same options for generating pages. -/
  sameOptions {g g' : Given} (hc : g.value? "config" = g'.value? "config")
    (hi : g.value? "input" = g'.value? "input") (ho : g.value? "output" = g'.value? "docs-dir") :
    (Generator.settings t g parse).map (·.generateOptions) =
      (Server.settings t g' parse).map (·.generateOptions)
  /-- Before it serves, the server generates the pages as the generator does. -/
  sameTree {g g' : Given} {c : Config} (hc : g.value? "config" = g'.value? "config")
    (hi : g.value? "input" = g'.value? "input") (ho : g.value? "output" = g'.value? "docs-dir")
    (hs : Server.settings t g' parse = .ok c) (hr : g'.has "regenerate") :
    (Server.regenerate t g' c).1 = (Generator.runGiven t g parse).1
  succeeds {args : List String} {g : Given} (h : Generator.program.read args = .ok g) :
    (Generator.run t args parse).2.code = 0 ↔
      ∃ c r, Generator.settings t g parse = .ok c ∧ (generate t c.generateOptions).result = .ok r
  /-- A run that does not succeed ends with code 1 and writes no list of files. -/
  fails {args : List String} {g : Given} (h : Generator.program.read args = .ok g)
    (hc : (Generator.run t args parse).2.code ≠ 0) : (Generator.run t args parse).2.Fails
  nothing {args : List String} {g : Given} {c : Config} {input : String}
    (h : Generator.program.read args = .ok g) (hc : Generator.settings t g parse = .ok c)
    (hr : (generate t c.generateOptions).result = .error (.nothingToDocument input)) :
    (Generator.run t args parse).2.errors = "No documented scripts found!\n"
  /-- Nothing is written before the settings are there. -/
  untouched {args : List String} {g : Given} {e : Error}
    (h : Generator.program.read args = .ok g) (he : Generator.settings t g parse = .error e) :
    (Generator.run t args parse).1 = t
  serverUntouched {args : List String} {g : Given} {e : Error}
    (h : Server.program.read args = .ok g) (he : Server.settings t g parse = .error e) :
    (Server.prepare t args parse).1 = t
  listens {args : List String} {g : Given} {l : Server.Listening}
    (h : Server.program.read args = .ok g) (hl : (Server.prepare t args parse).2 = .ok l) :
    ∃ c, Server.settings t g parse = .ok c ∧
      (g.has "regenerate" → ∃ r, (generate t c.generateOptions).result = .ok r)
  stops {args : List String} {g : Given} {x : Exit} (h : Server.program.read args = .ok g)
    (hx : (Server.prepare t args parse).2 = .error x) : x.Fails

end ShellDocs.CommandLine
