import Mathlib.Tactic.ByContra
import ShellDocs.Config.Table
import ShellDocs.Proofs.Attempt

/-! # Settings in a table

A table is a configuration if all of its keys are known and all of their values are of the right
type and in range. Each setting then depends on its own key alone.
-/

namespace ShellDocs.Config

open Toml

section Values

variable {t : Toml.Table} {v : Value}

theorem checkKeys_eq_ok_iff {known : List String} {u : Unit} :
    checkKeys known t = .ok u ↔ ∀ entry ∈ t, entry.1 ∈ known := by
  unfold checkKeys
  split
  · rename_i entry hf
    have hm := List.mem_of_find?_eq_some hf
    have hu : entry.1 ∉ known := by simpa using List.find?_some hf
    constructor
    · intro h
      cases h
    · exact fun h => absurd (h entry hm) hu
  · rename_i hf
    simpa using hf

def MeansText (v : Value) (text : String) : Prop := v = .string text

def MeansPort (v : Value) (n : UInt16) : Prop := v = .integer n.toNat

def MeansSeconds (v : Value) (n : Nat) : Prop := v = .integer n

theorem asText_eq_ok_iff {key text : String} : asText key v = .ok text ↔ MeansText v text := by
  cases v <;> simp [asText, MeansText]

theorem asPort_eq_ok_iff {n : UInt16} : asPort v = .ok n ↔ MeansPort v n := by
  cases v with
  | integer i =>
    simp only [asPort, MeansPort, Value.integer.injEq]
    constructor
    · intro h
      split at h
      · cases h
        simp only [UInt16.toNat_ofNat']
        omega
      · cases h
    · rintro rfl
      have hn := n.toNat_lt
      rw [if_pos (by omega)]
      simp
  | _ => simp [asPort, MeansPort]

theorem asSeconds_eq_ok_iff {n : Nat} : asSeconds v = .ok n ↔ MeansSeconds v n := by
  cases v with
  | integer i =>
    simp only [asSeconds, MeansSeconds, Value.integer.injEq]
    constructor
    · intro h
      split at h
      · cases h
        omega
      · cases h
    · rintro rfl
      rw [if_pos (by omega)]
      simp
  | _ => simp [asSeconds, MeansSeconds]

end Values

section Tables

variable {α : Type} {means : Value → α → Prop} {t : Toml.Table} {c : Config}

/-- A setting is what the value of its key means, or its default if the key is missing. -/
def Settled (means : Value → α → Prop) (default : α) (value : Option Value) (x : α) : Prop :=
  match value with
  | some v => means v x
  | none => x = default

theorem Settled.of_some {default x : α} {value : Option Value} {v : Value}
    (h : Settled means default value x) (hv : value = some v) : means v x := by
  subst hv
  exact h

theorem setting_eq_ok_iff {read : Value → Except ConfigFault α}
    (h : ∀ v x, read v = .ok x ↔ means v x) {value : Option Value} {default x : α} :
    setting value read default = .ok x ↔ Settled means default value x := by
  cases value with
  | none => simp [setting, Settled, eq_comm]
  | some v => exact h v x

/-- The value of a setting of the server, by its key in a table or by its place in an array. -/
def serverValue? (t : Toml.Table) (key : String) (place : Nat) : Option Value :=
  match t.lookup "serve" with
  | some (.table _ entries) => entries.lookup key
  | some (.array items) => items[place]?
  | _ => none

def KnowsServer : Value → Prop
  | .table _ entries => ∀ entry ∈ entries, entry.1 ∈ serveKeys
  | .array _ => True
  | _ => False

/-- The configuration that a table stands for. -/
structure Describes (t : Toml.Table) (c : Config) : Prop where
  known : ∀ entry ∈ t, entry.1 ∈ keys
  server : ∀ v, t.lookup "serve" = some v → KnowsServer v
  input : Settled MeansText "MacOS/Components" (t.lookup "input") c.input
  output : Settled MeansText "docs/generated" (t.lookup "output") c.output
  title : Settled MeansText "Python Support Scripts Documentation" (t.lookup "title") c.pages.title
  installBase : Settled MeansText
    "https://raw.githubusercontent.com/dtudk/pythonsupport-scripts/main/MacOS/Components"
    (t.lookup "install_base_url") c.pages.installBase
  port : Settled MeansPort 8000 (serverValue? t "port" 0) c.port
  throttleSeconds : Settled MeansSeconds 2 (serverValue? t "throttle_secs" 1) c.throttleSeconds

theorem serveValues_eq_ok_iff {values : Option Value × Option Value} :
    setting (t.lookup "serve") serveValues (none, none) = .ok values ↔
      (∀ v, t.lookup "serve" = some v → KnowsServer v) ∧
        values = (serverValue? t "port" 0, serverValue? t "throttle_secs" 1) := by
  unfold serverValue?
  cases t.lookup "serve" with
  | none => simp [setting, eq_comm]
  | some v =>
    have hforall : (∀ w, some v = some w → KnowsServer w) ↔ KnowsServer v := by
      simp only [Option.some.injEq, forall_eq']
    rw [hforall]
    cases v with
    | table kind entries =>
      simp only [setting, serveValues, bind_eq_ok_iff, checkKeys_eq_ok_iff, pure_eq_ok_iff,
        KnowsServer, valueOf, exists_const, @eq_comm _ values]
    | array items => simp [setting, serveValues, KnowsServer, eq_comm]
    | _ => simp [setting, serveValues, KnowsServer]

theorem ofTable_eq_ok_iff : ofTable t = .ok c ↔ Describes t c := by
  unfold ofTable
  simp only [bind_eq_ok_iff, checkKeys_eq_ok_iff, pure_eq_ok_iff, valueOf,
    setting_eq_ok_iff fun _ _ => asText_eq_ok_iff, setting_eq_ok_iff fun _ _ => asPort_eq_ok_iff,
    setting_eq_ok_iff fun _ _ => asSeconds_eq_ok_iff]
  constructor
  · rintro ⟨-, hknown, input, hinput, output, houtput, title, htitle, base, hbase, values, hserve,
      port, hport, seconds, hseconds, rfl⟩
    obtain ⟨hserver, rfl⟩ := serveValues_eq_ok_iff.mp hserve
    exact ⟨hknown, hserver, hinput, houtput, htitle, hbase, hport, hseconds⟩
  · intro h
    exact ⟨(), h.known, _, h.input, _, h.output, _, h.title, _, h.installBase, _,
      serveValues_eq_ok_iff.mpr ⟨h.server, rfl⟩, _, h.port, _, h.throttleSeconds, rfl⟩

end Tables

section Faults

variable {t : Toml.Table}

def textKeys : List String := ["input", "output", "title", "install_base_url"]

/-- Why a table is no configuration. -/
inductive Faulty (t : Toml.Table) : Prop
  | unknownKey {entry : String × Value} (hm : entry ∈ t) (hu : entry.1 ∉ keys)
  | unknownServerKey {kind : TableKind} {entries : Toml.Table} {entry : String × Value}
    (hs : t.lookup "serve" = some (.table kind entries)) (hm : entry ∈ entries)
    (hu : entry.1 ∉ serveKeys)
  | noText {key : String} {v : Value}
    (hk : key ∈ textKeys) (hv : t.lookup key = some v)
    (hn : ∀ text, v ≠ .string text)
  | noServer {v : Value} (hs : t.lookup "serve" = some v)
    (ht : ∀ kind entries, v ≠ .table kind entries) (ha : ∀ items, v ≠ .array items)
  | noPort {v : Value} (hv : serverValue? t "port" 0 = some v) (hn : ∀ i, v ≠ .integer i)
  | portOutOfRange {i : Int} (hv : serverValue? t "port" 0 = some (.integer i))
    (hr : i < 0 ∨ 65535 < i)
  | noSeconds {v : Value} (hv : serverValue? t "throttle_secs" 1 = some v)
    (hn : ∀ i, v ≠ .integer i)
  | negativeSeconds {i : Int} (hv : serverValue? t "throttle_secs" 1 = some (.integer i))
    (hr : i < 0)

theorem exists_settled {α : Type} {means : Value → α → Prop} {value : Option Value}
    (h : ∀ v, value = some v → ∃ x, means v x) (default : α) :
    ∃ x, Settled means default value x := by
  cases value with
  | none => exact ⟨default, rfl⟩
  | some v => exact h v rfl

theorem exists_settled_text (h : ¬ Faulty t) (key default : String) (hk : key ∈ textKeys) :
    ∃ text, Settled MeansText default (t.lookup key) text := by
  apply exists_settled
  intro v hv
  by_contra hno
  exact h (.noText hk hv fun text he => hno ⟨text, he⟩)

theorem exists_settled_port (h : ¬ Faulty t) :
    ∃ n, Settled MeansPort 8000 (serverValue? t "port" 0) n := by
  apply exists_settled
  intro v hv
  by_cases hi : ∃ i, v = .integer i
  · obtain ⟨i, rfl⟩ := hi
    have hr : ¬ (i < 0 ∨ 65535 < i) := fun hr => h (.portOutOfRange hv hr)
    refine ⟨UInt16.ofNat i.toNat, congrArg Value.integer ?_⟩
    simp only [UInt16.toNat_ofNat']
    omega
  · exact absurd (.noPort hv fun i he => hi ⟨i, he⟩) h

theorem exists_settled_seconds (h : ¬ Faulty t) :
    ∃ n, Settled MeansSeconds 2 (serverValue? t "throttle_secs" 1) n := by
  apply exists_settled
  intro v hv
  by_cases hi : ∃ i, v = .integer i
  · obtain ⟨i, rfl⟩ := hi
    have hr : ¬ i < 0 := fun hr => h (.negativeSeconds hv hr)
    refine ⟨i.toNat, congrArg Value.integer ?_⟩
    omega
  · exact absurd (.noSeconds hv fun i he => hi ⟨i, he⟩) h

theorem knowsServer_of_not_faulty (h : ¬ Faulty t) {v : Value} (hv : t.lookup "serve" = some v) :
    KnowsServer v := by
  cases v with
  | table kind entries =>
    intro entry hm
    by_contra hu
    exact h (.unknownServerKey hv hm hu)
  | array items => trivial
  | _ => exact h (.noServer hv (by simp) (by simp))

theorem Describes.not_faulty {c : Config} (h : Describes t c) : ¬ Faulty t := by
  intro hf
  cases hf with
  | unknownKey hm hu => exact hu (h.known _ hm)
  | unknownServerKey hs hm hu => exact hu (h.server _ hs _ hm)
  | noText hk hv hn =>
    simp only [textKeys, List.mem_cons, List.not_mem_nil, or_false] at hk
    rcases hk with rfl | rfl | rfl | rfl
    · exact hn _ (h.input.of_some hv)
    · exact hn _ (h.output.of_some hv)
    · exact hn _ (h.title.of_some hv)
    · exact hn _ (h.installBase.of_some hv)
  | @noServer v hs ht ha =>
    have hserver := h.server v hs
    cases v with
    | table kind entries => exact ht kind entries rfl
    | array items => exact ha items rfl
    | _ => exact hserver
  | noPort hv hn => exact hn _ (h.port.of_some hv)
  | portOutOfRange hv hr =>
    have hport := Value.integer.inj (h.port.of_some hv)
    have hlt := c.port.toNat_lt
    omega
  | noSeconds hv hn => exact hn _ (h.throttleSeconds.of_some hv)
  | negativeSeconds hv hr =>
    have hseconds := Value.integer.inj (h.throttleSeconds.of_some hv)
    omega

/-- A table is a configuration unless it has a fault. -/
theorem exists_describes_iff : (∃ c, Describes t c) ↔ ¬ Faulty t := by
  constructor
  · rintro ⟨c, h⟩
    exact h.not_faulty
  · intro h
    obtain ⟨input, hinput⟩ := exists_settled_text h "input" _ (by decide)
    obtain ⟨output, houtput⟩ := exists_settled_text h "output" _ (by decide)
    obtain ⟨title, htitle⟩ := exists_settled_text h "title" _ (by decide)
    obtain ⟨base, hbase⟩ := exists_settled_text h "install_base_url" _ (by decide)
    obtain ⟨port, hport⟩ := exists_settled_port h
    obtain ⟨seconds, hseconds⟩ := exists_settled_seconds h
    have hknown : ∀ entry ∈ t, entry.1 ∈ keys := by
      intro entry hm
      by_contra hu
      exact h (.unknownKey hm hu)
    exact ⟨⟨input, output, ⟨title, base⟩, port, seconds⟩, hknown,
      fun v => knowsServer_of_not_faulty h, hinput, houtput, htitle, hbase, hport, hseconds⟩

end Faults

end ShellDocs.Config
