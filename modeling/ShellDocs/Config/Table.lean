import ShellDocs.Config.Basic
import ShellDocs.Config.Fault
import ShellDocs.Toml.Table

/-! # Configurations as TOML tables

Each setting is the value of one key. The settings of the server stand in a table of their
own, or in an array in a fixed order.
-/

namespace ShellDocs.Config

open Toml

def keys : List String := ["input", "output", "title", "install_base_url", "serve"]

def serveKeys : List String := ["port", "throttle_secs"]

def checkKeys (known : List String) (t : Toml.Table) : Except ConfigFault Unit :=
  match t.find? (fun entry => entry.1 ∉ known) with
  | some entry => .error (.unknownKey entry.1)
  | none => .ok ()

def asText (key : String) : Value → Except ConfigFault String
  | .string s => .ok s
  | _ => .error (.wrongType key)

def asPort : Value → Except ConfigFault UInt16
  | .integer i =>
    if 0 ≤ i ∧ i < 65536 then .ok (UInt16.ofNat i.toNat) else .error (.outOfRange "port")
  | _ => .error (.wrongType "port")

def asSeconds : Value → Except ConfigFault Nat
  | .integer i => if 0 ≤ i then .ok i.toNat else .error (.outOfRange "throttle_secs")
  | _ => .error (.wrongType "throttle_secs")

/-- A setting that takes its default when it has no value. -/
def setting (v : Option Value) (read : Value → Except ConfigFault α) (default : α) :
    Except ConfigFault α :=
  match v with
  | some v => read v
  | none => .ok default

/-- The value of a key. -/
def valueOf (t : Toml.Table) (key : String) : Option Value := t.lookup key

/-- The values that the settings of the server have, by key or by position. -/
def serveValues : Value → Except ConfigFault (Option Value × Option Value)
  | .table _ entries => do
    checkKeys serveKeys entries
    return (valueOf entries "port", valueOf entries "throttle_secs")
  | .array items => .ok (items[0]?, items[1]?)
  | .tables _ _ | .string _ | .integer _ | .float _ | .boolean _ | .dateTime _ =>
    .error (.wrongType "serve")

def ofTable (t : Toml.Table) : Except ConfigFault Config := do
  checkKeys keys t
  let base : Config := {}
  let input ← setting (valueOf t "input") (asText "input") base.input
  let output ← setting (valueOf t "output") (asText "output") base.output
  let title ← setting (valueOf t "title") (asText "title") base.pages.title
  let installBase ←
    setting (valueOf t "install_base_url") (asText "install_base_url") base.pages.installBase
  let (portValue, throttleValue) ← setting (valueOf t "serve") serveValues (none, none)
  return {
    input, output
    pages := ⟨title, installBase⟩
    port := ← setting portValue asPort base.port
    throttleSeconds := ← setting throttleValue asSeconds base.throttleSeconds }

end ShellDocs.Config
