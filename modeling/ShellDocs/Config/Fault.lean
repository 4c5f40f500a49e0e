/-! # Faults of a configuration -/

namespace ShellDocs

/-- Why a text is no configuration. -/
inductive ConfigFault where
  | notToml
  | unknownKey (key : String)
  | wrongType (key : String)
  | outOfRange (key : String)
deriving DecidableEq

def ConfigFault.message : ConfigFault → String
  | notToml => "not a TOML document"
  | unknownKey key => "unknown key " ++ key
  | wrongType key => "wrong type of value for " ++ key
  | outOfRange key => "value out of range for " ++ key

end ShellDocs
