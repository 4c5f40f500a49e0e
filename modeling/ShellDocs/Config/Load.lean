import ShellDocs.Config.Table
import ShellDocs.Toml.Document

/-! # Loading the configuration

A file that is named has to exist. Otherwise the file with the default name counts if there
is one. Any reader of TOML will do.
-/

namespace ShellDocs.Config

open Files

def defaultFile : String := "scriptdoc.toml"

def ofText (parse : Toml.Parser) (text : String) : Except ConfigFault Config :=
  match parse text with
  | some t => ofTable t
  | none => .error .notToml

def read (t : FileTree) (path : String) (parse : Toml.Parser := Toml.parse?) :
    Except Error Config :=
  match t.readText path with
  | .error e => .error (.configRead path e)
  | .ok text => (ofText parse text).mapError (.configInvalid path)

def load (t : FileTree) (path : Option String) (parse : Toml.Parser := Toml.parse?) :
    Except Error Config :=
  match path with
  | some path => read t path parse
  | none => if t.isFileAt defaultFile then read t defaultFile parse else .ok {}

end ShellDocs.Config
