import Gateway.Config.Decoding
import Gateway.FileTree
import Gateway.Json.Reader
import Gateway.Setting
import Gateway.Setting.Yaml
import Gateway.Toml.Reader
import Gateway.Yaml.Reader

/-! # Loading configurations from files and the environment -/
namespace Gateway.Config
open Text

inductive Format
  | yaml
  | json
  | toml
  deriving DecidableEq, Repr

/-- The format of a file by its name; YAML unless the name tells otherwise. -/
def Format.ofPath (path : String) : Format :=
  match (pathNames path).getLast?.bind fileExtension? with
  | some "json" => .json
  | some "toml" => .toml
  | _ => .yaml

/-- The settings that a file's text gives. A YAML text may be empty. -/
def readSettings? (format : Format) (s : String) : Option Setting :=
  match format with
  | .json => (Json.read s).map Setting.ofJson
  | .toml => Toml.read? s
  | .yaml =>
    match Yaml.read? s with
    | some [] => some (.table [])
    | some [doc] => Setting.ofYaml? doc
    | _ => none

/-- The variables of the environment, by name. -/
abbrev Environment := List (String × String)

/-- What the names of overriding variables start with, in any case. -/
def overridePrefix : String := "switchyard__"

/-- Two underscores stand for a dot. -/
def dotted : List Char → List Char
  | '_' :: '_' :: cs => '.' :: dotted cs
  | c :: cs => c :: dotted cs
  | [] => []

/-- The dotted name that a variable overrides. -/
def overrideName? (variableName : String) : Option String :=
  let name := (lowerAscii variableName).toList
  if overridePrefix.toList.isPrefixOf name then
    some (String.ofList (dotted (name.drop overridePrefix.length)))
  else none

/-- The settings that the environment overrides. -/
def overrides (env : Environment) : List (String × Setting) :=
  env.filterMap fun (name, value) => (overrideName? name).map fun k => (k, Setting.ofText value)

inductive LoadFault
  /-- The file is missing, or its text gives no table of settings. -/
  | unreadable
  /-- The settings are not those of a gateway. -/
  | undecodable
  deriving DecidableEq, Repr

/-- A text without the mark of its byte order. -/
def withoutMark (s : String) : String :=
  match s.toList with
  | '\ufeff' :: cs => String.ofList cs
  | _ => s

/-- Loads a configuration from the text of its file, if there is one, and the environment. -/
def load (path : String) (contents : Option String) (env : Environment) : Except LoadFault Config :=
  match contents.bind fun s => readSettings? (Format.ofPath path) (withoutMark s) with
  | some (.table entries) =>
    let settings := Setting.overlay (overrides env) (Setting.overlay entries (.table []))
    match Config.decode? settings with
    | some c => .ok c
    | none => .error .undecodable
  | _ => .error .unreadable

end Gateway.Config
