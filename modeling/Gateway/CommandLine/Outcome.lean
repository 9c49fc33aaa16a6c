import Gateway.CommandLine
import Gateway.Startup

/-! # What the program does and writes -/
namespace Gateway.CommandLine

/-- What a run of the program leaves: its exit code and what it has written. -/
structure Outcome where
  code : Nat
  out : String
  err : String
  deriving DecidableEq, Repr

def unlines (lines : List String) : String := String.join (lines.map (· ++ "\n"))

def describeRepository : RepositoryConfig → String
  | .file path => "directory " ++ path
  | .http url _ => "config service " ++ url

def describeAuth : Option AuthConfig → String
  | some (.remote ..) => "remote validator"
  | some (.signed ..) => "local JWT"
  | none => "none"

def describeRoute (r : Route) : String :=
  "     - " ++ r.name ++ " [host: " ++ r.host.getD "*" ++ ", prefix: " ++ r.pathPrefix.getD "-" ++
    "] -> " ++ r.target.render ++ if r.authentication.required then " (auth)" else ""

/-- What is said of a configuration and its routes, in the order of their names. -/
def summary (c : Config) (routes : List Route) : List String :=
  ["", "📋 Configuration Summary:",
    "   • Listen Address: " ++ c.listenAddr,
    "   • Routes From: " ++ describeRepository c.repository,
    "   • Authentication: " ++ describeAuth c.auth,
    "   • Valid Routes: " ++ toString routes.length] ++
    (routes.mergeSort fun a b => a.name ≤ b.name).map describeRoute ++
    ["", "🎉 Configuration is valid and ready to use!"]

def loadFaultLine (path : String) : Config.LoadFault → String
  | .unreadable => "   Failed to build config from " ++ path
  | .undecodable => "   Failed to deserialize config from " ++ path

/-- Checks a configuration and the routes that it points at. -/
def validate (s : Surroundings) (path : String) : Outcome :=
  let begun := ["🔍 Validating configuration file: " ++ path]
  let parsed := begun ++ ["✅ Configuration parsing: OK"]
  let valid := parsed ++ ["✅ Configuration validation: OK"]
  let failing (out err : List String) : Outcome := ⟨1, unlines out, unlines err⟩
  if (s.files path).isNone then
    failing begun ["❌ Error: Configuration file '" ++ path ++ "' not found"]
  else match s.load path with
    | .error e => failing begun ["❌ Configuration parsing failed:", loadFaultLine path e]
    | .ok c =>
      match c.complaint? with
      | some complaint => failing parsed ["❌ Configuration validation failed:", complaint]
      | none =>
        match s.fetch c.repository with
        | .error e => failing valid ["❌ Failed to read route definitions: " ++ e.message]
        | .ok routes => ⟨0, unlines (valid ++ summary c routes), ""⟩

/-- The paths that a command looks at: that of the configuration and those that it names. -/
def pathsFor (s : Surroundings) (path : String) : List String :=
  match s.load path with
  | .ok c =>
    match c.repository with
    | .file directory => [path, directory]
    | .http _ _ => [path]
  | .error _ => [path]

/-- Starts to serve. A gateway that has started has written nothing yet. -/
def serve (s : Surroundings) (path : String) : Outcome :=
  match Startup.run s path with
  | .error e => ⟨1, "", unlines ["Error: " ++ e.message path]⟩
  | .ok _ => ⟨0, "", ""⟩

def run (s : Surroundings) (args : List String) : Outcome :=
  match read args with
  | .error e => ⟨2, "", unlines [e.message]⟩
  | .ok (.validate path) => validate s path
  | .ok (.serve path) => serve s path
  | .ok (.help topic) => ⟨0, unlines (helpLines topic), ""⟩
  | .ok .version => ⟨0, unlines [programName ++ " " ++ version], ""⟩

end Gateway.CommandLine
