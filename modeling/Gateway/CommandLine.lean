import Gateway.Text

/-! # The command line -/
namespace Gateway.CommandLine
open Text

def programName : String := "switchyard"

def version : String := "0.1.0"

def about : String :=
  "An API gateway with a hot-reloadable route table and pluggable authentication"

def defaultPath : String := "switchyard.yaml"

inductive Action
  | validate
  | serve
  | help
  deriving DecidableEq, Repr

def Action.name : Action → String
  | validate => "validate"
  | serve => "serve"
  | help => "help"

def Action.about : Action → String
  | validate => "Validate the gateway configuration and every route definition"
  | serve => "Start the gateway (default)"
  | help => "Print this message or the help of the given subcommand(s)"

def Action.ofName? (name : String) : Option Action :=
  [Action.validate, .serve, .help].find? (·.name == name)

/-- What is asked for. -/
inductive Command
  | validate (path : String)
  | serve (path : String)
  /-- The help on one action, or on all. -/
  | help (topic : Option Action)
  | version
  deriving DecidableEq, Repr

inductive UsageFault
  | unexpected (argument : String)
  | unknownAction (name : String)
  | missingValue
  | repeated
  deriving DecidableEq, Repr

def configOption : String := "'--config <CONFIG>'"

def UsageFault.message : UsageFault → String
  | unexpected argument => "error: unexpected argument '" ++ argument ++ "' found"
  | unknownAction name => "error: unrecognized subcommand '" ++ name ++ "'"
  | missingValue => "error: a value is required for " ++ configOption ++ " but none was supplied"
  | repeated => "error: the argument " ++ configOption ++ " cannot be used multiple times"

/-- How an argument reads by itself. -/
inductive Argument
  | config (value : Option String)
  | help
  | version
  | separator
  | word (text : String)
  | unknown (text : String)
  deriving DecidableEq, Repr

def Argument.read (s : String) : Argument :=
  match s.toList with
  | ['-', '-'] => .separator
  | ['-'] => .word s
  | '-' :: '-' :: _ =>
    match cutChars '=' s.toList with
    | (name, value) =>
      match String.ofList name, value with
      | "--config", value => .config (value.map String.ofList)
      | "--help", none => .help
      | "--version", none => .version
      | _, _ => .unknown s
  | ['-', 'c'] => .config none
  | '-' :: 'c' :: '=' :: value => .config (some (String.ofList value))
  | '-' :: 'c' :: value => .config (some (String.ofList value))
  | '-' :: 'h' :: _ => .help
  | '-' :: 'V' :: _ => .version
  | '-' :: _ => .unknown s
  | _ => .word s

/-- Whether an argument can be the value of an option. -/
def isValue (s : String) : Bool := s == "-" || s.toList.head? != some '-'

def commandOf (action : Action) (seen : Option String) : Command :=
  let path := seen.getD defaultPath
  match action with
  | .validate => .validate path
  | .serve => .serve path
  | .help => .help none

def readHelp : List String → Except UsageFault Command
  | [] => .ok (.help none)
  | [name] =>
    match Action.ofName? name with
    | some action => .ok (.help (some action))
    | none => .error (.unknownAction name)
  | _ :: extra :: _ => .error (.unexpected extra)

/-- Reads the arguments from left to right. Before an action is named, `chosen` is none. -/
def readFrom (chosen : Option Action) (path : Option String) :
    List String → Except UsageFault Command
  | [] => .ok (commandOf (chosen.getD .serve) path)
  | a :: rest =>
    match Argument.read a, rest with
    | .help, _ => .ok (.help chosen)
    | .version, _ => if chosen.isNone then .ok .version else .error (.unexpected a)
    | .config (some value), rest =>
      if path.isSome then .error .repeated else readFrom chosen (some value) rest
    | .config none, value :: rest =>
      if !isValue value then .error .missingValue
      else if path.isSome then .error .repeated
      else readFrom chosen (some value) rest
    | .config none, [] => .error .missingValue
    | .separator, [] => .ok (commandOf (chosen.getD .serve) path)
    | .separator, b :: _ => .error (.unexpected b)
    | .unknown text, _ => .error (.unexpected text)
    | .word text, rest =>
      match chosen, Action.ofName? text with
      | some _, _ => .error (.unexpected text)
      | none, none => .error (.unknownAction text)
      | none, some .help => readHelp rest
      | none, some action => readFrom (some action) none rest

/-- What is asked for by the arguments. -/
def read (args : List String) : Except UsageFault Command := readFrom none none args

def optionLines (versioned : Bool) : List String :=
  ["Options:",
    "  -c, --config <CONFIG>  [default: " ++ defaultPath ++ "]",
    "  -h, --help             Print help"] ++
    if versioned then ["  -V, --version          Print version"] else []

def actionLine (a : Action) : String :=
  "  " ++ String.ofList (a.name.toList ++ List.replicate (10 - a.name.length) ' ') ++ a.about

/-- The lines that explain the usage. -/
def helpLines : Option Action → List String
  | none =>
    [about, "", "Usage: " ++ programName ++ " [OPTIONS] [COMMAND]", "", "Commands:"] ++
      [Action.validate, .serve, .help].map actionLine ++ [""] ++ optionLines true
  | some .help =>
    [Action.help.about, "", "Usage: " ++ programName ++ " help [COMMAND]..."]
  | some action =>
    [action.about, "", "Usage: " ++ programName ++ " " ++ action.name ++ " [OPTIONS]", ""] ++
      optionLines false

/-- The path of the configuration that a command is about. -/
def Command.path? : Command → Option String
  | validate path => some path
  | serve path => some path
  | _ => none

end Gateway.CommandLine
