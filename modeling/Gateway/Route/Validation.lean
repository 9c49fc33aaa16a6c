import Gateway.Duration.Reader
import Gateway.Route.Definition
import Gateway.Url.Reader

/-! # Which definitions make a route -/
namespace Gateway
open Text

/-- Why a definition is no route. -/
inductive Definition.Fault
  | emptyName
  | emptyTarget (route : String)
  | invalidTarget (route target reason : String)
  | emptyRule (route : String)
  | invalidPrefix (route path : String)
  | unknownMethod (route method : String)
  | invalidTimeout (route value : String) (reason : Duration.Fault)
  deriving DecidableEq, Repr

def Definition.Fault.message : Definition.Fault → String
  | .emptyName => "route name must not be empty"
  | .emptyTarget route => "route '" ++ route ++ "': target URL must not be empty"
  | .invalidTarget route target reason =>
    "route '" ++ route ++ "': invalid target URL '" ++ target ++ "': " ++ reason
  | .emptyRule route =>
    "route '" ++ route ++ "': match rule needs at least one of host, prefix or regex"
  | .invalidPrefix route path => "route '" ++ route ++ "': path prefix '" ++ path ++
      "' must start with '/'"
  | .unknownMethod route method => "route '" ++ route ++ "': unknown HTTP method '" ++ method ++ "'"
  | .invalidTimeout route value reason =>
    "route '" ++ route ++ "': invalid timeout '" ++ value ++ "': " ++ reason.message

/-- A text without its outer blanks, unless nothing is left of it. -/
def nonEmpty? (s : Option String) : Option String :=
  match s.map trim with
  | some t => if t.isEmpty then none else some t
  | none => none

namespace Definition

/-- A target is a URL of the web with a host. -/
def target? (route raw : String) : Except Fault Url :=
  match Url.read raw with
  | .error e => .error (.invalidTarget route raw e.message)
  | .ok url =>
    if (url.scheme = "http" || url.scheme = "https") && url.host.isSome then .ok url
    else .error (.invalidTarget route raw "expected an absolute http(s) URL")

/-- The prefix of the match block, or else the one beside it. -/
def chosenPrefix (d : Definition) : Option String :=
  (nonEmpty? d.block.pathPrefix).or (nonEmpty? d.pathPrefix)

def checkPrefix (route : String) : Option String → Except Fault Unit
  | none => .ok ()
  | some p => if p.toList.head? = some '/' then .ok () else .error (.invalidPrefix route p)

/-- The set of the methods that texts name. -/
def verbs? (route : String) (raws : List String) : Except Fault (Option (List Verb)) :=
  match raws.find? fun m => (Verb.ofText? m).isNone with
  | some bad => .error (.unknownMethod route bad)
  | none =>
    if raws.isEmpty then .ok none
    else .ok (some (Verb.all.filter fun v => raws.any fun m => Verb.ofText? m == some v))

def checkExceptions (route : String) (a : Authentication) : Except Fault Unit :=
  match (a.except.flatMap (·.methods)).find? fun m => (Verb.ofText? m).isNone with
  | some bad => .error (.unknownMethod route bad)
  | none => .ok ()

/-- A missing timeout and one of zero mean the default. -/
def timeout? (route : String) (raw : Option String) : Except Fault Duration :=
  match nonEmpty? raw with
  | none => .ok Route.defaultTimeout
  | some text =>
    match Duration.read text with
    | .ok d => .ok (if d.isZero then Route.defaultTimeout else d)
    | .error e => .error (.invalidTimeout route text e)

/-- The route of a definition; the first thing wrong with it is reported. -/
def validate (d : Definition) : Except Fault Route := do
  let name := trim d.name
  if name.isEmpty then .error .emptyName
  let raw := trim d.target
  if raw.isEmpty then .error (.emptyTarget name)
  let target ← target? name raw
  let pathPrefix := d.chosenPrefix
  checkPrefix name pathPrefix
  let methods ← verbs? name d.block.methods
  let rule : Rule := ⟨nonEmpty? d.block.host, pathPrefix, nonEmpty? d.block.regex, methods⟩
  if rule.isEmpty then .error (.emptyRule name)
  let authentication := d.authentication.getD .none
  checkExceptions name authentication
  let timeout ← timeout? name d.timeout
  return {
    name, rule, target, authentication, timeout
    description := nonEmpty? d.description
    stripPrefix := d.stripPrefix
    updatedAt := d.updatedAt }

end Definition
end Gateway
