import Gateway.Record
import Gateway.Route

/-! # Route definitions as they are stored -/
namespace Gateway

structure MatchBlock where
  host : Option String
  pathPrefix : Option String
  regex : Option String
  methods : List String
  deriving DecidableEq, Repr

structure Definition where
  name : String
  description : Option String
  block : MatchBlock
  pathPrefix : Option String
  authentication : Option Authentication
  target : String
  stripPrefix : Bool
  timeout : Option String
  updatedAt : Int
  deriving DecidableEq, Repr

def MatchBlock.empty : MatchBlock := ⟨none, none, none, []⟩

section Decoding
open Record
variable {ν : Type} [Source ν]

def AuthException.decode? (x : ν) : Option AuthException := do
  let r ← collect? (slotsOf ["path", "methods"]) x
  return {
    path := ← r.required "path" Source.text?
    methods := ← r.withDefault "methods" [] (listOf Source.text?) }

def Authentication.decode? (x : ν) : Option Authentication := do
  let r ← collect? (slotsOf ["required", "except"]) x
  return {
    required := ← r.withDefault "required" false Source.flag?
    except := ← r.withDefault "except" [] (listOf AuthException.decode?) }

def MatchBlock.decode? (x : ν) : Option MatchBlock := do
  let r ← collect? (slotsOf ["host", "prefix", "regex", "methods"]) x
  return {
    host := ← r.optional "host" Source.text?
    pathPrefix := ← r.optional "prefix" Source.text?
    regex := ← r.optional "regex" Source.text?
    methods := ← r.withDefault "methods" [] (listOf Source.text?) }

def Definition.slots : List Slot := [
  ⟨"name", ["id"]⟩, ⟨"description", []⟩, ⟨"match", []⟩, ⟨"pathPrefix", []⟩,
  ⟨"authentication", []⟩, ⟨"target", ["targetURL", "targetUrl"]⟩, ⟨"stripPrefix", []⟩,
  ⟨"timeout", []⟩, ⟨"updatedAt", []⟩]

/-- Only a name is needed. -/
def Definition.decode? (x : ν) : Option Definition := do
  let r ← collect? Definition.slots x
  return {
    name := ← r.required "name" Source.text?
    description := ← r.optional "description" Source.text?
    block := ← r.withDefault "match" MatchBlock.empty MatchBlock.decode?
    pathPrefix := ← r.optional "pathPrefix" Source.text?
    authentication := ← r.optional "authentication" Authentication.decode?
    target := ← r.withDefault "target" "" Source.text?
    stripPrefix := ← r.withDefault "stripPrefix" false Source.flag?
    timeout := ← r.optional "timeout" Source.text?
    updatedAt := ← r.withDefault "updatedAt" 0 signed64? }

end Decoding

/-- A field that is left out when it has no value. -/
def optionalField (name : String) : Option String → List (String × Json)
  | none => []
  | some s => [(name, .text s)]

def AuthException.encode (e : AuthException) : Json :=
  .record [("path", .text e.path), ("methods", .ofTexts e.methods)]

def Authentication.encode (a : Authentication) : Json :=
  .record [("required", .bool a.required), ("except", .list (a.except.map AuthException.encode))]

def MatchBlock.encode (m : MatchBlock) : Json :=
  .record (optionalField "host" m.host ++ optionalField "prefix" m.pathPrefix ++
    optionalField "regex" m.regex ++
    if m.methods.isEmpty then [] else [("methods", .ofTexts m.methods)])

/-- The stored form, under the fields' own names. The version is not stored. -/
def Definition.encode (d : Definition) : Json :=
  .record ([("name", .text d.name)] ++ optionalField "description" d.description ++
    [("match", d.block.encode)] ++ optionalField "pathPrefix" d.pathPrefix ++
    [("authentication", .ofOption Authentication.encode d.authentication),
      ("target", .text d.target), ("stripPrefix", .bool d.stripPrefix)] ++
    optionalField "timeout" d.timeout)

end Gateway
