import Gateway.Duration
import Gateway.Text
import Gateway.Url

/-! # Routes: which requests go to which backend -/
namespace Gateway
open Text

/-- The standard methods, in the order of their names. -/
inductive Verb
  | connect | delete | get | head | options | patch | post | put | trace
  deriving DecidableEq, Repr

namespace Verb

def all : List Verb := [connect, delete, get, head, options, patch, post, put, trace]

def name : Verb → String
  | connect => "CONNECT"
  | delete => "DELETE"
  | get => "GET"
  | head => "HEAD"
  | options => "OPTIONS"
  | patch => "PATCH"
  | post => "POST"
  | put => "PUT"
  | trace => "TRACE"

/-- Blanks around a name and the case of its letters do not count. -/
def ofText? (s : String) : Option Verb :=
  let wanted := upperAscii (trim s)
  all.find? (·.name == wanted)

/-- Whether a request's method is this one; in a request the case of letters counts. -/
def accepts (v : Verb) (method : String) : Bool := v.name == method

end Verb

/-- The conditions of a route; all that are given must hold. -/
structure Rule where
  host : Option String
  pathPrefix : Option String
  pattern : Option String
  methods : Option (List Verb)
  deriving DecidableEq, Repr

/-- Methods alone do not make a rule. -/
def Rule.isEmpty (r : Rule) : Bool := r.host.isNone && r.pathPrefix.isNone && r.pattern.isNone

/-- A path, and methods unless it is all of them, for which a policy is turned round. -/
structure AuthException where
  path : String
  methods : List String
  deriving DecidableEq, Repr

def AuthException.covers (e : AuthException) (path method : String) : Bool :=
  e.path == path && (e.methods.isEmpty || e.methods.any fun m => sameLetters m method)

structure Authentication where
  required : Bool
  except : List AuthException
  deriving DecidableEq, Repr

namespace Authentication

def none : Authentication := ⟨false, []⟩

/-- Where authentication is required the exceptions are public, elsewhere they alone are not. -/
def requiredFor (a : Authentication) (path method : String) : Bool :=
  a.required != a.except.any (·.covers path method)

end Authentication

structure Route where
  name : String
  description : Option String
  rule : Rule
  target : Url
  stripPrefix : Bool
  authentication : Authentication
  timeout : Duration
  /-- The version of the record that the route was read from. -/
  updatedAt : Int
  deriving DecidableEq, Repr

namespace Route

def defaultTimeout : Duration := .ofSecs 30

def requiresAuth (r : Route) (path method : String) : Bool := r.authentication.requiredFor path method

def host (r : Route) : Option String := r.rule.host

def pathPrefix (r : Route) : Option String := r.rule.pathPrefix

end Route
end Gateway
