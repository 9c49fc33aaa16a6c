import Gateway.Auth.Claims
import Gateway.Headers
import Gateway.Socket
import Gateway.Uri

/-! # Rewriting a request on its way to a backend -/
namespace Gateway.Forwarding
open Text

/-- Fields that a client could use to pass for someone else. -/
def identityNames : List String :=
  ["authorization", "user-id", "user-uuid", "profile-ids", "permissions"]

def removeAll (names : List String) (h : Headers) : Headers := names.foldl (fun h n => h.remove n) h

def sanitizeIdentity (h : Headers) : Headers := removeAll identityNames h

/-- Fields that belong to one connection. -/
def hopByHopNames : List String :=
  ["connection", "keep-alive", "proxy-connection", "te", "trailer", "transfer-encoding", "upgrade"]

/-- The names between the commas of a connection field. -/
def namesIn (value : String) : List String :=
  ((split ',' value).map fun s => lowerAscii (trim s)).filter (!·.isEmpty)

/-- The names that the connection fields declare to belong to the connection too. -/
def listedNames (h : Headers) : List String :=
  ((h.values "connection").filterMap Headers.text?).flatMap namesIn

def removeHopByHop (h : Headers) : Headers := removeAll (listedNames h ++ hopByHopNames) h

/-- The path without the prefix, if it has it, with one slash in front. -/
def stripPrefix (path pre : String) : String :=
  let cs := path.toList
  let ps := pre.toList
  let rest := if ps.isPrefixOf cs then cs.drop ps.length else cs
  String.ofList ('/' :: rest.dropWhile (· == '/'))

/-- A field's first value without outer blanks, if anything is left of it. -/
def meaningful? (name : String) (h : Headers) : Option String :=
  match (h.readable? name).map trim with
  | some s => if s.isEmpty then none else some s
  | none => none

/-- The first entry of the chain of addresses. -/
def firstHop? (h : Headers) : Option String :=
  match (meaningful? "x-forwarded-for" h).map fun s => trim ((split ',' s).headD "") with
  | some s => if s.isEmpty then none else some s
  | none => none

/-- The client's address: the first one of the chain, or the one that a proxy reports, or the
peer's. -/
def clientIp (h : Headers) (peer : Option Socket) : Option String :=
  ((firstHop? h).or (meaningful? "x-real-ip" h)).or (peer.map fun p => p.ip.render)

def protocol (h : Headers) (tls : Bool) : String :=
  if tls then "https" else (meaningful? "x-forwarded-proto" h).getD "http"

/-- The chain of addresses with the peer at its end. -/
def chain (h : Headers) (peer : Socket) : String :=
  match h.readable? "x-forwarded-for" with
  | some existing => if allBlank existing then peer.ip.render else existing ++ ", " ++ peer.ip.render
  | none => peer.ip.render

def setIfAny (name : String) (value : Option String) (h : Headers) : Headers :=
  match value with
  | some v => h.set name v
  | none => h

/-- Tells the backend about the client. The host field must still be the client's. -/
def applyForwarding (h : Headers) (peer : Option Socket) (tls : Bool) : Headers :=
  let extended (g : Headers) : Headers :=
    match peer with
    | some p => g.set "x-forwarded-for" (chain g p)
    | none => g
  extended <|
    ((setIfAny "x-real-ip" (clientIp h peer)
      (setIfAny "x-forwarded-host" (h.readable? "host") h)).set "x-forwarded-proto" (protocol h tls))

def commaJoined : List String → Option String
  | [] => none
  | xs => some (join "," xs)

/-- Sets the identity fields from claims, each only if the claims have something to say there. -/
def injectIdentity (c : Claims) (h : Headers) : Headers :=
  setIfAny "permissions" (commaJoined c.permissions) <|
    setIfAny "profile-ids" (commaJoined c.profileIds) <|
      setIfAny "user-uuid" (c.userUuid.filter (!·.isEmpty)) <|
        setIfAny "user-id" c.subject h

/-- The target's base path without the slashes at its end. -/
def basePath (target : Url) : String :=
  String.ofList ((target.path.toList.reverse.dropWhile (· == '/')).reverse)

def backendText (target : Url) (path : String) (query : Option String) : String :=
  target.scheme ++ "://" ++ target.place ++ basePath target ++ path ++
    match query with
    | some q => if q.isEmpty then "" else "?" ++ q
    | none => ""

/-- The backend's URI: the target's base path joined with the path, and the query. -/
def backendUri (target : Url) (path : String) (query : Option String) : Except Uri.Fault Uri :=
  Uri.read (backendText target path query)

end Gateway.Forwarding
