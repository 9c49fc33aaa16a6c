import Gateway.Route.Definition

/-! # Claims: what a credential says about its holder -/
namespace Gateway
open Text Record

/-- Issuers name users and profiles by numbers or by texts. -/
inductive Identifier
  | number (value : Int)
  | name (value : String)
  deriving DecidableEq, Repr

namespace Identifier

def render : Identifier → String
  | number n => toString n
  | name s => s

def decode? {ν : Type} [Source ν] (x : ν) : Option Identifier :=
  ((signed64? x).map number).or ((Source.text? x).map name)

def encode : Identifier → Json
  | number n => .int n
  | name s => .text s

end Identifier

structure Claims where
  userId : Option Identifier
  userUuid : Option String
  sub : Option String
  roles : List String
  permissions : List String
  /-- The profiles of the user, by their identifiers. -/
  profiles : List Identifier
  /-- When the credential expires, in seconds since the start of 1970. -/
  exp : Option Int
  deriving DecidableEq, Repr

namespace Claims

def decodeProfile? {ν : Type} [Source ν] (x : ν) : Option Identifier := do
  let r ← collect? (slotsOf ["id"]) x
  r.required "id" Identifier.decode?

def slots : List Slot := [
  ⟨"user_id", ["userId"]⟩, ⟨"user_uuid", ["userUuid"]⟩, ⟨"sub", []⟩, ⟨"roles", []⟩,
  ⟨"permissions", []⟩, ⟨"profiles", []⟩, ⟨"exp", []⟩]

/-- No field is needed. -/
def decode? {ν : Type} [Source ν] (x : ν) : Option Claims := do
  let r ← collect? slots x
  return {
    userId := ← r.optional "user_id" Identifier.decode?
    userUuid := ← r.optional "user_uuid" Source.text?
    sub := ← r.optional "sub" Source.text?
    roles := ← r.withDefault "roles" [] (listOf Source.text?)
    permissions := ← r.withDefault "permissions" [] (listOf Source.text?)
    profiles := ← r.withDefault "profiles" [] (listOf decodeProfile?)
    exp := ← r.optional "exp" signed64? }

def presentField {α : Type} (name : String) (f : α → Json) : Option α → List (String × Json)
  | none => []
  | some a => [(name, f a)]

def encodeProfile (p : Identifier) : Json := .record [("id", p.encode)]

/-- Fields without a value are left out. -/
def encode (c : Claims) : Json :=
  .record (presentField "user_id" Identifier.encode c.userId ++
    presentField "user_uuid" Json.text c.userUuid ++ presentField "sub" Json.text c.sub ++
    [("roles", .ofTexts c.roles), ("permissions", .ofTexts c.permissions),
      ("profiles", .list (c.profiles.map encodeProfile))] ++
    presentField "exp" Json.int c.exp)

/-- The user, by the user's identifier or else the subject of the credential. -/
def subject (c : Claims) : Option String :=
  ((c.userId.map Identifier.render).or c.sub).filter (!·.isEmpty)

def profileIds (c : Claims) : List String := c.profiles.map Identifier.render

/-- Whether the holder has one of the roles or one of the permissions. -/
def hasAny (c : Claims) (roles permissions : List String) : Bool :=
  c.roles.any roles.contains || c.permissions.any permissions.contains

end Claims
end Gateway
