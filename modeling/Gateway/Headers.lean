import Gateway.Text

/-! # Header fields -/
namespace Gateway
open Text

/-- Fields in the order in which they were added. Names are in small letters and may repeat. -/
structure Headers where
  fields : List (String × Bytes)
  deriving DecidableEq, Repr

namespace Headers

def empty : Headers := ⟨[]⟩

/-- A tab, or a byte from the space on except the last of ASCII. -/
def isLegalByte (b : UInt8) : Bool := b == 9 || (32 ≤ b && b != 127)

def isLegal (value : Bytes) : Bool := value.all isLegalByte

def isVisibleByte (b : UInt8) : Bool := b == 9 || (32 ≤ b && b < 127)

/-- The value as text, if it is visible ASCII. -/
def text? (value : Bytes) : Option String :=
  if value.all isVisibleByte then some (latin1 value) else none

def append (name : String) (value : Bytes) (h : Headers) : Headers :=
  ⟨h.fields ++ [(lowerAscii name, value)]⟩

def remove (name : String) (h : Headers) : Headers := ⟨h.fields.filter (·.1 != name)⟩

/-- Gives a field one value, in the place of all it had. -/
def insert (name : String) (value : Bytes) (h : Headers) : Headers :=
  ⟨(h.remove name).fields ++ [(name, value)]⟩

/-- The values of a field, in order. -/
def values (name : String) (h : Headers) : List Bytes :=
  (h.fields.filter (·.1 == name)).map (·.2)

def first? (name : String) (h : Headers) : Option Bytes := (h.values name).head?

/-- The first value of a field, if it is visible ASCII. -/
def readable? (name : String) (h : Headers) : Option String := (h.first? name).bind text?

/-- Sets a field to a text, unless the text is no legal value. -/
def set (name value : String) (h : Headers) : Headers :=
  if isLegal (utf8 value) then h.insert name (utf8 value) else h

end Headers
end Gateway
