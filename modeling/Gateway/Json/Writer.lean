import Gateway.Json
import Gateway.Text

/-! # Writing JSON values without blanks -/
namespace Gateway.Json
open Text

/-- Quotes, backslashes and control characters are escaped, all else stands for itself. -/
def escape (c : Char) : List Char :=
  if c = '"' then ['\\', '"']
  else if c = '\\' then ['\\', '\\']
  else if c = '\n' then ['\\', 'n']
  else if c = '\r' then ['\\', 'r']
  else if c = '\t' then ['\\', 't']
  else if c.toNat = 8 then ['\\', 'b']
  else if c.toNat = 12 then ['\\', 'f']
  else if c.toNat < 32 then ['\\', 'u', '0', '0', hexDigit (c.toNat / 16), hexDigit (c.toNat % 16)]
  else [c]

def renderText (s : String) : List Char := '"' :: s.toList.flatMap escape ++ ['"']

def renderInt (n : Int) : List Char :=
  match n with
  | .ofNat k => Nat.toDigits 10 k
  | .negSucc k => '-' :: Nat.toDigits 10 (k + 1)

mutual
def renderChars : Json → List Char
  | .null => ['n', 'u', 'l', 'l']
  | .bool true => ['t', 'r', 'u', 'e']
  | .bool false => ['f', 'a', 'l', 's', 'e']
  | .int n => renderInt n
  | .real literal => literal.toList
  | .void => []
  | .text s => renderText s
  | .list [] => ['[', ']']
  | .list (x :: xs) => '[' :: renderChars x ++ renderItems xs
  | .record [] => ['{', '}']
  | .record ((name, x) :: fields) =>
    '{' :: renderText name ++ ':' :: renderChars x ++ renderFields fields

/-- The items after the first and the closing bracket. -/
def renderItems : List Json → List Char
  | [] => [']']
  | x :: xs => ',' :: renderChars x ++ renderItems xs

def renderFields : List (String × Json) → List Char
  | [] => ['}']
  | (name, x) :: fields => ',' :: renderText name ++ ':' :: renderChars x ++ renderFields fields
end

def render (j : Json) : String := String.ofList (renderChars j)

end Gateway.Json
