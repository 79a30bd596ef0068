import Courier.Json.Basic
import Courier.Decimal.Layout

/-! The text of a JSON tree: no white space, members in the order the tree has them. `render` writes
it and `size` measures it in bytes without writing it. -/
namespace Courier.Json

/-- Positional from 0.00001 up to, and without, 10000000000000000. -/
def floatLayout : Decimal.Layout := ⟨some (-5), some 16, .toEven⟩

def hexDigit (n : Nat) : Char := Nat.digitChar n

/-- Only the quote, the backslash and the control characters are escaped. -/
def escape (c : Char) : List Char :=
  if c = '"' then ['\\', '"']
  else if c = '\\' then ['\\', '\\']
  else if c = '\x08' then ['\\', 'b']
  else if c = '\t' then ['\\', 't']
  else if c = '\n' then ['\\', 'n']
  else if c = '\x0c' then ['\\', 'f']
  else if c = '\r' then ['\\', 'r']
  else if c.toNat < 32 then ['\\', 'u', '0', '0', hexDigit (c.toNat / 16), hexDigit (c.toNat % 16)]
  else [c]

def quote (s : String) : String :=
  String.ofList ('"' :: (s.toList.flatMap escape ++ ['"']))

mutual
def render : Json → String
  | .null => "null"
  | .bool true => "true"
  | .bool false => "false"
  | .int n => toString n
  | .float x => floatLayout.render x
  | .str s => quote s
  | .list items => "[" ++ renderItems items ++ "]"
  | .object members => "\x7b" ++ renderMembers members ++ "\x7d"

def renderItems : List Json → String
  | [] => ""
  | x :: xs => render x ++ renderItemsTail xs

def renderItemsTail : List Json → String
  | [] => ""
  | x :: xs => "," ++ (render x ++ renderItemsTail xs)

def renderMembers : List (String × Json) → String
  | [] => ""
  | (k, x) :: ms => quote k ++ (":" ++ (render x ++ renderMembersTail ms))

def renderMembersTail : List (String × Json) → String
  | [] => ""
  | (k, x) :: ms => "," ++ (quote k ++ (":" ++ (render x ++ renderMembersTail ms)))
end

def escapedSize (c : Char) : Nat :=
  if c = '"' ∨ c = '\\' ∨ c = '\x08' ∨ c = '\t' ∨ c = '\n' ∨ c = '\x0c' ∨ c = '\r' then 2
  else if c.toNat < 32 then 6
  else c.utf8Size

def quotedSize (s : String) : Nat := 2 + s.toList.foldr (fun c n => escapedSize c + n) 0

def separators (n : Nat) : Nat := n - 1

mutual
def size : Json → Nat
  | .null => 4
  | .bool true => 4
  | .bool false => 5
  | .int n => (toString n).utf8ByteSize
  | .float x => (floatLayout.render x).utf8ByteSize
  | .str s => quotedSize s
  | .list items => 2 + separators items.length + sizeItems items
  | .object members => 2 + separators members.length + sizeMembers members

def sizeItems : List Json → Nat
  | [] => 0
  | x :: xs => size x + sizeItems xs

def sizeMembers : List (String × Json) → Nat
  | [] => 0
  | (k, x) :: ms => quotedSize k + 1 + size x + sizeMembers ms
end

end Courier.Json
