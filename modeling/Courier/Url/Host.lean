import Courier.Domain.Name
import Courier.Url.Address

/-! The host of a URL. Where the scheme is a special one it is an address or a domain name; elsewhere
it is any text, or an address in brackets. -/
namespace Courier.Url

open Courier.Text

inductive Host where
  | name (text : String)
  | four (address : Nat)
  | eight (pieces : List Nat)
  deriving DecidableEq

namespace Host

/-- The host of a URL that names none behind its slashes. -/
def void : Host := name ""

def text : Host → String
  | name text => text
  | four address => FourBytes.text address
  | eight all => "[" ++ EightPieces.text all ++ "]"

def bracketed? : List Char → Option (Option (List Char))
  | '[' :: cs => some (if cs.getLast? = some ']' then some cs.dropLast else none)
  | _ => none

def ofName? (name : String) : Option Host :=
  if name = "" then none
  else if FourBytes.isMeant name.toList then (FourBytes.ofChars? name.toList).map four
  else some (Host.name name)

def ofDomain? (cs : List Char) : Option Host :=
  match bracketed? cs with
  | some inner => (inner.bind EightPieces.ofChars?).map eight
  | none => ((Percent.text? cs).bind Domain.toAscii?).bind ofName?

def isForbidden (c : Char) : Bool := c = '\x00' || c = ' ' || "\t\n\r#/:<>?@[\\]^|".toList.contains c

def ofText? (cs : List Char) : Option Host :=
  match bracketed? cs with
  | some inner => (inner.bind EightPieces.ofChars?).map eight
  | none =>
    if cs.any isForbidden then none else some (name (Percent.escaped (fun _ => false) cs))

end Host

end Courier.Url
