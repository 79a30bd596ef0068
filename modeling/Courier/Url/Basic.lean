import Courier.Text.Cutting
import Courier.Url.Host

/-! Uniform resource locators and their text. Every part is kept as it is written there. -/
namespace Courier

/-- A password that is empty is none. -/
structure Login where
  user : String
  password : String
  deriving DecidableEq

namespace Url

/-- A path that no slash begins has no segments. -/
inductive Path where
  | plain (text : String)
  | segments (all : List String)
  deriving DecidableEq

namespace Path

def text : Path → String
  | plain text => text
  | segments all => String.join (all.map ("/" ++ ·))

def isMistakable : Path → Bool
  | plain _ => false
  | segments all => 1 < all.length && all.head? = some ""

end Path

end Url

structure Url where
  scheme : String
  login : Option Login
  host : Option Url.Host
  portNumber : Option Nat
  path : Url.Path
  query : Option String
  fragment : Option String
  deriving DecidableEq

def Login.text (l : Login) : String :=
  l.user ++ (if l.password = "" then "" else ":" ++ l.password) ++ "@"

namespace Url

def optionText (mark : String) (part : Option String) : String :=
  (part.map (mark ++ ·)).getD ""

def authorityText (u : Url) (host : Host) : String :=
  (u.login.map Login.text).getD "" ++ host.text ++ optionText ":" (u.portNumber.map toString)

/-- A path that could be mistaken for a host has a dot before it. -/
def text (u : Url) : String :=
  u.scheme ++ ":" ++
    (match u.host with
    | some host => "//" ++ u.authorityText host
    | none => if u.path.isMistakable then "/." else "") ++
    u.path.text ++ optionText "?" u.query ++ optionText "#" u.fragment

def isReadable (part : String) : Bool := (Text.Percent.text? part.toList).isSome

/-- The URL alone; a login is sent beside it, if it is text that can be. -/
def withoutLogin (u : Url) : Url :=
  match u.login with
  | some l =>
    if isReadable l.user ∧ (l.user ≠ "" ∨ isReadable l.password) then { u with login := none } else u
  | none => u

end Url

end Courier
