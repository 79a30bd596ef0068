import Courier.Url.Basic
import Courier.Url.Path

/-! Reading URLs. Schemes are of three kinds: those with a host, whatever slashes stand before it, the
scheme of files, and all others. A reader takes the characters that no reader before it took. -/
namespace Courier.Url

open Courier.Text

inductive Kind where
  | hosted (usual : Nat)
  | file
  | other
  deriving DecidableEq

namespace Kind

/-- Schemes with a host have a usual number that need not be named. -/
def ofScheme (scheme : String) : Kind :=
  if scheme = "http" ∨ scheme = "ws" then hosted 80
  else if scheme = "https" ∨ scheme = "wss" then hosted 443
  else if scheme = "ftp" then hosted 21
  else if scheme = "file" then file
  else other

def isSpecial (k : Kind) : Bool := k ≠ other

def isSlash (k : Kind) (c : Char) : Bool := c = '/' || (k.isSpecial && c = '\\')

end Kind

/-! ### Characters that are escaped -/

def inFragment (c : Char) : Bool := " \"<>`".toList.contains c

def inPath (c : Char) : Bool := inFragment c || "#?{}".toList.contains c

def inLogin (c : Char) : Bool := inPath c || "/:;=@[\\]^|".toList.contains c

def inQuery (k : Kind) (c : Char) : Bool :=
  " \"#<>".toList.contains c || (k.isSpecial && c = '\'')

/-! ### Parts -/

/-- Surrounding blanks and controls, and tabs and line ends anywhere, do not count. -/
def counted (cs : List Char) : List Char :=
  let cs := cs.dropWhile fun c => c.toNat ≤ 32
  let cs := (cs.reverse.dropWhile fun c => c.toNat ≤ 32).reverse
  cs.filter fun c => !(c = '\t' || c = '\n' || c = '\r')

def isSchemeChar (c : Char) : Bool := isLetter c || c.isDigit || c = '+' || c = '-' || c = '.'

def scheme? (cs : List Char) : Option (String × List Char) :=
  let scheme := cs.takeWhile isSchemeChar
  match cs.drop scheme.length with
  | ':' :: rest =>
    if scheme.head?.any isLetter then some (String.ofList (scheme.map Char.toLower), rest) else none
  | _ => none

def isTailStart (c : Char) : Bool := c = '?' || c = '#'

def tail (k : Kind) (cs : List Char) : Option String × Option String :=
  let query := cs.takeWhile (· ≠ '#')
  let fragment := cs.drop query.length
  (match query with
  | '?' :: query => some (Percent.escaped (inQuery k) query)
  | _ => none,
  match fragment with
  | '#' :: fragment => some (Percent.escaped inFragment fragment)
  | _ => none)

def segmentsOf (k : Kind) (cs : List Char) : Path × Bool :=
  let escaped := (pieces k.isSlash cs).map (Percent.escape inPath)
  let (all, isHostVoid) := Path.resolve (k = .file) escaped
  (.segments (all.map String.ofList), isHostVoid)

def withoutSlash (k : Kind) : List Char → List Char
  | c :: cs => if k.isSlash c then cs else c :: cs
  | [] => []

def pathBehind (k : Kind) (cs : List Char) : Path :=
  if cs = [] ∧ k = .other then .segments [] else (segmentsOf k (withoutSlash k cs)).1

def parted? (cs : List Char) : Option (List Char × List Char) :=
  let rest := (cs.reverse.takeWhile (· ≠ '@')).reverse
  if rest.length < cs.length then some (cs.take (cs.length - rest.length - 1), rest) else none

def login? (cs : List Char) : Option Login :=
  let user := cs.takeWhile (· ≠ ':')
  let password := cs.drop (user.length + 1)
  if user = [] ∧ password = [] then none
  else some ⟨Percent.escaped inLogin user, Percent.escaped inLogin password⟩

def hostPart (isInside : Bool) : List Char → List Char
  | [] => []
  | c :: cs =>
    if c = ':' ∧ !isInside then []
    else c :: hostPart (if c = '[' then true else if c = ']' then false else isInside) cs

/-- The number behind a host, and what stands behind it; a backslash ends it in any scheme. -/
def portNumber? (k : Kind) : List Char → Option (Option Nat × List Char)
  | ':' :: cs =>
    let digits := cs.takeWhile Char.isDigit
    let rest := cs.drop digits.length
    let number := decimal digits
    if number < 65536 ∧ (rest = [] ∨ rest.head? = some '\\') then
      some (if digits = [] ∨ k = .hosted number then none else some number, rest)
    else none
  | cs => some (none, cs)

def host? (k : Kind) (cs : List Char) : Option Host :=
  if k = .other then Host.ofText? cs else Host.ofDomain? cs

/-! ### Kinds -/

def hosted? (scheme : String) (k : Kind) (cs : List Char) : Option Url := do
  let authority := cs.takeWhile fun c => !(k.isSlash c || isTailStart c)
  let behind := cs.drop authority.length
  let (before, rest) := (parted? authority).getD ([], authority)
  let login := login? before
  let name := hostPart false rest
  let afterName := rest.drop name.length
  if name = [] ∧ (k ≠ .other ∨ login.isSome ∨ afterName ≠ [] ∨
      (authority = ['@'] ∧ behind ≠ [])) then none
  else
    let host ← host? k name
    let (portNumber, afterNumber) ← portNumber? k afterName
    let rest := afterNumber ++ behind
    let path := rest.takeWhile (!isTailStart ·)
    let (query, fragment) := tail k (rest.drop path.length)
    some ⟨scheme, login, some host, portNumber, pathBehind k path, query, fragment⟩

def fileHost? (cs : List Char) : Option (Host × List Char) :=
  let name := cs.takeWhile (!Kind.file.isSlash ·)
  let path := cs.drop name.length
  if isDrive name then some (.void, cs)
  else if name = [] then some (.void, path)
  else do
    let host ← Host.ofDomain? name
    if host = .name "localhost" then some (.void, path)
    else some (host, withoutSlash .file path)

def file? (scheme : String) (cs : List Char) : Option Url := do
  let path := cs.takeWhile (!isTailStart ·)
  let (query, fragment) := tail .file (cs.drop path.length)
  let (host, path) ← match path with
    | c :: d :: rest =>
      if Kind.file.isSlash c ∧ Kind.file.isSlash d then fileHost? rest
      else some (.void, withoutSlash .file path)
    | _ => some (.void, withoutSlash .file path)
  let (path, isHostVoid) := segmentsOf .file path
  some ⟨scheme, none, some (if isHostVoid then .void else host), none, path, query, fragment⟩

/-- Only two slashes stand before a host of another scheme. -/
def other? (scheme : String) (cs : List Char) : Option Url :=
  let path := cs.takeWhile (!isTailStart ·)
  let (query, fragment) := tail .other (cs.drop path.length)
  match path with
  | '/' :: '/' :: _ => hosted? scheme .other (cs.drop 2)
  | '/' :: path =>
    some ⟨scheme, none, none, none, (segmentsOf .other path).1, query, fragment⟩
  | path =>
    some ⟨scheme, none, none, none, .plain (Percent.escaped (fun _ => false) path), query, fragment⟩

def ofChars? (cs : List Char) : Option Url := do
  let (scheme, rest) ← scheme? (counted cs)
  match Kind.ofScheme scheme with
  | .hosted usual => hosted? scheme (.hosted usual) (rest.dropWhile (Kind.isSlash (.hosted usual)))
  | .file => file? scheme rest
  | .other => other? scheme rest

def ofText? (text : String) : Option Url := ofChars? text.toList

end Courier.Url
