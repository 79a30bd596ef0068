import Courier.Text.Encoding
import Courier.Text.Cutting

/-! Numeric addresses: of four bytes, written with up to four numbers of which the last fills what the
others leave, and of eight pieces of two bytes, where one run of zeros may be left out. -/
namespace Courier.Url

open Courier.Text

def decimal (cs : List Char) : Nat := cs.foldl (fun n c => 10 * n + (c.toNat - 48)) 0

namespace FourBytes

/-- A number in base sixteen behind `0x`, in base eight behind `0`, else in base ten. -/
def number? : List Char → Option Nat
  | [] => none
  | '0' :: 'x' :: cs => hexNumber? cs
  | '0' :: 'X' :: cs => hexNumber? cs
  | '0' :: cs =>
    if cs.all fun c => '0' ≤ c && c ≤ '7' then
      some (cs.foldl (fun n c => 8 * n + (c.toNat - 48)) 0)
    else none
  | cs => if cs.all Char.isDigit then some (decimal cs) else none

def address? : Nat → List Nat → Option Nat
  | 0, _ => none
  | _, [] => none
  | bytes + 1, [n] => if n < Nat.pow 256 (bytes + 1) then some n else none
  | bytes + 1, n :: rest =>
    if n < 256 then (address? bytes rest).map (n * Nat.pow 256 bytes + ·) else none

def parts (name : List Char) : List (List Char) :=
  let all := pieces (· = '.') name
  if all.getLast? = some [] ∧ 1 < all.length then all.dropLast else all

/-- A name that ends in a number is an address or nothing. -/
def isMeant (name : List Char) : Bool :=
  match (parts name).getLast? with
  | some last => (!last.isEmpty && last.all Char.isDigit) || (number? last).isSome
  | none => false

def ofChars? (name : List Char) : Option Nat :=
  ((parts name).mapM number?).bind (address? 4)

def text (address : Nat) : String :=
  joined "." ([16777216, 65536, 256, 1].map fun weight => toString (address / weight % 256))

end FourBytes

namespace EightPieces

def byte? (cs : List Char) : Option Nat :=
  if cs.all Char.isDigit ∧ cs ≠ [] ∧ (cs.head? ≠ some '0' ∨ cs.length = 1) ∧ decimal cs < 256 then
    some (decimal cs)
  else none

def piece? (cs : List Char) : Option Nat :=
  if cs ≠ [] ∧ cs.length ≤ 4 then hexNumber? cs else none

/-- The last two pieces may be written as four bytes. -/
def tail? (cs : List Char) : Option (List Nat) :=
  if cs.contains '.' then
    match (pieces (· = '.') cs).mapM byte? with
    | some [a, b, c, d] => some [256 * a + b, 256 * c + d]
    | _ => none
  else (piece? cs).map ([·])

/-- Pieces with colons between them, at the end of an address or before a gap. -/
def run? (isEnd : Bool) (cs : List Char) : Option (List Nat) :=
  if cs = [] then some []
  else
    let all := pieces (· = ':') cs
    match all.getLast? with
    | none => none
    | some last => do
      let before ← all.dropLast.mapM piece?
      let last ← if isEnd then tail? last else (piece? last).map ([·])
      some (before ++ last)

def parted : List Char → Option (List Char × List Char)
  | [] => none
  | ':' :: ':' :: cs => some ([], cs)
  | c :: cs => (parted cs).map fun (before, behind) => (c :: before, behind)

def ofChars? (cs : List Char) : Option (List Nat) :=
  match parted cs with
  | none => (run? true cs).bind fun all => if all.length = 8 then some all else none
  | some (before, behind) => do
    let before ← run? false before
    let behind ← run? true behind
    let given := before.length + behind.length
    if given < 8 then some (before ++ List.replicate (8 - given) 0 ++ behind) else none

def zerosFrom (all : List Nat) (place : Nat) : Nat := ((all.drop place).takeWhile (· = 0)).length

def gap (all : List Nat) : Nat :=
  (List.range all.length).foldl
    (fun best place => if zerosFrom all best < zerosFrom all place then place else best) 0

def pieceText (n : Nat) : String := String.ofList (Nat.toDigits 16 n)

/-- A single zero is written. -/
def text (all : List Nat) : String :=
  let start := gap all
  let length := zerosFrom all start
  if 1 < length then
    joined ":" ((all.take start).map pieceText) ++ "::" ++
      joined ":" ((all.drop (start + length)).map pieceText)
  else joined ":" (all.map pieceText)

end EightPieces

end Courier.Url
