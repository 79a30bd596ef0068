import Courier.Text.Cutting

/-! The path of a URL: segments, each behind a slash. A segment of two dots takes back the one before
it. A segment that is a letter with a colon or a bar names a drive and is never taken back; at the start of
a path of a file it is written with a colon, and makes the host void. -/
namespace Courier.Url

open Courier.Text

def isLetter (c : Char) : Bool := ('a' ≤ c && c ≤ 'z') || ('A' ≤ c && c ≤ 'Z')

def isDrive : List Char → Bool
  | [letter, mark] => isLetter letter && (mark = ':' || mark = '|')
  | _ => false

/-- Dots of a segment may be written as escapes. -/
def withDots : List Char → List Char
  | '%' :: '2' :: 'e' :: cs => '.' :: withDots cs
  | '%' :: '2' :: 'E' :: cs => '.' :: withDots cs
  | c :: cs => c :: withDots cs
  | [] => []

def isHere (segment : List Char) : Bool := withDots segment = ['.']

def isBack (segment : List Char) : Bool := withDots segment = ['.', '.']

namespace Path

/-- The segments so far, the last one first, and whether a drive made the host void. -/
structure Walk where
  before : List (List Char)
  isHostVoid : Bool

def back : List (List Char) → List (List Char)
  | [] => []
  | segment :: rest => if isDrive segment then segment :: rest else rest

def splitDrive? : List Char → Option (List Char × List Char)
  | letter :: ':' :: c :: cs => if isLetter letter then some ([letter, ':'], c :: cs) else none
  | _ => none

def Walk.add (isFile : Bool) (w : Walk) (segment : List Char) : Walk :=
  if isFile ∧ w.before = [] then
    if isDrive segment then ⟨[segment.take 1 ++ [':']], true⟩
    else match splitDrive? segment with
      | some (drive, rest) => ⟨[rest, drive], w.isHostVoid⟩
      | none => { w with before := [segment] }
  else { w with before := segment :: w.before }

/-- A path that ends with a dot or two ends with a slash. -/
def Walk.pass (isFile : Bool) (w : Walk) : List (List Char) → Walk
  | [] => w
  | [last] =>
    if isBack last then { w with before := [] :: back w.before }
    else if isHere last then { w with before := [] :: w.before }
    else w.add isFile last
  | segment :: rest =>
    if isBack segment then Walk.pass isFile { w with before := back w.before } rest
    else if isHere segment then Walk.pass isFile w rest
    else Walk.pass isFile (w.add isFile segment) rest

/-- A file's path has no empty segments at its start. -/
def trimmed : List (List Char) → List (List Char)
  | [] :: segment :: rest => trimmed (segment :: rest)
  | all => all

def resolve (isFile : Bool) (segments : List (List Char)) : List (List Char) × Bool :=
  let w := Walk.pass isFile ⟨[], false⟩ segments
  (if isFile then trimmed w.before.reverse else w.before.reverse, w.isHostVoid)

end Path

end Courier.Url
