import Courier.Json.Reader
import Courier.Settings.Basic

/-! Settings from JSON text: an object of any of the fields, or a list of values in the order of
`Field.all`. Unknown members are skipped, missing values have their defaults, and a field that is
given twice is refused. -/
namespace Courier.Settings

open Json

def Partial.step (p : Partial) (key : String) (cs : List Char) :
    Except Fault (Partial × List Char) :=
  match Field.ofName? key with
  | some f =>
    if (p f).isSome then .error (.mismatch (.duplicateField key))
    else do
      let (a, cs) ← readAs f.accept (← expectColon cs)
      .ok (p.set f a, cs)
  | none => do
    let cs ← skipValue (← expectColon cs)
    .ok (p, cs)

/-- The values behind the bracket of a list, one for each of the fields; `isFirst` says that no comma
is due. -/
def readSequence : List Field → Bool → Partial → List Char → Except Fault (Partial × List Char)
  | [], _, p, cs =>
    match skipBlank cs with
    | [] => .error .truncated
    | ']' :: rest => .ok (p, rest)
    | _ => .error .malformed
  | f :: fs, isFirst, p, cs =>
    match skipBlank cs with
    | [] => .error .truncated
    | ']' :: rest => .ok (p, rest)
    | c :: rest =>
      if isFirst then do
        let (a, rest) ← readAs f.accept (c :: rest)
        readSequence fs false (p.set f a) rest
      else if c = ',' then do
        let (a, rest) ← readAs f.accept rest
        readSequence fs false (p.set f a) rest
      else .error .malformed

def ofChars (cs : List Char) : Except Fault Settings := do
  match skipBlank cs with
  | '{' :: rest =>
    let (p, rest) ← foldMembers strict Partial.step Partial.empty rest
    expectEnd rest
    .ok p.fill
  | '[' :: rest =>
    let (p, rest) ← readSequence Field.all true Partial.empty rest
    expectEnd rest
    .ok p.fill
  | _ =>
    let (found, _) ← readFound cs
    .error (.mismatch (.wrongType found "struct Config"))

def ofJsonText (text : String) : Except Fault Settings := ofChars text.toList

end Courier.Settings
