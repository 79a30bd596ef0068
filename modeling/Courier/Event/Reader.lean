import Courier.Event.Basic

/-! Two ways to read an event: from a value, where of equal keys the last one has already won and the
keys are met in ascending order, and straight from a text, where the first problem met is reported
and a second `type`, `timestamp` or `sentAt` is one. -/
namespace Courier.Event

/-- The fields of an event are what is left when the three known members are taken out. -/
def otherMembers (o : Object) : Object := ((o.erase "type").erase "timestamp").erase "sentAt"

def textOf : Found → Except Mismatch String
  | .text s => .ok s
  | found => .error (.wrongType found "a string")

def optionalTextOf : Found → Except Mismatch (Option String)
  | .null => .ok none
  | found => (textOf found).map some

def ofObject (now : String) (o : Object) : Except Mismatch Event := do
  let sentAt ← match o.get? "sentAt" with
    | some v => optionalTextOf v.found
    | none => .ok none
  let timestamp ← match o.get? "timestamp" with
    | some v => textOf v.found
    | none => .ok now
  let kind ← match o.get? "type" with
    | some v => textOf v.found
    | none => .error (.missingField "type")
  .ok ⟨kind, timestamp, sentAt, otherMembers o⟩

/-- An event without a timestamp happened now. -/
def ofValue (now : String) (v : Value) : Except Mismatch Event :=
  match v.toObject? with
  | some o => ofObject now o
  | none => .error (.wrongType v.found "struct Event")

structure Sofar where
  kind : Option String
  timestamp : Option String
  sentAt : Option (Option String)
  fields : Object

namespace Sofar

def empty : Sofar := ⟨none, none, none, Object.empty⟩

open Json in
/-- A repeated known key is refused before its value is looked at. -/
def step (s : Sofar) (key : String) (cs : List Char) : Except Fault (Sofar × List Char) :=
  if key = "type" then
    if s.kind.isSome then .error (.mismatch (.duplicateField key))
    else do
      let (kind, cs) ← readAs textOf (← expectColon cs)
      .ok ({ s with kind := some kind }, cs)
  else if key = "timestamp" then
    if s.timestamp.isSome then .error (.mismatch (.duplicateField key))
    else do
      let (timestamp, cs) ← readAs textOf (← expectColon cs)
      .ok ({ s with timestamp := some timestamp }, cs)
  else if key = "sentAt" then
    if s.sentAt.isSome then .error (.mismatch (.duplicateField key))
    else do
      let (sentAt, cs) ← readAs optionalTextOf (← expectColon cs)
      .ok ({ s with sentAt := some sentAt }, cs)
  else do
    let (v, cs) ← readValue strict (depthLimit - 1) (← expectColon cs)
    .ok ({ s with fields := s.fields.insert key v }, cs)

def finish (now : String) (s : Sofar) : Except Mismatch Event :=
  match s.kind with
  | some kind => .ok ⟨kind, s.timestamp.getD now, s.sentAt.getD none, s.fields⟩
  | none => .error (.missingField "type")

end Sofar

open Json in
def ofChars (now : String) (cs : List Char) : Except Fault Event := do
  match skipBlank cs with
  | '{' :: rest =>
    let (s, rest) ← foldMembers strict Sofar.step Sofar.empty rest
    match s.finish now with
    | .ok e =>
      expectEnd rest
      .ok e
    | .error m => .error (.mismatch m)
  | _ =>
    let (found, _) ← readFound cs
    .error (.mismatch (.wrongType found "struct Event"))

def ofText (now text : String) : Except Json.Fault Event := ofChars now text.toList

end Courier.Event
