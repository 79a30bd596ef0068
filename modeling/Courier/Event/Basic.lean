import Courier.Json.Reader

/-! Events. An event has a kind, the time it happened, the time it was last handed to the collector,
and any other fields; as JSON it is one object with the first three in front. -/
namespace Courier

structure Event where
  kind : String
  timestamp : String
  sentAt : Option String
  fields : Object
  deriving BEq, Inhabited

inductive Standard where
  | track
  | identify
  | page
  | screen
  | aliased
  | group
  deriving DecidableEq

namespace Standard

def all : List Standard := [track, identify, page, screen, aliased, group]

def name : Standard → String
  | track => "track"
  | identify => "identify"
  | page => "page"
  | screen => "screen"
  | aliased => "alias"
  | group => "group"

def title : Standard → String
  | track => "Track"
  | identify => "Identify"
  | page => "Page"
  | screen => "Screen"
  | aliased => "Alias"
  | group => "Group"

end Standard

namespace Event

def new (kind now : String) : Event := ⟨kind, now, none, Object.empty⟩

def get? (key : String) (e : Event) : Option Value := e.fields.get? key

def stamp (time : String) (e : Event) : Event := { e with sentAt := some time }

/-- What an event is but for when it was sent. -/
def content (e : Event) : Event := { e with sentAt := none }

/-- A field may have the name of one of the first three; then both are written. -/
def members (e : Event) : List (String × Json) :=
  ("type", .str e.kind) :: ("timestamp", .str e.timestamp) ::
    ((e.sentAt.map fun t => ("sentAt", Json.str t)).toList ++ e.fields.members)

def toJson (e : Event) : Json := .object e.members

def text (e : Event) : String := e.toJson.render

@[simp] theorem content_stamp (time : String) (e : Event) : (e.stamp time).content = e.content := rfl

end Event

/-! ### Times

The Gregorian date and the time of day in UTC, down to the millisecond. -/

namespace Time

def padded (width n : Nat) : String :=
  let digits := Nat.toDigits 10 n
  String.ofList (List.replicate (width - digits.length) '0' ++ digits)

/-- The date of a day counted from the first of January 1970. Years are taken to begin in March, so
that a leap day is the last day of its year and months repeat every five. -/
def dateOf (day : Nat) : Nat × Nat × Nat :=
  let shifted := day + 719468
  let era := shifted / 146097
  let dayOfEra := shifted % 146097
  let year := (dayOfEra - dayOfEra / 1460 + dayOfEra / 36524 - dayOfEra / 146096) / 365
  let dayOfYear := dayOfEra - (365 * year + year / 4 - year / 100)
  let month := (5 * dayOfYear + 2) / 153
  let dayOfMonth := dayOfYear - (153 * month + 2) / 5 + 1
  if month < 10 then (400 * era + year, month + 3, dayOfMonth)
  else (400 * era + year + 1, month - 9, dayOfMonth)

def text (millis : Nat) : String :=
  let seconds := millis / 1000
  let date := dateOf (seconds / 86400)
  padded 4 date.1 ++ "-" ++ padded 2 date.2.1 ++ "-" ++ padded 2 date.2.2 ++ "T" ++
    padded 2 (seconds / 3600 % 24) ++ ":" ++ padded 2 (seconds / 60 % 60) ++ ":" ++
    padded 2 (seconds % 60) ++ "." ++ padded 3 (millis % 1000) ++ "Z"

example : text 0 = "1970-01-01T00:00:00.000Z" := by decide +kernel

example : text 1709210096789 = "2024-02-29T12:34:56.789Z" := by decide +kernel

end Time

end Courier
