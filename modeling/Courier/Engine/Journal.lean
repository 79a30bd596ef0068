import Courier.Delivery.Request

/-! The journal of a client: what its callers, its worker and its handlers did, in order. Some of the
facts are also logged. -/
namespace Courier

inductive Outcome where
  | success
  | failure (reason : String)
  deriving DecidableEq

inductive Verdict where
  | ok
  | error (reason : String)
  | panic
  deriving DecidableEq

/-- Who acts: the worker, also while it calls a handler, or someone else. -/
inductive Actor where
  | worker
  | caller
  deriving DecidableEq

inductive Level where
  | error
  | warn
  | info
  | debug
  | trace
  deriving DecidableEq

namespace Level

def name : Level → String
  | error => "ERROR"
  | warn => "WARN"
  | info => "INFO"
  | debug => "DEBUG"
  | trace => "TRACE"

def rank : Level → Nat
  | error => 1
  | warn => 2
  | info => 3
  | debug => 4
  | trace => 5

end Level

structure LogLine where
  level : Level
  topic : Option String
  message : String
  deriving DecidableEq

def LogLine.text (l : LogLine) : String :=
  l.level.name ++ " " ++ (match l.topic with
    | some topic => topic ++ ": "
    | none => "") ++ l.message

inductive Fact (η : Type) where
  | opened (url : String)
  | started
  | accepted (event : Event) (time : Nat)
  | flushAsked
  | scrubbed (actor : Actor) (events : List Event)
  | attempted (batch : List Event) (request : Request)
  | delivered (count : Nat)
  | willRetry (count : Nat) (error : AttemptError) (left : Nat)
  | gaveUp (count : Nat) (error : AttemptError)
  | settled (batch : List Event) (handler : Option η) (outcome : Outcome)
  | told (handler : η) (outcome : Outcome) (event : Event)
  | complained (reason : String)
  | panicked
  | drained
  | released (caller : Nat)
  | stopped

namespace Fact

def aboutInside (level : Level) (message : String) : LogLine := ⟨level, some "internal", message⟩

def aboutOutgoing (level : Level) (message : String) : LogLine := ⟨level, some "outgoing", message⟩

def logged? : Fact η → Option (Actor × LogLine)
  | opened url => some (.caller, aboutInside .debug ("Client started for " ++ url))
  | started => some (.worker, aboutInside .trace "Delivery worker started")
  | stopped => some (.worker, aboutInside .debug "Delivery worker stopped")
  | scrubbed actor events =>
    some (actor, aboutInside .debug ("Scrubbed " ++ toString events.length ++ " queued events"))
  | attempted batch request =>
    some (.worker, aboutOutgoing .trace ("Sending " ++ toString batch.length ++ " events (" ++
      toString request.body.utf8ByteSize ++ " bytes) to " ++ request.url))
  | delivered count =>
    some (.worker, aboutOutgoing .debug ("Delivered batch of " ++ toString count ++ " events"))
  | willRetry count error left =>
    some (.worker, aboutOutgoing .warn ("Batch of " ++ toString count ++ " events failed (" ++
      error.message ++ "), " ++ toString left ++ " retries left"))
  | gaveUp count error =>
    some (.worker, aboutOutgoing .error ("Giving up on batch of " ++ toString count ++ " events: " ++
      error.message))
  | complained reason =>
    some (.worker, aboutInside .warn ("Event handler returned an error: " ++ reason))
  | panicked => some (.worker, aboutInside .warn "Event handler panicked, continuing")
  | accepted _ _ => none
  | flushAsked => none
  | settled _ _ _ => none
  | told _ _ _ => none
  | drained => none
  | released _ => none

def loggedBy (actor : Actor) (journal : List (Fact η)) : List LogLine :=
  journal.filterMap fun f => match f.logged? with
    | some (a, line) => if a = actor then some line else none
    | none => none

end Fact

/-- A handler's failures are noted and otherwise ignored. -/
def Verdict.facts : Verdict → List (Fact η)
  | ok => []
  | error reason => [.complained reason]
  | panic => [.panicked]

def dispatch (handler : Option η) (outcome : Outcome) (verdict : Event → Verdict)
    (batch : List Event) : List (Fact η) :=
  match handler with
  | some h => batch.flatMap fun e => .told h outcome e :: (verdict e).facts
  | none => []

end Courier
