import Courier.Delivery.Http
import Courier.Engine.Drive
import Courier.Rehearsal.Collector

/-! What surrounds a client in a rehearsal: the collector, or HTTP without a network in its place, and
handlers that follow a part written for the event they are told of. -/
namespace Courier.Rehearsal

inductive Call (η : Type) where
  | enqueue (events : List Event)
  | flush
  | scrub
  | setHandler (handler : Option η)
  | pending
  | settings

inductive Result where
  | done
  | ready
  | late
  | count (n : Nat)
  | text (s : String)
  | request (r : Request)

namespace Call

def actions (actor : Actor) (clock : Clock) : Call η → List (Action η)
  | enqueue events => events.map (.enqueue · clock)
  | flush => [.flush]
  | scrub => [.scrub actor]
  | setHandler handler => [.setHandler handler]
  | pending => []
  | settings => []

def result (s : Settings) (w : World η) : Call η → Result
  | pending => .count w.backlog.pending
  | settings => .text s.text
  | enqueue _ => .done
  | flush => .done
  | scrub => .done
  | setHandler _ => .done

end Call

structure Part (η : Type) where
  calls : List (String × Call η)
  verdict : Verdict

inductive Heard (η : Type) where
  | told (handler : η) (outcome : Outcome) (event : Event)
  | did (handler : η) (name : String) (result : Result)

/-- A part that is being played: the actions of its present call that are still to come, and the rest
of the part. -/
structure Playing (η : Type) where
  actions : List (Action η)
  rest : Part η

structure Stage (η : Type) where
  collector : Option Collector
  playing : Option (Playing η)
  heard : List (Heard η)
  /-- How many calls of handlers have come to their end. -/
  outcomes : Nat

namespace Stage

def note (h : Heard η) (s : Stage η) : Stage η := { s with heard := s.heard ++ [h] }

def onGate (f : Gate → Gate) (s : Stage η) : Stage η :=
  { s with collector := s.collector.map (·.onGate f) }

def answer? (request : Request) (s : Stage η) : Option (Answer × Stage η) :=
  match s.collector with
  | some c => (c.answer? request).map fun (answer, c) => (answer, { s with collector := some c })
  | none => some (.ofResult (Http.deliver Http.unreachable request), s)

/-- The next action of a handler; what a call comes to is noted when the call begins. -/
def play (settings : Settings) (clock : Clock) (w : World η) (handler : η) (verdict : Verdict) :
    List (Action η) → List (String × Call η) → Stage η → Action η × Stage η
  | a :: actions, calls, s => (a, { s with playing := some ⟨actions, calls, verdict⟩ })
  | [], [], s => (.verdict verdict, { s with playing := none, outcomes := s.outcomes + 1 })
  | [], (name, call) :: calls, s =>
    play settings clock w handler verdict (call.actions .worker clock) calls
      (s.note (.did handler name (call.result settings w)))

def hear (settings : Settings) (parts : Event → Part η) (clock : Clock) (w : World η)
    (handler : η) (outcome : Outcome) (e : Event) (s : Stage η) : Action η × Stage η :=
  match s.playing with
  | some p => play settings clock w handler p.rest.verdict p.actions p.rest.calls s
  | none =>
    let part := parts e
    play settings clock w handler part.verdict [] part.calls (s.note (.told handler outcome e))

def host (settings : Settings) (parts : Event → Part η) (clock : Clock) : Host η (Stage η) where
  answer? := answer?
  hear := hear settings parts clock

end Stage

end Courier.Rehearsal
