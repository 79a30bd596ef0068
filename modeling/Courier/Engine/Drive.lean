import Courier.Engine.World

/-! One schedule among all that a client may follow: the worker goes on for as long as it can, and
callers that were notified look when it cannot. What a world leaves open is filled in by a host. -/
namespace Courier

structure Host (η σ : Type) where
  /-- Answers a request, or keeps it waiting. -/
  answer? : Request → σ → Option (Answer × σ)
  /-- What a handler that is being told of an event does next: it calls the client, or it ends with a
  verdict. -/
  hear : World η → η → Outcome → Event → σ → Action η × σ

namespace World

def wokenCaller? (w : World η) : Option Nat := (w.callers.find? (·.isNotified)).map (·.id)

/-- The worker goes on by itself, though not from a rest that nothing has ended. -/
def canProceed (now : Nat) (w : World η) : Bool :=
  match w.worker with
  | .starting => true
  | .holding _ => true
  | .reporting _ _ _ => true
  | .resting isNotified => isNotified
  | .waiting deadline isNotified => isNotified || deadline.any (· ≤ now)
  | .calling _ => false
  | .inHandler _ _ _ _ => false
  | .terminated => false

def next? (host : Host η σ) (clock : Clock) (w : World η) (s : σ) : Option (Action η × σ) :=
  if w.canProceed clock.now then some (.proceed clock, s)
  else
    let woken := w.wokenCaller?.map fun id => (.recheck id, s)
    match w.worker with
    | .calling request =>
      match host.answer? request s with
      | some (answer, s) => some (.answer answer clock.now, s)
      | none => woken
    | .inHandler h outcome e _ => some (host.hear w h outcome e s)
    | _ => woken

/-- Takes steps until none is left to take, or `fuel` of them. -/
def drive (host : Host η σ) (plan : Plan) (clock : Clock) : Nat → World η → σ → World η × σ
  | 0, w, s => (w, s)
  | fuel + 1, w, s =>
    match w.next? host clock s with
    | none => (w, s)
    | some (action, s) =>
      match w.step plan action with
      | some w => drive host plan clock fuel w s
      | none => (w, s)

end World

end Courier
