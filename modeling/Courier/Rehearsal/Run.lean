import Courier.Rehearsal.Stage

/-! A rehearsal: a client goes through a list of cues, each of which is followed through for as long
as anything can happen. Time stands still but for cues that wait, which let it jump to the worker's
next deadline. -/
namespace Courier

structure Rehearsal (η : Type) where
  settings : Settings
  plan : Plan
  parts : Event → Rehearsal.Part η
  clock : Clock
  world : World η
  stage : Rehearsal.Stage η
  /-- Callers that were sent off to wait. -/
  spawned : Nat

namespace Rehearsal

inductive Cue (η : Type) where
  | call (c : Call η)
  | hold
  | release
  | permit
  | flushWait
  | spawnFlushWait
  | join
  | awaitAttempt (n : Nat)
  | awaitOutcomes (n : Nat)
  | awaitPending (n : Nat)

def opened (settings : Settings) (env : Envelope) (handler : Option η) (parts : Event → Part η)
    (stamp : String) (collector : Option Collector) : Except ClientError (Rehearsal η) := do
  let (plan, world) ← World.opened settings env handler
  .ok ⟨settings, plan, parts, ⟨0, stamp⟩, world, ⟨collector, none, [], 0⟩, 0⟩

def stepLimit : Nat := 1000000000

def settle (r : Rehearsal η) : Rehearsal η :=
  let (world, stage) :=
    r.world.drive (Stage.host r.settings r.parts r.clock) r.plan r.clock stepLimit r.stage
  { r with world := world, stage := stage }

def act (r : Rehearsal η) (a : Action η) : Rehearsal η :=
  { r with world := (r.world.step r.plan a).getD r.world }

def onGate (f : Gate → Gate) (r : Rehearsal η) : Rehearsal η :=
  { r with stage := r.stage.onGate f }.settle

def deadline? (r : Rehearsal η) : Option Nat :=
  match r.world.worker with
  | .waiting deadline _ => deadline
  | _ => none

def awaitResult (look : Rehearsal η → Option Result) (patience : Nat) (r : Rehearsal η) :
    Result × Rehearsal η :=
  match look r with
  | some result => (result, r)
  | none =>
    match r.deadline? with
    | some t =>
      if r.clock.now < t ∧ t - r.clock.now ≤ patience then
        awaitResult look (patience - (t - r.clock.now))
          { r with clock := { r.clock with now := t } }.settle
      else (.late, r)
    | none => (.late, r)
termination_by patience

def patience : Nat := 5000

def attempts (r : Rehearsal η) : List Request :=
  r.world.journal.filterMap fun
    | .attempted _ request => some request
    | _ => none

def lookFor (reached : Bool) : Option Result := if reached then some .ready else none

def perform (r : Rehearsal η) : Cue η → Result × Rehearsal η
  | .call c =>
    (c.result r.settings r.world, ((c.actions .caller r.clock).foldl act r).settle)
  | .hold => (.done, r.onGate Gate.hold)
  | .release => (.done, r.onGate Gate.release)
  | .permit => (.done, r.onGate Gate.permit)
  | .flushWait =>
    let r := (r.act (.enterWait 0)).settle
    (.count r.stage.heard.length, r)
  | .spawnFlushWait =>
    (.done, { r.act (.enterWait (r.spawned + 1)) with spawned := r.spawned + 1 }.settle)
  | .join =>
    let r := r.settle
    (.count r.world.backlog.pending, r)
  | .awaitAttempt n => r.awaitResult (fun r => r.attempts[n - 1]?.map .request) patience
  | .awaitOutcomes n => r.awaitResult (fun r => lookFor (n ≤ r.stage.outcomes)) patience
  | .awaitPending n => r.awaitResult (fun r => lookFor (r.world.backlog.pending == n)) patience

def performAll (r : Rehearsal η) : List (Cue η) → List Result × Rehearsal η
  | [] => ([], r)
  | cue :: cues =>
    let (result, r) := r.perform cue
    let (results, r) := r.performAll cues
    (result :: results, r)

def finish (r : Rehearsal η) : Rehearsal η :=
  let r := ((r.onGate Gate.release).act (.enterWait 0)).settle
  (r.act .close).settle

def run (cues : List (Cue η)) (r : Rehearsal η) : List Result × Rehearsal η :=
  let (results, r) := r.settle.performAll cues
  (results, r.finish)

end Rehearsal

end Courier
