import Courier.Delivery.Backlog
import Courier.Engine.Journal

/-! A client at work, as steps between its callers and its worker. A step is a stretch that holds the
lock from its beginning to its end, or one that needs no lock; the worker keeps the lock from one of
its phases to the next, and gives it up only to rest, to call the transport, and to report. -/
namespace Courier

structure Plan where
  envelope : Envelope
  policy : RetryPolicy
  flushCount : Nat
  flushSize : Nat
  flushInterval : Nat
  target : Target

def Plan.ofSettings (s : Settings) (env : Envelope) : Plan where
  envelope := env
  policy := RetryPolicy.ofSettings s
  flushCount := s.flushCount.toNat
  flushSize := s.flushSize.toNat
  flushInterval := s.flushIntervalMs.toNat
  target := Target.ofSettings s env

inductive Phase where
  | idle
  | assembling
  | deciding
  | sending
  deriving DecidableEq

/-- Where the worker stands. It holds the lock only in `holding`. A resting or waiting worker has
been notified or not; it may wake up in either case. -/
inductive Worker (η : Type) where
  | starting
  | holding (phase : Phase)
  | resting (isNotified : Bool)
  | waiting (deadline : Option Nat) (isNotified : Bool)
  | calling (request : Request)
  | reporting (handler : Option η) (outcome : Outcome) (rest : List Event)
  | inHandler (handler : η) (outcome : Outcome) (event : Event) (rest : List Event)
  | terminated

namespace Worker

def holdsLock : Worker η → Bool
  | holding _ => true
  | _ => false

def notify : Worker η → Worker η
  | resting _ => resting true
  | waiting deadline _ => waiting deadline true
  | w => w

end Worker

structure Caller where
  id : Nat
  isNotified : Bool
  deriving DecidableEq

/-- A reading of the clock: milliseconds from an arbitrary origin, and the time as text. -/
structure Clock where
  now : Nat
  stamp : String

structure World (η : Type) where
  backlog : Backlog η
  worker : Worker η
  callers : List Caller
  journal : List (Fact η)

namespace World

def new (handler : Option η) : World η := ⟨Backlog.new handler, .starting, [], []⟩

def note (facts : List (Fact η)) (w : World η) : World η :=
  { w with journal := w.journal ++ facts }

def notifyWorker (w : World η) : World η := { w with worker := w.worker.notify }

def notifyCallers (w : World η) : World η :=
  { w with callers := w.callers.map fun c => { c with isNotified := true } }

def onBacklog (f : Backlog η → Backlog η) (w : World η) : World η :=
  { w with backlog := f w.backlog }

def goto (position : Worker η) (w : World η) : World η := { w with worker := position }

/-! ### Callers -/

/-- An event is stamped when it is accepted, so that its size is already the size it is sent with. -/
def enqueue (plan : Plan) (clock : Clock) (e : Event) (w : World η) : World η :=
  let e := e.stamp clock.stamp
  ((w.onBacklog (·.enqueue e (clock.now + plan.flushInterval))).notifyWorker).note
    [.accepted e clock.now]

def flush (w : World η) : World η := ((w.onBacklog (·.askFlush)).notifyWorker).note [.flushAsked]

def scrub (actor : Actor) (w : World η) : World η :=
  ((w.onBacklog (·.clearQueue)).notifyCallers.notifyWorker).note [.scrubbed actor w.backlog.queue]

def setHandler (handler : Option η) (w : World η) : World η := w.onBacklog (·.setHandler handler)

def park (id : Nat) (w : World η) : World η := { w with callers := w.callers ++ [⟨id, false⟩] }

def unpark (id : Nat) (w : World η) : World η :=
  { w with callers := w.callers.filter fun c => c.id != id }

/-- A waiting caller looks: it leaves if nothing is left, and asks for a flush and waits otherwise. -/
def look (id : Nat) (w : World η) : World η :=
  if w.backlog.isDrained then (w.onBacklog (·.removeWaiter)).note [.released id]
  else ((w.onBacklog (·.askFlush)).notifyWorker).park id

def enterWait (id : Nat) (w : World η) : World η := (w.onBacklog (·.addWaiter)).look id

def recheck (id : Nat) (w : World η) : World η := (w.unpark id).look id

def close (w : World η) : World η := (w.onBacklog (·.close)).notifyWorker

/-! ### The worker -/

/-- Nothing is left, unless the worker was wrong to come here. -/
def idle (w : World η) : World η :=
  if w.backlog.isDrained then
    let w := ((w.onBacklog (·.forget)).notifyCallers).note [.drained]
    if w.backlog.closing then (w.goto .terminated).note [.stopped] else w.goto (.resting false)
  else w.goto (.holding .assembling)

/-- A batch that waits to be retried is left as it is. -/
def assemble (plan : Plan) (w : World η) : World η :=
  if w.backlog.isDrained then w.goto (.holding .idle)
  else if w.backlog.schedule.retry.isSome then w.goto (.holding .deciding)
  else
    (w.onBacklog (·.assemble plan.envelope plan.flushCount plan.flushSize)).goto
      (.holding .deciding)

def decide (now : Nat) (w : World η) : World η :=
  if w.backlog.isUrgent || w.backlog.schedule.isDue now then
    (w.onBacklog (·.beginAttempt)).goto (.holding .sending)
  else w.goto (.waiting w.backlog.schedule.next false)

def beginSending (plan : Plan) (stamp : String) (w : World η) : World η :=
  if w.backlog.batch.isEmpty then w.goto (.holding .assembling)
  else
    let w := w.onBacklog (·.stampBatch stamp)
    let request := plan.target.request (plan.envelope.encode w.backlog.batch)
    (w.goto (.calling request)).note [.attempted w.backlog.batch request]

/-- Takes the batch out, to be reported to the handler there is at this moment. -/
def settle (outcome : Outcome) (w : World η) : World η :=
  ((w.onBacklog (·.beginSettling)).goto (.reporting w.backlog.handler outcome w.backlog.batch)).note
    [.settled w.backlog.batch w.backlog.handler outcome]

/-- The failures of a batch that is given up on are kept, so that later batches get one attempt until
one succeeds or nothing is left. -/
def endSending (plan : Plan) (now : Nat) (answer : Answer) (w : World η) : World η :=
  let count := w.backlog.batch.length
  match answer.result with
  | .ok _ => ((w.onBacklog (·.succeed)).note [.delivered count]).settle .success
  | .error e =>
    if e.isRetryable && plan.policy.shouldRetry w.backlog.failures then
      let w := w.onBacklog (·.failUntil (plan.policy.nextRetry now))
      (w.note [.willRetry count e (plan.policy.remaining w.backlog.failures)]).goto
        (.holding .assembling)
    else (w.note [.gaveUp count e]).settle (.failure e.message)

def endSettling (w : World η) : World η :=
  (w.onBacklog (·.endSettling)).goto (.holding .assembling)

def proceed (plan : Plan) (clock : Clock) (w : World η) : Option (World η) :=
  match w.worker with
  | .starting => some ((w.note [.started]).goto (.holding .assembling))
  | .resting _ => some (w.goto (.holding .assembling))
  | .waiting _ _ => some (w.goto (.holding .assembling))
  | .holding .idle => some w.idle
  | .holding .assembling => some (w.assemble plan)
  | .holding .deciding => some (w.decide clock.now)
  | .holding .sending => some (w.beginSending plan clock.stamp)
  | .reporting (some h) outcome (e :: rest) =>
    some ((w.note [.told h outcome e]).goto (.inHandler h outcome e rest))
  | .reporting _ _ _ => some w.endSettling
  | .calling _ => none
  | .inHandler _ _ _ _ => none
  | .terminated => none

end World

/-- Everything that can happen next, with all that is not determined by the world: the events, the
clock, the answers of the transport and the verdicts of handlers. -/
inductive Action (η : Type) where
  | enqueue (e : Event) (clock : Clock)
  | flush
  | scrub (actor : Actor)
  | setHandler (handler : Option η)
  | enterWait (caller : Nat)
  | recheck (caller : Nat)
  | close
  | proceed (clock : Clock)
  | answer (a : Answer) (now : Nat)
  | verdict (v : Verdict)

namespace World

def locked (f : World η → World η) (w : World η) : Option (World η) :=
  if w.worker.holdsLock then none else some (f w)

def step (plan : Plan) (w : World η) : Action η → Option (World η)
  | .enqueue e clock => w.locked (·.enqueue plan clock e)
  | .flush => w.locked flush
  | .scrub actor => w.locked (·.scrub actor)
  | .setHandler handler => w.locked (·.setHandler handler)
  | .enterWait id =>
    if w.callers.any (fun c => c.id = id) then none else w.locked (·.enterWait id)
  | .recheck id =>
    if w.callers.any (fun c => c.id = id) then w.locked (·.recheck id) else none
  | .close => w.locked close
  | .proceed clock => w.proceed plan clock
  | .answer a now =>
    match w.worker with
    | .calling _ => some (w.endSending plan now a)
    | _ => none
  | .verdict v =>
    match w.worker with
    | .inHandler h outcome _ rest => some ((w.note v.facts).goto (.reporting (some h) outcome rest))
    | _ => none

def run (plan : Plan) (w : World η) : List (Action η) → Option (World η)
  | [] => some w
  | a :: as => (w.step plan a).bind fun w => run plan w as

end World

/-- A client is opened only with settings that can be satisfied. -/
def World.opened (settings : Settings) (env : Envelope) (handler : Option η) :
    Except ClientError (Plan × World η) :=
  match settings.check with
  | .ok _ =>
    .ok (Plan.ofSettings settings env, (World.new handler).note [.opened settings.batchUrl])
  | .error e => .error (.settings e)

end Courier
