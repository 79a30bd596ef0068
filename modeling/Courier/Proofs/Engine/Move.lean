import Courier.Engine.World

/-! What one step of a client can do, as two tables: the calls of its callers and the turns of its
worker. Each row names the action, what holds before it, and the whole world after it, so that an
invariant is checked row by row and no step function is opened again. -/
namespace Courier

/-- An attempt that fails never fails for good: only the count of failures ends its retries. -/
theorem Answer.isRetryable_of_error {a : Answer} {e : AttemptError} (h : a.result = .error e) :
    e.isRetryable = true := by
  cases a with
  | response r =>
    simp only [Answer.result] at h
    split at h
    · cases h
    · cases h; rfl
  | failed t => cases h; rfl
  | panicked => cases h; rfl

theorem Answer.result_eq_ok_iff {a : Answer} :
    a.result = .ok () ↔ ∃ r, a = .response r ∧ 200 ≤ r.status ∧ r.status < 300 := by
  cases a with
  | response r => simp [Answer.result, Response.isSuccess]
  | failed t => simp [Answer.result]
  | panicked => simp [Answer.result]

namespace World

variable {η : Type}

/-- What callers do, handlers among them. None of it is done while the worker holds the lock. -/
inductive Call (plan : Plan) (w : World η) : Action η → World η → Prop where
  | enqueue (e : Event) (clock : Clock) (free : w.worker.holdsLock = false) :
      Call plan w (.enqueue e clock)
        ⟨w.backlog.enqueue (e.stamp clock.stamp) (clock.now + plan.flushInterval),
          w.worker.notify, w.callers, w.journal ++ [.accepted (e.stamp clock.stamp) clock.now]⟩
  | flush (free : w.worker.holdsLock = false) :
      Call plan w .flush
        ⟨w.backlog.askFlush, w.worker.notify, w.callers, w.journal ++ [.flushAsked]⟩
  | scrub (actor : Actor) (free : w.worker.holdsLock = false) :
      Call plan w (.scrub actor)
        ⟨w.backlog.clearQueue, w.worker.notify,
          w.callers.map fun c => { c with isNotified := true },
          w.journal ++ [.scrubbed actor w.backlog.queue]⟩
  | setHandler (handler : Option η) (free : w.worker.holdsLock = false) :
      Call plan w (.setHandler handler)
        ⟨w.backlog.setHandler handler, w.worker, w.callers, w.journal⟩
  | passWait (id : Nat) (free : w.worker.holdsLock = false)
      (isNew : w.callers.any (fun c => c.id = id) = false) (drained : w.backlog.isDrained = true) :
      Call plan w (.enterWait id)
        ⟨w.backlog.addWaiter.removeWaiter, w.worker, w.callers, w.journal ++ [.released id]⟩
  | enterWait (id : Nat) (free : w.worker.holdsLock = false)
      (isNew : w.callers.any (fun c => c.id = id) = false) (undrained : w.backlog.isDrained = false) :
      Call plan w (.enterWait id)
        ⟨w.backlog.addWaiter.askFlush, w.worker.notify, w.callers ++ [⟨id, false⟩], w.journal⟩
  | leaveWait (id : Nat) (free : w.worker.holdsLock = false)
      (isParked : w.callers.any (fun c => c.id = id) = true) (drained : w.backlog.isDrained = true) :
      Call plan w (.recheck id)
        ⟨w.backlog.removeWaiter, w.worker, w.callers.filter fun c => c.id != id,
          w.journal ++ [.released id]⟩
  | stayWait (id : Nat) (free : w.worker.holdsLock = false)
      (isParked : w.callers.any (fun c => c.id = id) = true)
      (undrained : w.backlog.isDrained = false) :
      Call plan w (.recheck id)
        ⟨w.backlog.askFlush, w.worker.notify,
          (w.callers.filter fun c => c.id != id) ++ [⟨id, false⟩], w.journal⟩
  | close (free : w.worker.holdsLock = false) :
      Call plan w .close ⟨w.backlog.close, w.worker.notify, w.callers, w.journal⟩

/-- What the worker does, and what the transport and the handler that it calls do. -/
inductive Turn (plan : Plan) (w : World η) : Action η → World η → Prop where
  | start (clock : Clock) (at_ : w.worker = .starting) :
      Turn plan w (.proceed clock)
        ⟨w.backlog, .holding .assembling, w.callers, w.journal ++ [.started]⟩
  | rouse (clock : Clock) {n : Bool} (at_ : w.worker = .resting n) :
      Turn plan w (.proceed clock) ⟨w.backlog, .holding .assembling, w.callers, w.journal⟩
  | wake (clock : Clock) {deadline : Option Nat} {n : Bool} (at_ : w.worker = .waiting deadline n) :
      Turn plan w (.proceed clock) ⟨w.backlog, .holding .assembling, w.callers, w.journal⟩
  | rest (clock : Clock) (at_ : w.worker = .holding .idle) (drained : w.backlog.isDrained = true)
      (isOpen : w.backlog.closing = false) :
      Turn plan w (.proceed clock)
        ⟨w.backlog.forget, .resting false, w.callers.map fun c => { c with isNotified := true },
          w.journal ++ [.drained]⟩
  | stop (clock : Clock) (at_ : w.worker = .holding .idle) (drained : w.backlog.isDrained = true)
      (closing : w.backlog.closing = true) :
      Turn plan w (.proceed clock)
        ⟨w.backlog.forget, .terminated, w.callers.map fun c => { c with isNotified := true },
          w.journal ++ [.drained] ++ [.stopped]⟩
  | resume (clock : Clock) (at_ : w.worker = .holding .idle)
      (undrained : w.backlog.isDrained = false) :
      Turn plan w (.proceed clock) ⟨w.backlog, .holding .assembling, w.callers, w.journal⟩
  | drain (clock : Clock) (at_ : w.worker = .holding .assembling)
      (drained : w.backlog.isDrained = true) :
      Turn plan w (.proceed clock) ⟨w.backlog, .holding .idle, w.callers, w.journal⟩
  | backOff (clock : Clock) (at_ : w.worker = .holding .assembling)
      (undrained : w.backlog.isDrained = false) (retry : w.backlog.schedule.retry.isSome = true) :
      Turn plan w (.proceed clock) ⟨w.backlog, .holding .deciding, w.callers, w.journal⟩
  | assemble (clock : Clock) (at_ : w.worker = .holding .assembling)
      (undrained : w.backlog.isDrained = false) (retry : w.backlog.schedule.retry = none) :
      Turn plan w (.proceed clock)
        ⟨w.backlog.assemble plan.envelope plan.flushCount plan.flushSize, .holding .deciding,
          w.callers, w.journal⟩
  | decide (clock : Clock) (at_ : w.worker = .holding .deciding)
      (due : (w.backlog.isUrgent || w.backlog.schedule.isDue clock.now) = true) :
      Turn plan w (.proceed clock)
        ⟨w.backlog.beginAttempt, .holding .sending, w.callers, w.journal⟩
  | wait (clock : Clock) (at_ : w.worker = .holding .deciding)
      (early : (w.backlog.isUrgent || w.backlog.schedule.isDue clock.now) = false) :
      Turn plan w (.proceed clock)
        ⟨w.backlog, .waiting w.backlog.schedule.next false, w.callers, w.journal⟩
  | skip (clock : Clock) (at_ : w.worker = .holding .sending) (empty : w.backlog.batch = []) :
      Turn plan w (.proceed clock) ⟨w.backlog, .holding .assembling, w.callers, w.journal⟩
  | attempt (clock : Clock) (at_ : w.worker = .holding .sending) (nonempty : w.backlog.batch ≠ []) :
      Turn plan w (.proceed clock)
        ⟨w.backlog.stampBatch clock.stamp,
          .calling (plan.target.request (plan.envelope.encode (w.backlog.stampBatch clock.stamp).batch)),
          w.callers,
          w.journal ++ [.attempted (w.backlog.stampBatch clock.stamp).batch
            (plan.target.request (plan.envelope.encode (w.backlog.stampBatch clock.stamp).batch))]⟩
  | deliver (a : Answer) (now : Nat) {request : Request} (at_ : w.worker = .calling request)
      (ok : a.result = .ok ()) :
      Turn plan w (.answer a now)
        ⟨w.backlog.succeed.beginSettling, .reporting w.backlog.handler .success w.backlog.batch,
          w.callers,
          w.journal ++ [.delivered w.backlog.batch.length] ++
            [.settled w.backlog.batch w.backlog.handler .success]⟩
  | retry (a : Answer) (now : Nat) {request : Request} {e : AttemptError}
      (at_ : w.worker = .calling request) (failed : a.result = .error e)
      (more : w.backlog.failures < plan.policy.maxRetries) :
      Turn plan w (.answer a now)
        ⟨w.backlog.failUntil (plan.policy.nextRetry now), .holding .assembling, w.callers,
          w.journal ++ [.willRetry w.backlog.batch.length e
            (plan.policy.remaining (w.backlog.failures + 1))]⟩
  | giveUp (a : Answer) (now : Nat) {request : Request} {e : AttemptError}
      (at_ : w.worker = .calling request) (failed : a.result = .error e)
      (spent : plan.policy.maxRetries ≤ w.backlog.failures) :
      Turn plan w (.answer a now)
        ⟨w.backlog.beginSettling,
          .reporting w.backlog.handler (.failure e.message) w.backlog.batch, w.callers,
          w.journal ++ [.gaveUp w.backlog.batch.length e] ++
            [.settled w.backlog.batch w.backlog.handler (.failure e.message)]⟩
  | tell (clock : Clock) {h : η} {outcome : Outcome} {e : Event} {rest : List Event}
      (at_ : w.worker = .reporting (some h) outcome (e :: rest)) :
      Turn plan w (.proceed clock)
        ⟨w.backlog, .inHandler h outcome e rest, w.callers, w.journal ++ [.told h outcome e]⟩
  | hear (v : Verdict) {h : η} {outcome : Outcome} {e : Event} {rest : List Event}
      (at_ : w.worker = .inHandler h outcome e rest) :
      Turn plan w (.verdict v)
        ⟨w.backlog, .reporting (some h) outcome rest, w.callers, w.journal ++ v.facts⟩
  | endReport (clock : Clock) {handler : Option η} {outcome : Outcome} {rest : List Event}
      (at_ : w.worker = .reporting handler outcome rest) (ended : handler = none ∨ rest = []) :
      Turn plan w (.proceed clock)
        ⟨w.backlog.endSettling, .holding .assembling, w.callers, w.journal⟩

variable {plan : Plan} {w w' : World η} {a : Action η}

private theorem free_of_locked {f : World η → World η} (h : w.locked f = some w') :
    w.worker.holdsLock = false ∧ w' = f w := by
  unfold locked at h
  split at h
  · cases h
  next free => exact ⟨Bool.eq_false_iff.2 free, (Option.some.inj h).symm⟩

private theorem turn_of_idle (clock : Clock) (at_ : w.worker = .holding .idle) :
    Turn plan w (.proceed clock) w.idle := by
  unfold World.idle
  split
  next drained =>
    dsimp only
    split
    next closing => exact .stop clock at_ drained closing
    next isOpen => exact .rest clock at_ drained (Bool.eq_false_iff.2 isOpen)
  next undrained => exact .resume clock at_ (Bool.eq_false_iff.2 undrained)

private theorem turn_of_assemble (clock : Clock) (at_ : w.worker = .holding .assembling) :
    Turn plan w (.proceed clock) (w.assemble plan) := by
  unfold World.assemble
  split
  next drained => exact .drain clock at_ drained
  next undrained =>
    have undrained := Bool.eq_false_iff.2 undrained
    split
    next retry => exact .backOff clock at_ undrained retry
    next retry => exact .assemble clock at_ undrained (Option.not_isSome_iff_eq_none.1 retry)

private theorem turn_of_decide (clock : Clock) (at_ : w.worker = .holding .deciding) :
    Turn plan w (.proceed clock) (w.decide clock.now) := by
  unfold World.decide
  split
  next due => exact .decide clock at_ due
  next early => exact .wait clock at_ (Bool.eq_false_iff.2 early)

private theorem turn_of_sending (clock : Clock) (at_ : w.worker = .holding .sending) :
    Turn plan w (.proceed clock) (w.beginSending plan clock.stamp) := by
  unfold beginSending
  split
  next empty => exact .skip clock at_ (List.isEmpty_iff.1 empty)
  next nonempty => exact .attempt clock at_ (mt List.isEmpty_iff.2 nonempty)

private theorem turn_of_proceed {clock : Clock} (h : w.proceed plan clock = some w') :
    Turn plan w (.proceed clock) w' := by
  unfold proceed at h
  split at h <;> try cases h
  next at_ => exact .start clock at_
  next at_ => exact .rouse clock at_
  next at_ => exact .wake clock at_
  next at_ => exact turn_of_idle clock at_
  next at_ => exact turn_of_assemble clock at_
  next at_ => exact turn_of_decide clock at_
  next at_ => exact turn_of_sending clock at_
  next at_ => exact .tell clock at_
  next handler outcome rest told at_ =>
    refine .endReport clock at_ ?_
    cases handler with
    | none => exact .inl rfl
    | some handler =>
      cases rest with
      | nil => exact .inr rfl
      | cons e rest => exact (told handler e rest rfl rfl).elim

private theorem turn_of_answer {answer : Answer} {now : Nat} {request : Request}
    (at_ : w.worker = .calling request) :
    Turn plan w (.answer answer now) (w.endSending plan now answer) := by
  unfold endSending
  dsimp only
  split
  next hr => exact .deliver answer now at_ hr
  next e hr =>
    simp only [Answer.isRetryable_of_error hr, Bool.true_and, RetryPolicy.shouldRetry,
      decide_eq_true_eq]
    split
    next more => exact .retry answer now at_ hr more
    next spent => exact .giveUp answer now at_ hr (Nat.le_of_not_lt spent)

private theorem call_of_enterWait {id : Nat} (free : w.worker.holdsLock = false)
    (isNew : w.callers.any (fun c => c.id = id) = false) :
    Call plan w (.enterWait id) (w.enterWait id) := by
  unfold World.enterWait look
  split
  next drained => exact .passWait id free isNew drained
  next undrained => exact .enterWait id free isNew (Bool.eq_false_iff.2 undrained)

private theorem call_of_recheck {id : Nat} (free : w.worker.holdsLock = false)
    (isParked : w.callers.any (fun c => c.id = id) = true) :
    Call plan w (.recheck id) (w.recheck id) := by
  unfold World.recheck look
  split
  next drained => exact .leaveWait id free isParked drained
  next undrained => exact .stayWait id free isParked (Bool.eq_false_iff.2 undrained)

theorem call_or_turn (h : w.step plan a = some w') : Call plan w a w' ∨ Turn plan w a w' := by
  cases a with
  | enqueue e clock =>
    obtain ⟨free, rfl⟩ := free_of_locked h
    exact .inl (.enqueue e clock free)
  | flush =>
    obtain ⟨free, rfl⟩ := free_of_locked h
    exact .inl (.flush free)
  | scrub actor =>
    obtain ⟨free, rfl⟩ := free_of_locked h
    exact .inl (.scrub actor free)
  | setHandler handler =>
    obtain ⟨free, rfl⟩ := free_of_locked h
    exact .inl (.setHandler handler free)
  | enterWait id =>
    simp only [step] at h
    split at h
    · cases h
    next isNew =>
      obtain ⟨free, rfl⟩ := free_of_locked h
      exact .inl (call_of_enterWait free (Bool.eq_false_iff.2 isNew))
  | recheck id =>
    simp only [step] at h
    split at h
    next isParked =>
      obtain ⟨free, rfl⟩ := free_of_locked h
      exact .inl (call_of_recheck free isParked)
    · cases h
  | close =>
    obtain ⟨free, rfl⟩ := free_of_locked h
    exact .inl (.close free)
  | proceed clock => exact .inr (turn_of_proceed h)
  | answer answer now =>
    simp only [step] at h
    split at h
    next request at_ => cases h; exact .inr (turn_of_answer at_)
    · cases h
  | verdict v =>
    simp only [step] at h
    split at h
    next at_ => cases h; exact .inr (.hear v at_)
    · cases h

end World

end Courier
