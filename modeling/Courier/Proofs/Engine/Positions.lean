import Courier.Proofs.Engine.Reasons

/-! What the worker finds wherever it stands. It rests only when nothing is left and all deadlines are
forgotten, waits only for a deadline, and sends only a batch that is there; so the branches that guard
against anything else are never taken, whatever callers do whenever the lock is free. -/
namespace Courier

variable {η : Type}

theorem Worker.notify_ne_resting (w : Worker η) : w.notify ≠ .resting false := by
  cases w <;> nofun

structure Backlog.AtRest (b : Backlog η) : Prop where
  drained : b.isDrained = true
  failures : b.failures = 0
  schedule : b.schedule = Schedule.never

namespace World

open Journal

/-- What a world holds where its worker has come to idle, to rest or to wait. -/
structure Placed (w : World η) : Prop where
  idle : w.worker = .holding .idle → w.backlog.isDrained = true
  parked : w.worker = .resting false → w.backlog.AtRest
  waiting : ∀ deadline n, w.worker = .waiting deadline n → deadline.isSome = true

namespace Placed

variable {plan : Plan} {w w' : World η} {a : Action η}

theorem begun (handler : Option η) (url : String) : Placed (begun handler url) where
  idle := nofun
  parked := nofun
  waiting := nofun

theorem call (h : Placed w) (hc : Call plan w a w') : Placed w' where
  idle := fun idle => by
    have free := hc.free.2
    rw [idle] at free
    cases free
  parked := by
    intro parked
    cases hc with
    | enqueue | flush | scrub | enterWait | stayWait | close =>
      exact absurd parked w.worker.notify_ne_resting
    | setHandler | passWait | leaveWait =>
      obtain ⟨drained, failures, schedule⟩ := h.parked parked
      exact ⟨drained, failures, schedule⟩
  waiting := by
    intro deadline n waits
    rcases hc.untouched.worker with hw | hw
    · exact h.waiting deadline n (hw.symm.trans waits)
    · rw [hw] at waits
      cases at_ : w.worker <;> rw [at_] at waits <;> cases waits
      exact h.waiting deadline _ at_

theorem of_turn (phased : Phased plan w) (ht : Turn plan w a w') : Placed w' := by
  cases ht with
  | drain clock at_ drained => exact ⟨fun _ => drained, nofun, nofun⟩
  | rest clock at_ drained => exact ⟨nofun, fun _ => ⟨drained, rfl, rfl⟩, nofun⟩
  | wait clock at_ =>
    refine ⟨nofun, nofun, ?_⟩
    rintro deadline n ⟨⟩
    have nonempty := phased.held (by rw [at_]; rfl)
    obtain ⟨flush, armed⟩ := Option.isSome_iff_exists.1 (phased.armed (.inr nonempty))
    obtain ⟨next, hnext, -⟩ := Schedule.exists_le_next armed
    rw [hnext]
    rfl
  | _ => exact ⟨nofun, nofun, nofun⟩

theorem of_reachable (roomy : 0 < plan.flushCount) (h : Reachable plan w) : Placed w :=
  h.invariant begun fun hr hp hstep =>
    (call_or_turn hstep).elim hp.call (of_turn (Phased.of_reachable roomy hr))

end Placed

variable {plan : Plan} {w w' start : World η} {a : Action η} {actions : List (Action η)}

/-- A batch that waits for its retry is the one that was attempted last. -/
def Paused (w : World η) : Prop := w.backlog.schedule.retry.isSome = true →
  ∃ request, (attemptsAtHand w.journal).getLast? = some (w.backlog.batch, request)

namespace Paused

theorem keep (h : Paused w) {facts : List (Fact η)} (hj : w'.journal = w.journal ++ facts)
    (unsettled : settlements facts = []) (unattempted : attempts facts = [])
    (batch : w'.backlog.batch = w.backlog.batch)
    (retry : w'.backlog.schedule.retry = w.backlog.schedule.retry) : Paused w' := by
  rw [Paused, hj, attemptsAtHand_append unsettled, unattempted, List.append_nil, batch, retry]
  exact h

theorem of_unretried (retry : w.backlog.schedule.retry = none) : Paused w := fun armed => by
  rw [retry] at armed
  cases armed

theorem turn (h : Paused w) (phased : Phased plan w) (called : Called w) (ht : Turn plan w a w') :
    Paused w' := by
  cases ht with
  | rouse | wake | resume | drain | backOff | wait | skip | endReport =>
    exact h.keep (List.append_nil _).symm rfl rfl rfl rfl
  | start | tell => exact h.keep rfl rfl rfl rfl rfl
  | hear v => exact h.keep rfl (by cases v <;> rfl) (by cases v <;> rfl) rfl rfl
  | rest | stop | decide => exact of_unretried rfl
  | assemble clock at_ undrained retry => exact of_unretried retry
  | attempt clock at_ | deliver answer now at_ | giveUp answer now at_ =>
    exact of_unretried (phased.attempting (by rw [at_]; rfl))
  | @retry answer now request e at_ =>
    intro _
    rw [attemptsAtHand_append rfl]
    exact ⟨request, (congrArg _ (List.append_nil _)).trans (called request at_)⟩

theorem of_reachable (roomy : 0 < plan.flushCount) (h : Reachable plan w) : Paused w := by
  refine h.invariant (fun _ _ => of_unretried rfl) ?_
  intro u u' a hr hu hstep
  rcases call_or_turn hstep with hc | ht
  · have same := hc.untouched
    obtain ⟨facts, hj, hf⟩ := same.journal
    exact hu.keep hj (settlements_eq_nil hf) (attempts_eq_nil hf) same.batch same.retry
  · exact hu.turn (Phased.of_reachable roomy hr) (Called.of_reachable hr) ht

end Paused

/-! ### Steps from each position -/

theorem step_of_idle (idle : w.worker = .holding .idle) (drained : w.backlog.isDrained = true)
    (clock : Clock) : ∃ w', w.step plan (.proceed clock) = some w' ∧
      (w'.worker = .resting false ∨ w'.worker = .terminated) := by
  refine ⟨w.idle, by rw [step, proceed, idle], ?_⟩
  unfold World.idle
  rw [if_pos drained]
  dsimp only
  split
  · exact .inr rfl
  · exact .inl rfl

theorem step_of_sending (sending : w.worker = .holding .sending) (nonempty : w.backlog.batch ≠ [])
    (clock : Clock) : ∃ w' request, w.step plan (.proceed clock) = some w' ∧
      w'.worker = .calling request := by
  have sends : (w.beginSending plan clock.stamp).worker = .calling
      (plan.target.request (plan.envelope.encode (w.backlog.stampBatch clock.stamp).batch)) := by
    rw [beginSending, if_neg (mt List.isEmpty_iff.1 nonempty)]
    rfl
  exact ⟨_, _, by rw [step, proceed, sending], sends⟩

/-- What is so of every world that a client comes to by some actions, and of the step after it. -/
structure Orderly (plan : Plan) (start : World η) (actions : List (Action η)) (w : World η) : Prop where
  entered : w.worker = .holding .deciding ∨ w.worker = .holding .sending →
    w.backlog.batch ≠ [] ∧ w.backlog.settling = 0 ∧ w.backlog.schedule.flush.isSome = true
  retried : w.backlog.schedule.retry.isSome = true → w.backlog.batch ≠ [] ∧
    (∃ request, (attemptsAtHand w.journal).getLast? = some (w.backlog.batch, request)) ∧
      ∃ time, FailedAt plan start actions w time
  settling : 0 < w.backlog.settling → w.worker.isReporting = true ∧ w.backlog.batch = []
  parked : w.worker = .resting false → w.backlog.queue = [] ∧ w.backlog.batch = [] ∧
    w.backlog.settling = 0 ∧ w.backlog.failures = 0 ∧
      w.backlog.schedule.flush = none ∧ w.backlog.schedule.retry = none
  /-- The worker comes to idle only to rest or to stop. -/
  idle : w.worker = .holding .idle → w.backlog.isDrained = true ∧
    ∀ clock, ∃ w', w.step plan (.proceed clock) = some w' ∧
      (w'.worker = .resting false ∨ w'.worker = .terminated)
  /-- A decision not to send yet names the time to wait for. -/
  decides : w.worker = .holding .deciding → ∀ clock, ∃ w', w.step plan (.proceed clock) = some w' ∧
    (w'.worker = .holding .sending ∨ ∃ deadline, w'.worker = .waiting (some deadline) false)
  waits : ∀ deadline n, w.worker = .waiting deadline n → deadline.isSome = true
  sends : w.worker = .holding .sending → ∀ clock, ∃ w' request,
    w.step plan (.proceed clock) = some w' ∧ w'.worker = .calling request

theorem run_orderly {settings : Settings} {env : Envelope} {handler : Option η}
    (opened : World.opened settings env handler = .ok (plan, start))
    (ran : start.run plan actions = some w) : Orderly plan start actions w := by
  have roomy := flushCount_pos_of_opened opened
  obtain ⟨-, rfl, -⟩ := eq_begun_of_opened opened
  have hr : Reachable plan w := ⟨handler, settings.batchUrl, actions, ran⟩
  have phased := Phased.of_reachable roomy hr
  have reported := Reported.of_reachable hr
  have placed := Placed.of_reachable roomy hr
  have held (entered : w.worker = .holding .deciding ∨ w.worker = .holding .sending) :
      w.backlog.batch ≠ [] := phased.held (by rcases entered with at_ | at_ <;> rw [at_] <;> rfl)
  constructor
  · intro entered
    have apart : w.worker.isReporting = false := by rcases entered with at_ | at_ <;> rw [at_] <;> rfl
    exact ⟨held entered, reported.settling_eq_zero apart, phased.armed (.inr (held entered))⟩
  · intro armed
    obtain ⟨deadline, retry⟩ := Option.isSome_iff_exists.1 armed
    obtain ⟨time, failed, -⟩ := (Reasoned.of_run roomy ran).pause deadline retry
    exact ⟨phased.retried armed, Paused.of_reachable roomy hr armed, time, failed⟩
  · intro unsettled
    have reporting : w.worker.isReporting = true := by
      by_contra apart
      exact Nat.ne_of_gt unsettled (reported.settling_eq_zero (Bool.eq_false_iff.2 apart))
    exact ⟨reporting, (reported.reporting reporting).1⟩
  · intro parked
    obtain ⟨drained, failures, schedule⟩ := placed.parked parked
    obtain ⟨queue, batch, settling⟩ := Backlog.isDrained_iff.1 drained
    rw [schedule]
    exact ⟨queue, batch, settling, failures, rfl, rfl⟩
  · intro idle
    exact ⟨placed.idle idle, step_of_idle idle (placed.idle idle)⟩
  · intro deciding clock
    refine ⟨w.decide clock.now, step_of_deciding deciding clock, ?_⟩
    cases due : w.backlog.isUrgent || w.backlog.schedule.isDue clock.now with
    | true => exact .inl (by rw [decide_of_due due])
    | false =>
      obtain ⟨flush, armed⟩ := Option.isSome_iff_exists.1 (phased.armed (.inr (held (.inl deciding))))
      obtain ⟨next, hnext, -⟩ := Schedule.exists_le_next armed
      exact .inr ⟨next, by rw [decide_of_early due, hnext]⟩
  · exact placed.waiting
  · intro sending
    exact step_of_sending sending (held (.inr sending))

/-- A failed batch is to be decided upon again. -/
def failedOnce : List (Action Unit) :=
  [.enqueue (.new "track" "") noon, .enqueue (.new "page" "") noon, .proceed noon, .proceed noon,
    .proceed noon, .proceed noon, .answer (.response ⟨503, ""⟩) 0, .proceed noon]

theorem run_orderly_failedOnce : ∃ start w,
    World.opened smallSettings ⟨none, none⟩ none = .ok (smallPlan, start) ∧
      start.run smallPlan failedOnce = some w ∧ w.worker.isDeciding = true ∧
        w.backlog.schedule.retry.isSome = true ∧ Orderly smallPlan start failedOnce w := by
  have ends : ((begun (none : Option Unit) smallSettings.batchUrl).run smallPlan failedOnce).any
      (fun w => w.worker.isDeciding = true ∧ w.backlog.schedule.retry.isSome = true) = true := by
    decide +kernel
  obtain ⟨w, ran, hw⟩ := (Option.any_eq_true _ _).1 ends
  obtain ⟨deciding, retry⟩ := of_decide_eq_true hw
  have opened : World.opened smallSettings ⟨none, none⟩ (none : Option Unit) =
      .ok (smallPlan, begun none smallSettings.batchUrl) := rfl
  exact ⟨_, w, opened, ran, deciding, retry, run_orderly opened ran⟩

end World

end Courier
