import Courier.Proofs.Delivery.Batch
import Courier.Proofs.Delivery.Schedule
import Courier.Proofs.Engine.Reporting
import Courier.Proofs.Settings.Base

/-! What is true in each phase of the worker. Whatever is held has a flush deadline; a batch is there
from the moment it is to be decided upon until it is settled; and it is decided upon only when it has
taken all that is queued, is full, or waits to be retried. -/
namespace Courier

variable {η : Type}

namespace Worker

def hasBatch : Worker η → Bool
  | holding .deciding => true
  | holding .sending => true
  | waiting _ _ => true
  | calling _ => true
  | _ => false

def isAttempting : Worker η → Bool
  | holding .sending => true
  | calling _ => true
  | _ => false

def isDeciding : Worker η → Bool
  | holding .deciding => true
  | _ => false

theorem isDeciding_iff {w : Worker η} : w.isDeciding = true ↔ w = .holding .deciding := by
  unfold isDeciding
  split
  · simp
  next other => exact ⟨fun h => (nomatch h), fun h => absurd h other⟩

theorem hasBatch_of_isAttempting {w : Worker η} (h : w.isAttempting = true) : w.hasBatch = true := by
  unfold isAttempting at h
  split at h
  · rfl
  · rfl
  · cases h

@[simp] theorem holdsLock_notify (w : Worker η) : w.notify.holdsLock = w.holdsLock := by
  cases w <;> rfl

@[simp] theorem hasBatch_notify (w : Worker η) : w.notify.hasBatch = w.hasBatch := by
  cases w <;> rfl

@[simp] theorem isAttempting_notify (w : Worker η) : w.notify.isAttempting = w.isAttempting := by
  cases w <;> rfl

end Worker

def Plan.Full (plan : Plan) (batch queue : List Event) : Prop :=
  Backlog.Full plan.envelope plan.flushCount plan.flushSize batch queue

namespace World

variable {plan : Plan} {w w' : World η} {a : Action η}

theorem flushCount_pos_of_opened {settings : Settings} {env : Envelope} {handler : Option η}
    (h : World.opened settings env handler = .ok (plan, w)) : 0 < plan.flushCount := by
  obtain ⟨rfl, -, checked⟩ := eq_begun_of_opened h
  obtain ⟨-, positive, -⟩ := Settings.check_eq_ok_iff.1 checked
  exact Nat.pos_of_ne_zero fun zero => positive (UInt64.toNat_inj.1 zero)

theorem Call.free (h : Call plan w a w') :
    w.worker.holdsLock = false ∧ w'.worker.holdsLock = false := by
  have free : w.worker.holdsLock = false := by cases h <;> assumption
  refine ⟨free, ?_⟩
  rcases h.untouched.worker with hw | hw
  · rw [hw, free]
  · rw [hw, Worker.holdsLock_notify, free]

theorem Reported.settling_eq_zero (h : Reported w) (apart : w.worker.isReporting = false) :
    w.backlog.settling = 0 := by
  rw [h.settling, underReport, apart]
  rfl

theorem Reported.some_left (h : Reported w) (apart : w.worker.isReporting = false)
    (undrained : w.backlog.isDrained = false) : w.backlog.queue ≠ [] ∨ w.backlog.batch ≠ [] := by
  refine not_and_or.1 fun ⟨queue, batch⟩ => ?_
  have drained : w.backlog.isDrained = true :=
    Backlog.isDrained_iff.2 ⟨queue, batch, h.settling_eq_zero apart⟩
  exact Bool.false_ne_true (undrained.symm.trans drained)

theorem Turn.none_left (ht : Turn plan w a w')
    (none_left : w.backlog.queue = [] ∧ w.backlog.batch = []) :
    w'.backlog.queue = [] ∧ w'.backlog.batch = [] := by
  obtain ⟨queue, batch⟩ := none_left
  cases ht with
  | assemble => simp [Backlog.assemble, queue, batch, Backlog.grow]
  | attempt clock at_ nonempty => exact absurd batch nonempty
  | deliver | giveUp => exact ⟨queue, rfl⟩
  | _ => exact ⟨queue, batch⟩

structure Phased (plan : Plan) (w : World η) : Prop where
  armed : w.backlog.queue ≠ [] ∨ w.backlog.batch ≠ [] → w.backlog.schedule.flush.isSome = true
  held : w.worker.hasBatch = true → w.backlog.batch ≠ []
  retried : w.backlog.schedule.retry.isSome = true → w.backlog.batch ≠ []
  attempting : w.worker.isAttempting = true → w.backlog.schedule.retry = none
  ready : w.worker = .holding .deciding → w.backlog.schedule.retry.isSome = true ∨
    w.backlog.queue = [] ∨
      w.backlog.needFlush = true ∧ plan.Full w.backlog.batch w.backlog.queue

theorem step_of_deciding (deciding : w.worker = .holding .deciding) (clock : Clock) :
    w.step plan (.proceed clock) = some (w.decide clock.now) := by
  rw [step, proceed, deciding]

theorem eq_decide_of_step (h : w.step plan a = some w') (deciding : w.worker = .holding .deciding) :
    ∃ clock, a = .proceed clock ∧ w' = w.decide clock.now := by
  rcases call_or_turn h with hc | ht
  · have free := hc.free.1
    rw [deciding] at free
    cases free
  · cases ht with
    | decide clock | wait clock =>
      exact ⟨clock, rfl, Option.some.inj (h.symm.trans (step_of_deciding deciding clock))⟩
    | _ => simp_all

theorem decide_of_due {now : Nat} (due : (w.backlog.isUrgent || w.backlog.schedule.isDue now) = true) :
    w.decide now = ⟨w.backlog.beginAttempt, .holding .sending, w.callers, w.journal⟩ :=
  if_pos due

theorem decide_of_early {now : Nat}
    (early : (w.backlog.isUrgent || w.backlog.schedule.isDue now) = false) :
    w.decide now = ⟨w.backlog, .waiting w.backlog.schedule.next false, w.callers, w.journal⟩ :=
  if_neg (Bool.eq_false_iff.1 early)

/-- The batch takes no more events: it has been decided upon, or failed and waits for its retry. -/
def Frozen (w : World η) : Prop :=
  w.worker.isAttempting = true ∨ w.backlog.schedule.retry.isSome = true

theorem frozen_congr (worker : w'.worker.isAttempting = w.worker.isAttempting)
    (retry : w'.backlog.schedule.retry = w.backlog.schedule.retry) : w'.Frozen ↔ w.Frozen := by
  rw [Frozen, Frozen, worker, retry]

theorem Call.frozen_iff (hc : Call plan w a w') : w'.Frozen ↔ w.Frozen := by
  have same := hc.untouched
  refine frozen_congr ?_ same.retry
  rcases same.worker with hw | hw
  · rw [hw]
  · rw [hw, Worker.isAttempting_notify]

namespace Phased

theorem begun (handler : Option η) (url : String) : Phased plan (begun handler url) where
  armed := fun h => h.elim (absurd rfl) (absurd rfl)
  held := fun h => nomatch h
  retried := fun h => nomatch h
  attempting := fun _ => rfl
  ready := fun h => nomatch h

theorem call (h : Phased plan w) (hc : Call plan w a w') : Phased plan w' := by
  have same := hc.untouched
  have hasBatch : w'.worker.hasBatch = w.worker.hasBatch := by
    rcases same.worker with hw | hw <;> simp [hw]
  have isAttempting : w'.worker.isAttempting = w.worker.isAttempting := by
    rcases same.worker with hw | hw <;> simp [hw]
  constructor
  · cases hc with
    | enqueue e clock =>
      intro _
      change (if w.backlog.queue.isEmpty then _ else w.backlog.schedule).flush.isSome = true
      split
      next => exact Schedule.isSome_armFlush _ _
      next queued => exact h.armed (.inl (mt List.isEmpty_iff.2 queued))
    | scrub actor => exact fun left => h.armed (.inr (left.resolve_left (absurd rfl)))
    | flush | setHandler | passWait | enterWait | leaveWait | stayWait | close => exact h.armed
  · rw [hasBatch, same.batch]
    exact h.held
  · rw [same.retry, same.batch]
    exact h.retried
  · rw [isAttempting, same.retry]
    exact h.attempting
  · intro deciding
    have free := hc.free.2
    rw [deciding] at free
    cases free

private theorem leave (h : Phased plan w) (queue : w'.backlog.queue = w.backlog.queue)
    (batch : w'.backlog.batch = w.backlog.batch) (schedule : w'.backlog.schedule = w.backlog.schedule)
    (hasBatch : w'.worker.hasBatch = false) : Phased plan w' where
  armed := by rw [queue, batch, schedule]; exact h.armed
  held := fun hb => absurd (hasBatch.symm.trans hb) Bool.false_ne_true
  retried := by rw [batch, schedule]; exact h.retried
  attempting := fun ha =>
    absurd (hasBatch.symm.trans (Worker.hasBatch_of_isAttempting ha)) Bool.false_ne_true
  ready := fun hw => by rw [hw] at hasBatch; cases hasBatch

private theorem forget (drained : w.backlog.isDrained = true) (backlog : w'.backlog = w.backlog.forget)
    (hasBatch : w'.worker.hasBatch = false) : Phased plan w' := by
  obtain ⟨queue, batch, -⟩ := Backlog.isDrained_iff.1 drained
  constructor
  · rw [backlog]
    exact fun left => left.elim (absurd queue) (absurd batch)
  · exact fun hb => absurd (hasBatch.symm.trans hb) Bool.false_ne_true
  · rw [backlog]
    exact fun hr => nomatch hr
  · rw [backlog]
    exact fun _ => rfl
  · intro hw
    rw [hw] at hasBatch
    cases hasBatch

private theorem settle (h : Phased plan w) (attempting : w.worker.isAttempting = true)
    (batch : w'.backlog.batch = []) (queue : w'.backlog.queue = w.backlog.queue)
    (schedule : w'.backlog.schedule = w.backlog.schedule) (hasBatch : w'.worker.hasBatch = false) :
    Phased plan w' := by
  have retry : w'.backlog.schedule.retry = none := by rw [schedule, h.attempting attempting]
  constructor
  · rintro (hq | hb)
    · rw [schedule]
      exact h.armed (.inl (queue ▸ hq))
    · exact absurd batch hb
  · exact fun hb => absurd (hasBatch.symm.trans hb) Bool.false_ne_true
  · rw [retry]
    exact fun hr => nomatch hr
  · exact fun _ => retry
  · intro hw
    rw [hw] at hasBatch
    cases hasBatch

private theorem assemble (h : Phased plan w) (roomy : 0 < plan.flushCount)
    (some_left : w.backlog.queue ≠ [] ∨ w.backlog.batch ≠ [])
    (retry : w.backlog.schedule.retry = none)
    (backlog : w'.backlog = w.backlog.assemble plan.envelope plan.flushCount plan.flushSize) :
    Phased plan w' := by
  have schedule : w'.backlog.schedule = w.backlog.schedule := by rw [backlog]; rfl
  constructor
  · rw [schedule]
    exact fun _ => h.armed some_left
  · rw [backlog]
    intro _
    refine Backlog.grow_ne_nil roomy fun empty => ?_
    obtain ⟨batch, queue⟩ := List.append_eq_nil_iff.1 empty
    exact some_left.elim (absurd queue) (absurd batch)
  · rw [schedule, retry]
    exact fun hr => nomatch hr
  · rw [schedule, retry]
    exact fun _ => rfl
  · rw [backlog]
    exact fun _ => .inr w.backlog.assemble_ready

theorem turn (h : Phased plan w) (roomy : 0 < plan.flushCount) (reported : Reported w)
    (ht : Turn plan w a w') : Phased plan w' := by
  cases ht with
  | start clock at_ | rouse clock at_ | wake clock at_ | resume clock at_ | drain clock at_
  | skip clock at_ | tell clock at_ | hear v at_ | endReport clock at_ => exact h.leave rfl rfl rfl rfl
  | rest clock at_ drained | stop clock at_ drained => exact forget drained rfl rfl
  | backOff clock at_ undrained retry =>
    exact ⟨h.armed, fun _ => h.retried retry, h.retried, fun ha => (nomatch ha), fun _ => .inl retry⟩
  | assemble clock at_ undrained retry =>
    exact h.assemble roomy (reported.some_left (by rw [at_]; rfl) undrained) retry rfl
  | decide clock at_ due =>
    have nonempty := h.held (by rw [at_]; rfl)
    exact ⟨h.armed, fun _ => nonempty, fun _ => nonempty, fun _ => rfl, fun hw => nomatch hw⟩
  | wait clock at_ early =>
    have nonempty := h.held (by rw [at_]; rfl)
    exact ⟨h.armed, fun _ => nonempty, h.retried, fun ha => (nomatch ha), fun hw => nomatch hw⟩
  | attempt clock at_ nonempty =>
    have stamped : w.backlog.batch.map (Event.stamp clock.stamp) ≠ [] := by simpa using nonempty
    have retry := h.attempting (by rw [at_]; rfl)
    exact ⟨fun _ => h.armed (.inr nonempty), fun _ => stamped, fun _ => stamped, fun _ => retry,
      fun hw => nomatch hw⟩
  | deliver answer now at_ | giveUp answer now at_ =>
    exact h.settle (by rw [at_]; rfl) rfl rfl rfl rfl
  | retry answer now at_ failed more =>
    have nonempty := h.held (by rw [at_]; rfl)
    exact ⟨h.armed, fun hb => (nomatch hb), fun _ => nonempty, fun ha => (nomatch ha),
      fun hw => nomatch hw⟩

theorem of_reachable (roomy : 0 < plan.flushCount) (h : Reachable plan w) : Phased plan w :=
  h.invariant begun fun hr hp hstep =>
    (call_or_turn hstep).elim hp.call (hp.turn roomy (Reported.of_reachable hr))

end Phased

end World

end Courier
