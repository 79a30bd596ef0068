import Courier.Proofs.Engine.Phases

/-! No wake-up is lost. The worker sleeps on one condition and callers that wait for everything to be
delivered on another; whoever sleeps without having been notified has nothing to do that anyone knows
of, so that it does not matter whether anybody wakes up without a reason. -/
namespace Courier

variable {η : Type}

def Worker.isAsleep : Worker η → Bool
  | resting isNotified => !isNotified
  | waiting _ isNotified => !isNotified
  | _ => false

@[simp] theorem Worker.isAsleep_notify (w : Worker η) : w.notify.isAsleep = false := by
  cases w <;> rfl

namespace World

/-- Nobody sleeps who should not. -/
structure Attentive (w : World η) : Prop where
  resting : w.worker = .resting false → w.backlog.queue = [] ∧ w.backlog.batch = [] ∧
    w.backlog.settling = 0 ∧ w.backlog.closing = false ∧ ∀ c ∈ w.callers, c.isNotified = true
  waiting : ∀ deadline, w.worker = .waiting deadline false →
    w.backlog.needFlush = false ∧ w.backlog.waiters = 0 ∧ w.backlog.batch ≠ [] ∧
      deadline = w.backlog.schedule.next ∧ deadline.isSome = true ∧
        (w.backlog.schedule.retry.isSome = true ∨ w.backlog.queue = [])
  /-- Callers are kept waiting with nothing left to deliver only until the worker gets to it. -/
  callers : w.backlog.isDrained = true → (∃ c ∈ w.callers, c.isNotified = false) →
    w.worker.isAsleep = false

namespace Attentive

variable {plan : Plan} {w w' : World η} {a : Action η}

theorem of_awake (h : w.worker.isAsleep = false) : Attentive w where
  resting := fun hw => by rw [hw] at h; cases h
  waiting := fun deadline hw => by rw [hw] at h; cases h
  callers := fun _ _ => h

theorem begun (handler : Option η) (url : String) : Attentive (begun handler url) := of_awake rfl

private theorem of_asleep
    (resting : w.worker = .resting false → w.backlog.isDrained = true ∧ w.backlog.closing = false ∧
      ∀ c ∈ w.callers, c.isNotified = true)
    (waiting : ∀ deadline, w.worker = .waiting deadline false →
      w.backlog.needFlush = false ∧ w.backlog.waiters = 0 ∧ w.backlog.batch ≠ [] ∧
        deadline = w.backlog.schedule.next ∧ deadline.isSome = true ∧
          (w.backlog.schedule.retry.isSome = true ∨ w.backlog.queue = [])) : Attentive w := by
  constructor
  · intro hw
    obtain ⟨drained, isOpen, notified⟩ := resting hw
    obtain ⟨queue, batch, settling⟩ := Backlog.isDrained_iff.1 drained
    exact ⟨queue, batch, settling, isOpen, notified⟩
  · exact waiting
  · rintro drained ⟨c, hc, unnotified⟩
    cases hw : w.worker with
    | resting isNotified =>
      cases isNotified with
      | true => rfl
      | false => cases unnotified.symm.trans ((resting hw).2.2 c hc)
    | waiting deadline isNotified =>
      cases isNotified with
      | true => rfl
      | false => exact absurd (Backlog.isDrained_iff.1 drained).2.1 (waiting deadline hw).2.2.1
    | _ => rfl

theorem drained (h : Attentive w) (hw : w.worker = .resting false) : w.backlog.isDrained = true := by
  obtain ⟨queue, batch, settling, -⟩ := h.resting hw
  exact Backlog.isDrained_iff.2 ⟨queue, batch, settling⟩

private theorem pass (h : Attentive w) (drained : w.backlog.isDrained = true)
    (drained' : w'.backlog.isDrained = true) (closing : w'.backlog.closing = w.backlog.closing)
    (worker : w'.worker = w.worker) (callers : ∀ c ∈ w'.callers, c ∈ w.callers) : Attentive w' := by
  apply of_asleep
  · intro hw
    obtain ⟨-, -, -, isOpen, notified⟩ := h.resting (worker ▸ hw)
    exact ⟨drained', closing.trans isOpen, fun c hc => notified c (callers c hc)⟩
  · intro deadline hw
    have nonempty := (h.waiting deadline (worker ▸ hw)).2.2.1
    exact absurd (Backlog.isDrained_iff.1 drained).2.1 nonempty

theorem call (h : Attentive w) (hc : Call plan w a w') : Attentive w' := by
  cases hc with
  | enqueue | flush | scrub | enterWait | stayWait | close => exact of_awake (Worker.isAsleep_notify _)
  | setHandler handler => exact ⟨h.resting, h.waiting, h.callers⟩
  | passWait id free isNew drained => exact h.pass drained drained rfl rfl fun c hc => hc
  | leaveWait id free isParked drained =>
    exact h.pass drained drained rfl rfl fun c hc => List.mem_of_mem_filter hc

theorem turn (phased : Phased plan w) (ht : Turn plan w a w') : Attentive w' := by
  cases ht with
  | rest clock at_ drained isOpen =>
    apply of_asleep
    · exact fun _ => ⟨drained, isOpen, fun c hc => by
        obtain ⟨c', -, rfl⟩ := List.mem_map.1 hc
        rfl⟩
    · exact fun deadline hw => nomatch hw
  | wait clock at_ early =>
    apply of_asleep
    · exact fun hw => nomatch hw
    · rintro deadline ⟨⟩
      obtain ⟨calm, -⟩ := Bool.or_eq_false_iff.1 early
      obtain ⟨unasked, nobody⟩ := Bool.or_eq_false_iff.1 calm
      have nonempty := phased.held (by rw [at_]; rfl)
      obtain ⟨flush, armed⟩ := Option.isSome_iff_exists.1 (phased.armed (.inr nonempty))
      obtain ⟨next, hnext, -⟩ := Schedule.exists_le_next armed
      refine ⟨unasked, Nat.eq_zero_of_not_pos (of_decide_eq_false nobody), nonempty, rfl, ?_, ?_⟩
      · rw [hnext]
        rfl
      · exact (phased.ready at_).imp_right fun ready =>
          ready.resolve_right fun full => Bool.false_ne_true (unasked.symm.trans full.1)
  | _ => exact of_awake rfl

theorem of_reachable (roomy : 0 < plan.flushCount) (h : Reachable plan w) : Attentive w :=
  h.invariant begun fun hr ht hstep =>
    (call_or_turn hstep).elim ht.call (turn (Phased.of_reachable roomy hr))

end Attentive

variable {plan : Plan} {start w : World η}

theorem no_lost_wakeup {settings : Settings} {env : Envelope} {handler : Option η}
    {actions : List (Action η)} (opened : World.opened settings env handler = .ok (plan, start))
    (ran : start.run plan actions = some w) : Attentive w := by
  have roomy := flushCount_pos_of_opened opened
  obtain ⟨-, rfl, -⟩ := eq_begun_of_opened opened
  exact Attentive.of_reachable roomy ⟨handler, settings.batchUrl, actions, ran⟩

/-- A batch that failed waits for its retry with an event queued behind it. -/
def backingOffRun : List (Action Unit) :=
  [.enqueue (.new "track" "") noon, .flush, .proceed noon, .proceed noon, .proceed noon, .proceed noon,
    .enqueue (.new "page" "") noon, .answer .panicked 0, .proceed noon, .proceed noon]

theorem no_lost_wakeup_backingOffRun : ∃ start w, World.opened smallSettings ⟨none, none⟩ none =
      .ok (smallPlan, start) ∧ start.run smallPlan backingOffRun = some w ∧
    (w.worker.isAsleep = true ∧ w.backlog.schedule.retry = some 1000 ∧ w.backlog.queue.length = 1) ∧
      Attentive w := by
  have ends : ((begun none smallSettings.batchUrl).run smallPlan backingOffRun).any (fun w =>
      w.worker.isAsleep = true ∧ w.backlog.schedule.retry = some 1000 ∧
        w.backlog.queue.length = 1) = true := by decide +kernel
  obtain ⟨w, ran, hw⟩ := (Option.any_eq_true _ _).1 ends
  have opened : World.opened smallSettings ⟨none, none⟩ (none : Option Unit) =
      .ok (smallPlan, begun none smallSettings.batchUrl) := rfl
  exact ⟨_, w, opened, ran, of_decide_eq_true hw, no_lost_wakeup opened ran⟩

end World

end Courier
