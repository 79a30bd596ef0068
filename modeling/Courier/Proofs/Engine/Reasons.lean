import Courier.Proofs.Engine.Callers
import Courier.Proofs.Engine.Deadlines
import Courier.Proofs.Engine.Outcomes

/-! Why a batch is sent. The wish to flush and the deadline of a retry carry no trace of where they come
from, so both are followed through the run: a wish is one that a caller has made since the last
decision, or that of a new batch that is full; a retry is due after the last failure of the batch. -/
namespace Courier

variable {η : Type}

def Action.answer? : Action η → Option (Answer × Nat)
  | answer a now => some (a, now)
  | _ => none

namespace World

open Journal Backlog

/-- A caller asks here for what there is to be sent: explicitly, or because it has to wait for that. -/
def Asks (w : World η) : Action η → Prop
  | .flush => True
  | .enterWait _ => w.backlog.isDrained = false
  | .recheck _ => w.backlog.isDrained = false
  | _ => False

def Undecided (plan : Plan) (w : World η) (actions : List (Action η)) : Prop :=
  ∀ front a rest u u', actions = front ++ a :: rest → w.run plan front = some u →
    u.step plan a = some u' → u'.worker ≠ .holding .sending

/-- A caller has asked since the last decision to send, or since the start if there was none. -/
def AskedSince (plan : Plan) (start : World η) (actions : List (Action η)) : Prop :=
  ∃ earlier a since u u', actions = earlier ++ a :: since ∧ start.run plan earlier = some u ∧
    u.Asks a ∧ u.step plan a = some u' ∧ Undecided plan u' since

/-- The last attempt of the batch at hand failed at `time`, and none was answered since. -/
def FailedAt (plan : Plan) (start : World η) (actions : List (Action η)) (w : World η) (time : Nat) :
    Prop :=
  ∃ earlier answer since u request e, actions = earlier ++ .answer answer time :: since ∧
    (∀ a ∈ since, a.answer? = none) ∧ start.run plan earlier = some u ∧
    u.worker = .calling request ∧ answer.result = .error e ∧
    (attemptsAtHand w.journal).getLast? = some (u.backlog.batch, request)

/-- Reasons to send a batch of any kind at any time. -/
inductive Hurry (plan : Plan) (start : World η) (actions : List (Action η)) (w : World η) (now : Nat) :
    Prop where
  | asked (since : AskedSince plan start actions)
  | awaited (c : Caller) (waits : c ∈ w.callers)
  | aged (first : Event × Nat) (isFirst : w.recent.head? = some first)
      (old : first.2 + plan.flushInterval ≤ now)

/-- A failed batch is also sent again when its pause is over, and a new one when it is full. -/
inductive Reason (plan : Plan) (start : World η) (actions : List (Action η)) (w : World η)
    (now : Nat) : Prop where
  | hurry (h : Hurry plan start actions w now)
  | paused (time : Nat) (failed : FailedAt plan start actions w time)
      (past : time + plan.policy.interval ≤ now)
  | full (new : attemptsAtHand w.journal = []) (length_le : w.backlog.batch.length ≤ plan.flushCount)
      (full : plan.Full w.backlog.batch w.backlog.queue)

structure Justified (plan : Plan) (start : World η) (actions : List (Action η)) (w : World η)
    (now : Nat) : Prop where
  reason : Reason plan start actions w now
  /-- The pause after a failure is cut short only by what is in a hurry, however full the batch is. -/
  patient : attemptsAtHand w.journal ≠ [] → ∃ time, FailedAt plan start actions w time ∧
    (now < time + plan.policy.interval → Hurry plan start actions w now)

/-! ### Wishes and failures of a run that goes on -/

variable {plan : Plan} {start w w' : World η} {a : Action η} {actions : List (Action η)} {time : Nat}

theorem Undecided.concat (h : Undecided plan start actions) (ran : start.run plan actions = some w)
    (hstep : w.step plan a = some w') (unsent : w'.worker ≠ .holding .sending) :
    Undecided plan start (actions ++ [a]) := by
  intro front b rest u u' split hu hb
  rcases split_concat split with ⟨rfl, rfl, -⟩ | ⟨rest, -, split⟩
  · cases Option.some.inj (ran.symm.trans hu)
    cases Option.some.inj (hstep.symm.trans hb)
    exact unsent
  · exact h front b rest u u' split hu hb

theorem AskedSince.concat (h : AskedSince plan start actions) (ran : start.run plan actions = some w)
    (hstep : w.step plan a = some w') (unsent : w'.worker ≠ .holding .sending) :
    AskedSince plan start (actions ++ [a]) := by
  obtain ⟨earlier, b, since, u, u', rfl, hu, asks, hb, undecided⟩ := h
  obtain ⟨v, hv, ran⟩ := run_append_eq_some.1 ran
  cases Option.some.inj (hu.symm.trans hv)
  obtain ⟨v', hv', ran⟩ := run_cons_eq_some.1 ran
  cases Option.some.inj (hb.symm.trans hv')
  exact ⟨earlier, b, since ++ [a], u, u', by simp, hu, asks, hb, undecided.concat ran hstep unsent⟩

theorem AskedSince.of_asks (ran : start.run plan actions = some w) (asks : w.Asks a)
    (hstep : w.step plan a = some w') : AskedSince plan start (actions ++ [a]) := by
  refine ⟨actions, a, [], w, w', rfl, ran, asks, hstep, ?_⟩
  intro front b rest u u' split
  simp at split

theorem FailedAt.concat (h : FailedAt plan start actions w time) (unanswered : a.answer? = none)
    (same : attemptsAtHand w'.journal = attemptsAtHand w.journal) :
    FailedAt plan start (actions ++ [a]) w' time := by
  obtain ⟨earlier, answer, since, u, request, e, rfl, quiet, hu, calling, failed, last⟩ := h
  refine ⟨earlier, answer, since ++ [a], u, request, e, by simp, ?_, hu, calling, failed, same ▸ last⟩
  rw [List.forall_mem_append, List.forall_mem_singleton]
  exact ⟨quiet, unanswered⟩

/-- Where the wish to flush and the deadline of a retry come from. -/
structure Reasoned (plan : Plan) (start : World η) (actions : List (Action η)) (w : World η) :
    Prop where
  wish : w.backlog.needFlush = true → AskedSince plan start actions ∨
    w.worker = .holding .deciding ∧ w.backlog.schedule.retry = none ∧
      plan.Full w.backlog.batch w.backlog.queue
  pause : ∀ deadline, w.backlog.schedule.retry = some deadline →
    ∃ time, FailedAt plan start actions w time ∧ deadline = time + plan.policy.interval

namespace Reasoned

theorem begun (handler : Option η) (url : String) :
    Reasoned plan start [] (World.begun handler url) where
  wish := fun h => nomatch h
  pause := fun _ h => nomatch h

theorem call (h : Reasoned plan start actions w) (ran : start.run plan actions = some w)
    (hstep : w.step plan a = some w') (hc : Call plan w a w') :
    Reasoned plan start (actions ++ [a]) w' := by
  have same := hc.untouched
  obtain ⟨facts, hj, hf⟩ := same.journal
  obtain ⟨free, free'⟩ := hc.free
  have asked (wish : w.backlog.needFlush = true) : AskedSince plan start (actions ++ [a]) := by
    refine ((h.wish wish).resolve_right ?_).concat ran hstep ?_
    · rintro ⟨deciding, -⟩
      rw [deciding] at free
      cases free
    · intro sending
      rw [sending] at free'
      cases free'
  constructor
  · intro wish
    cases hc with
    | flush => exact .inl (.of_asks ran trivial hstep)
    | enterWait id _ _ undrained | stayWait id _ _ undrained => exact .inl (.of_asks ran undrained hstep)
    | enqueue | scrub | setHandler | passWait | leaveWait | close => exact .inl (asked wish)
  · intro deadline armed
    rw [same.retry] at armed
    obtain ⟨time, failed, deadline_eq⟩ := h.pause deadline armed
    refine ⟨time, failed.concat ?_ (by rw [hj, attemptsAtHand_callers hf]), deadline_eq⟩
    cases hc <;> rfl

theorem keep (h : Reasoned plan start actions w) (ran : start.run plan actions = some w)
    (hstep : w.step plan a = some w') {facts : List (Fact η)} (hj : w'.journal = w.journal ++ facts)
    (unsettled : settlements facts = []) (unattempted : attempts facts = [])
    (apart : w.worker = .holding .deciding → w.backlog.needFlush = false)
    (unsent : w'.worker ≠ .holding .sending) (unanswered : a.answer? = none)
    (wish : w'.backlog.needFlush = w.backlog.needFlush)
    (retry : w'.backlog.schedule.retry = w.backlog.schedule.retry ∨
      w'.backlog.schedule.retry = none) : Reasoned plan start (actions ++ [a]) w' := by
  have same : attemptsAtHand w'.journal = attemptsAtHand w.journal := by
    rw [hj, attemptsAtHand_append unsettled, unattempted, List.append_nil]
  constructor
  · intro asked
    rw [wish] at asked
    refine .inl (((h.wish asked).resolve_right ?_).concat ran hstep unsent)
    exact fun ⟨deciding, _⟩ => Bool.false_ne_true ((apart deciding).symm.trans asked)
  · intro deadline armed
    rcases retry with kept | cleared
    · obtain ⟨time, failed, deadline_eq⟩ := h.pause deadline (kept ▸ armed)
      exact ⟨time, failed.concat unanswered same, deadline_eq⟩
    · cases cleared.symm.trans armed

theorem of_unretried (retry : w'.backlog.schedule.retry = none)
    (wish : w'.backlog.needFlush = true → AskedSince plan start actions ∨
      w'.worker = .holding .deciding ∧ plan.Full w'.backlog.batch w'.backlog.queue) :
    Reasoned plan start actions w' where
  wish := fun asked => (wish asked).imp_right fun ⟨deciding, full⟩ => ⟨deciding, retry, full⟩
  pause := fun _ armed => nomatch retry.symm.trans armed

theorem turn (h : Reasoned plan start actions w) (phased : Phased plan w) (called : Called w)
    (ran : start.run plan actions = some w) (hstep : w.step plan a = some w')
    (ht : Turn plan w a w') : Reasoned plan start (actions ++ [a]) w' := by
  have asked {p : Worker η} (at_ : w.worker = p) (hp : p ≠ .holding .deciding)
      (unsent : w'.worker ≠ .holding .sending) (wish : w.backlog.needFlush = true) :
      AskedSince plan start (actions ++ [a]) := by
    subst at_
    exact ((h.wish wish).resolve_right fun ⟨deciding, _⟩ => hp deciding).concat ran hstep unsent
  cases ht with
  | rouse clock at_ | wake clock at_ | resume clock at_ | drain clock at_ | backOff clock at_
  | skip clock at_ | endReport clock at_ =>
    exact h.keep ran hstep (List.append_nil _).symm rfl rfl (by rw [at_]; nofun) nofun rfl rfl (.inl rfl)
  | start clock at_ | tell clock at_ =>
    exact h.keep ran hstep rfl rfl rfl (by rw [at_]; nofun) nofun rfl rfl (.inl rfl)
  | rest clock at_ =>
    exact h.keep ran hstep rfl rfl rfl (by rw [at_]; nofun) nofun rfl rfl (.inr rfl)
  | stop clock at_ =>
    exact h.keep ran hstep (List.append_assoc _ _ _) rfl rfl (by rw [at_]; nofun) nofun rfl rfl (.inr rfl)
  | hear v at_ =>
    exact h.keep ran hstep rfl (by cases v <;> rfl) (by cases v <;> rfl) (by rw [at_]; nofun) nofun rfl
      rfl (.inl rfl)
  | assemble clock at_ undrained retry =>
    refine of_unretried retry fun wish => ?_
    rcases w.backlog.assemble_needFlush.1 wish with old | stopped
    · exact .inl (asked at_ nofun nofun old)
    · exact .inr ⟨rfl, full_of_grow stopped⟩
  | decide => exact of_unretried rfl fun wish => nomatch wish
  | wait clock at_ early =>
    obtain ⟨calm, -⟩ := Bool.or_eq_false_iff.1 early
    obtain ⟨unasked, -⟩ := Bool.or_eq_false_iff.1 calm
    exact h.keep ran hstep (List.append_nil _).symm rfl rfl (fun _ => unasked) nofun rfl rfl (.inl rfl)
  | attempt clock at_ | deliver answer now at_ | giveUp answer now at_ =>
    refine of_unretried (phased.attempting (by rw [at_]; rfl)) fun wish => ?_
    exact .inl (asked at_ nofun nofun wish)
  | @retry answer now request e at_ failed =>
    refine ⟨fun wish => .inl (asked at_ nofun nofun wish), fun deadline armed => ?_⟩
    -- An attempt is made with no retry pending, so the deadline is not an older one.
    have deadline_eq : deadline = now + plan.policy.interval := by
      have cleared := phased.attempting (by rw [at_]; rfl)
      change Schedule.earlier w.backlog.schedule.retry _ = some deadline at armed
      rw [cleared] at armed
      exact (Option.some.inj armed).symm
    refine ⟨now, ⟨actions, answer, [], w, request, e, rfl, by simp, ran, at_, failed, ?_⟩, deadline_eq⟩
    rw [attemptsAtHand_append rfl]
    exact (congrArg _ (List.append_nil _)).trans (called request at_)

theorem of_run {handler : Option η} {url : String} (roomy : 0 < plan.flushCount)
    (ran : (World.begun handler url).run plan actions = some w) :
    Reasoned plan (World.begun handler url) actions w := by
  refine run_history (begun handler url) ?_ ran
  intro done u a u' ran h hstep
  have hr : Reachable plan u := ⟨handler, url, done, ran⟩
  exact (call_or_turn hstep).elim (h.call ran hstep)
    (h.turn (Phased.of_reachable roomy hr) (Called.of_reachable hr) ran hstep)

end Reasoned

/-! ### Reasons -/

theorem batch_length_le (hr : Reachable plan w) : w.backlog.batch.length ≤ plan.flushCount := by
  refine hr.invariant (I := fun u => u.backlog.batch.length ≤ plan.flushCount)
    (fun _ _ => Nat.zero_le _) ?_
  intro u u' a _ hu hstep
  rcases call_or_turn hstep with hc | ht
  · rw [hc.untouched.batch]
    exact hu
  · cases ht with
    | assemble => exact length_grow_le hu
    | attempt => exact (List.length_map _).trans_le hu
    | deliver | giveUp => exact Nat.zero_le _
    | _ => exact hu

theorem Counted.exists_retry (h : Counted plan w) (deciding : w.worker = .holding .deciding)
    (attempted : attemptsAtHand w.journal ≠ []) :
    ∃ deadline, w.backlog.schedule.retry = some deadline := by
  have armed := (h.held attempted).2
  rw [deciding] at armed
  exact Option.isSome_iff_exists.1 ((armed.resolve_left nofun).resolve_left nofun)

theorem hurry_or_pending (reasoned : Reasoned plan start actions w) (attended : Attended w)
    (dated : Dated plan w) {now : Nat}
    (due : (w.backlog.isUrgent || w.backlog.schedule.isDue now) = true) :
    Hurry plan start actions w now ∨
      w.backlog.schedule.retry = none ∧ plan.Full w.backlog.batch w.backlog.queue ∨
        ∃ deadline, w.backlog.schedule.retry = some deadline ∧ deadline ≤ now := by
  rcases Bool.or_eq_true_iff.1 due with urgent | due
  · rcases Bool.or_eq_true_iff.1 urgent with wish | waiters
    · rcases reasoned.wish wish with asked | ⟨-, unretried, full⟩
      · exact .inl (.asked asked)
      · exact .inr (.inl ⟨unretried, full⟩)
    · have some_wait : 0 < w.callers.length := attended.waiters ▸ of_decide_eq_true waiters
      obtain ⟨c, waits⟩ := List.exists_mem_of_length_pos some_wait
      exact .inl (.awaited c waits)
  · rcases Schedule.isDue_iff.1 due with ⟨deadline, armed, past⟩ | pending
    · rw [dated.flush] at armed
      obtain ⟨first, isFirst, rfl⟩ := Option.map_eq_some_iff.1 armed
      exact .inl (.aged first isFirst past)
    · exact .inr (.inr pending)

/-- Every decision to send has a reason, as long as the clock does not go back between two acceptances. -/
theorem decisions_justified {settings : Settings} {env : Envelope} {handler : Option η} {clock : Clock}
    (opened : World.opened settings env handler = .ok (plan, start))
    (ran : start.run plan actions = some w)
    (forward : ((actions.filterMap Action.intake?).map (·.2)).Pairwise (· ≤ ·))
    (decides : w.step plan (.proceed clock) = some w') (sends : w'.worker = .holding .sending) :
    Justified plan start actions w clock.now := by
  have roomy := flushCount_pos_of_opened opened
  obtain ⟨-, rfl, -⟩ := eq_begun_of_opened opened
  have hr : Reachable plan w := ⟨handler, settings.batchUrl, actions, ran⟩
  have reasoned := Reasoned.of_run roomy ran
  have counted := Counted.of_reachable hr
  have dated : Dated plan w := by
    refine Dated.of_reachable hr ?_
    rw [intakes, run_filterMap step_intake ran]
    exact forward
  obtain ⟨-, -, deciding, -⟩ := decide_of_sending decides sends
  have due : (w.backlog.isUrgent || w.backlog.schedule.isDue clock.now) = true := by
    by_contra early
    rw [step_of_deciding deciding, decide_of_early (Bool.eq_false_iff.2 early)] at decides
    cases decides
    cases sends
  have origin := hurry_or_pending reasoned (Attended.of_reachable hr) dated due
  constructor
  · rcases origin with hurry | ⟨unretried, full⟩ | ⟨deadline, armed, past⟩
    · exact .hurry hurry
    · refine .full ?_ (batch_length_le hr) full
      by_contra attempted
      obtain ⟨deadline, armed⟩ := counted.exists_retry deciding attempted
      cases unretried.symm.trans armed
    · obtain ⟨time, failed, rfl⟩ := reasoned.pause deadline armed
      exact .paused time failed past
  · intro attempted
    obtain ⟨deadline, armed⟩ := counted.exists_retry deciding attempted
    obtain ⟨time, failed, rfl⟩ := reasoned.pause deadline armed
    refine ⟨time, failed, fun pausing => ?_⟩
    rcases origin with hurry | ⟨unretried, -⟩ | ⟨deadline, armed', past⟩
    · exact hurry
    · cases unretried.symm.trans armed
    · cases armed.symm.trans armed'
      exact absurd pausing (Nat.not_lt.2 past)

/-- A full batch waits for its retry, with an event queued behind it, when a flush is asked for. -/
def flushedWhilePausing : List (Action Unit) :=
  [.enqueue (.new "track" "") noon, .enqueue (.new "page" "") noon, .enqueue (.new "page" "") noon,
    .proceed noon, .proceed noon, .proceed noon, .proceed noon, .answer .panicked 0, .proceed noon,
    .proceed noon, .flush, .proceed noon, .proceed noon]

theorem decisions_justified_flushedWhilePausing : ∃ start w w',
    World.opened smallSettings ⟨none, none⟩ none = .ok (smallPlan, start) ∧
      start.run smallPlan flushedWhilePausing = some w ∧
    w.step smallPlan (.proceed noon) = some w' ∧ w'.worker = .holding .sending ∧
      (w.backlog.batch.length = 2 ∧ w.backlog.schedule = ⟨some 10000, some 1000⟩) ∧
        Justified smallPlan start flushedWhilePausing w noon.now := by
  have ends : ((begun (none : Option Unit) smallSettings.batchUrl).run smallPlan
      flushedWhilePausing).any (fun w => w.worker.isDeciding = true ∧
        (w.backlog.isUrgent || w.backlog.schedule.isDue noon.now) = true ∧
          w.backlog.batch.length = 2 ∧ w.backlog.schedule = ⟨some 10000, some 1000⟩) = true := by
    decide +kernel
  obtain ⟨w, ran, hw⟩ := (Option.any_eq_true _ _).1 ends
  obtain ⟨deciding, due, found⟩ := of_decide_eq_true hw
  have opened : World.opened smallSettings ⟨none, none⟩ (none : Option Unit) =
      .ok (smallPlan, begun none smallSettings.batchUrl) := rfl
  have forward : ((flushedWhilePausing.filterMap Action.intake?).map (·.2)).Pairwise (· ≤ ·) := by
    decide +kernel
  have decides : w.step smallPlan (.proceed noon) = some (w.decide noon.now) :=
    step_of_deciding (Worker.isDeciding_iff.1 deciding) noon
  have sends : (w.decide noon.now).worker = .holding .sending := by rw [decide_of_due due]
  exact ⟨_, w, _, opened, ran, decides, sends, found,
    decisions_justified opened ran forward decides sends⟩

end World

end Courier
