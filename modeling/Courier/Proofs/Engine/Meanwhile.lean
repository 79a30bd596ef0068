import Courier.Proofs.Engine.Draining

/-! What callers do while an attempt is made. They cannot tell that one is, but for the stamps in the
batch, and what they do is kept when the attempt fails and is to be repeated. -/
namespace Courier

variable {η : Type}

@[simp] theorem Backlog.isDrained_stampBatch (time : String) (b : Backlog η) :
    (b.stampBatch time).isDrained = b.isDrained := by
  rw [Backlog.isDrained, Backlog.stampBatch, List.isEmpty_map]
  rfl

def Worker.isSending : Worker η → Bool
  | holding .sending => true
  | _ => false

theorem Worker.isSending_iff {w : Worker η} : w.isSending = true ↔ w = .holding .sending := by
  unfold isSending
  split
  next => exact iff_of_true rfl rfl
  next other => exact iff_of_false nofun other

namespace World

variable {plan : Plan} {start w u v : World η} {a : Action η} {calls : List (Action η)}
  {request : Request} {stamp : String} {past : List (Fact η)}

open Journal

/-- The world as callers find it, with the lock free and nothing noted yet. -/
def unlocked (w : World η) : World η := ⟨w.backlog, .resting true, w.callers, []⟩

/-- The same world while its batch is on the way, stamped. -/
def aloft (request : Request) (stamp : String) (past : List (Fact η)) (u : World η) : World η :=
  ⟨u.backlog.stampBatch stamp, .calling request, u.callers, past ++ u.journal⟩

def attemptNote (plan : Plan) (stamp : String) (w : World η) : Fact η :=
  .attempted (w.backlog.stampBatch stamp).batch
    (plan.target.request (plan.envelope.encode (w.backlog.stampBatch stamp).batch))

/-- The attempt of the batch of `w` has failed and is to be repeated. All else is as callers made it,
which is `u`. -/
def afterFailure (plan : Plan) (clock : Clock) (now : Nat) (e : AttemptError) (w u : World η) :
    World η where
  backlog := { u.backlog with
    batch := w.backlog.batch.map (Event.stamp clock.stamp)
    failures := w.backlog.failures + 1
    schedule := ⟨u.backlog.schedule.flush, some (now + plan.policy.interval)⟩ }
  worker := .holding .assembling
  callers := u.callers
  journal := w.journal ++ [w.attemptNote plan clock.stamp] ++ u.journal ++
    [.willRetry w.backlog.batch.length e (plan.policy.remaining (w.backlog.failures + 1))]

/-! ### Callers -/

theorem locked_aloft {f : World η → World η} (free : u.worker.holdsLock = false)
    (alike : f (u.aloft request stamp past) = (f u).aloft request stamp past) :
    (u.aloft request stamp past).locked f = (u.locked f).map (aloft request stamp past) := by
  rw [locked, locked, if_neg (Bool.eq_false_iff.1 free)]
  exact congrArg some alike

theorem look_aloft (id : Nat) :
    (u.aloft request stamp past).look id = (u.look id).aloft request stamp past := by
  have drained : (u.aloft request stamp past).backlog.isDrained = u.backlog.isDrained :=
    u.backlog.isDrained_stampBatch stamp
  unfold look
  rw [drained]
  split
  · exact congrArg (World.mk _ _ _) (List.append_assoc _ _ _)
  · rfl

/-- Callers do to a world whose batch is on the way what they do to the same world before. -/
theorem step_aloft (free : u.worker.holdsLock = false) (callers : a.isWorkers = false) :
    (u.aloft request stamp past).step plan a = (u.step plan a).map (aloft request stamp past) := by
  cases a with
  | proceed | answer | verdict => cases callers
  | enqueue | flush | scrub =>
    exact locked_aloft free (congrArg (World.mk _ _ _) (List.append_assoc _ _ _))
  | setHandler | close => exact locked_aloft free rfl
  | enterWait id =>
    simp only [step]
    rw [show (u.aloft request stamp past).callers = u.callers from rfl]
    split
    · rfl
    · exact locked_aloft free (look_aloft (u := u.onBacklog (·.addWaiter)) id)
  | recheck id =>
    simp only [step]
    rw [show (u.aloft request stamp past).callers = u.callers from rfl]
    split
    · exact locked_aloft free (look_aloft (u := u.unpark id) id)
    · rfl

/-- What callers leave alone, and what they leave as they find it. -/
structure Aside (w u : World η) : Prop where
  free : u.worker.holdsLock = false
  batch : u.backlog.batch = w.backlog.batch
  failures : u.backlog.failures = w.backlog.failures
  retry : u.backlog.schedule.retry = w.backlog.schedule.retry
  callers : ∀ f ∈ u.journal, f.isWorkers = false

theorem call_of_isWorkers (hstep : u.step plan a = some v) (callers : a.isWorkers = false) :
    Call plan u a v := by
  refine (call_or_turn hstep).resolve_right fun ht => ?_
  cases ht <;> cases callers

theorem Aside.call (h : Aside w u) (hc : Call plan u a v) : Aside w v := by
  have same := hc.untouched
  obtain ⟨facts, hj, callers⟩ := same.journal
  refine ⟨hc.free.2, same.batch.trans h.batch, same.failures.trans h.failures,
    same.retry.trans h.retry, ?_⟩
  rw [hj, List.forall_mem_append]
  exact ⟨h.callers, callers⟩

theorem aside_of_run (callers : ∀ a ∈ calls, a.isWorkers = false)
    (ran : w.unlocked.run plan calls = some u) : Aside w u := by
  have before : Aside w w.unlocked := ⟨rfl, rfl, rfl, rfl, fun f hf => nomatch hf⟩
  exact run_invariant (fun a ha _ _ aside hstep => aside.call (call_of_isWorkers hstep (callers a ha)))
    before ran

theorem run_aloft (free : u.worker.holdsLock = false) (callers : ∀ a ∈ calls, a.isWorkers = false) :
    (u.aloft request stamp past).run plan calls = (u.run plan calls).map (aloft request stamp past) := by
  induction calls generalizing u with
  | nil => rfl
  | cons a calls ih =>
    obtain ⟨first, callers⟩ := List.forall_mem_cons.1 callers
    rw [run, run, step_aloft free first]
    cases hstep : u.step plan a with
    | none => rfl
    | some v => exact ih (call_of_isWorkers hstep first).free.2 callers

/-! ### The attempt -/

theorem step_to_aloft (plan : Plan) (sending : w.worker = .holding .sending)
    (nonempty : w.backlog.batch ≠ []) (clock : Clock) : ∃ request, w.step plan (.proceed clock) =
      some (w.unlocked.aloft request clock.stamp (w.journal ++ [w.attemptNote plan clock.stamp])) := by
  refine ⟨plan.target.request (plan.envelope.encode (w.backlog.stampBatch clock.stamp).batch), ?_⟩
  rw [step, proceed, sending]
  dsimp only
  rw [beginSending, if_neg (mt List.isEmpty_iff.1 nonempty), unlocked, aloft, List.append_nil]
  rfl

theorem step_from_aloft (request : Request) (aside : Aside w u)
    (unretried : w.backlog.schedule.retry = none)
    (more : w.backlog.failures < plan.policy.maxRetries) {answer : Answer} {e : AttemptError}
    (failed : answer.result = .error e) (clock : Clock) (now : Nat) :
    (u.aloft request clock.stamp (w.journal ++ [w.attemptNote plan clock.stamp])).step plan
      (.answer answer now) = some (w.afterFailure plan clock now e u) := by
  have repeats : (e.isRetryable && plan.policy.shouldRetry u.backlog.failures) = true := by
    rw [Answer.isRetryable_of_error failed, RetryPolicy.shouldRetry, aside.failures, decide_eq_true more]
    rfl
  have ended : (u.aloft request clock.stamp (w.journal ++ [w.attemptNote plan clock.stamp])).endSending
      plan now answer = w.afterFailure plan clock now e u := by
    rw [endSending, failed]
    refine (if_pos repeats).trans ?_
    simp [aloft, afterFailure, onBacklog, note, goto, Backlog.failUntil, Backlog.stampBatch,
      Schedule.armRetry, Schedule.earlier, RetryPolicy.nextRetry, aside.batch, aside.failures, aside.retry,
      unretried]
  exact congrArg some ended

/-- An attempt that fails with retries left loses nothing: the world is what callers would have made of
it without the attempt, but for the stamps, the count of failures and the deadline of the retry. -/
theorem failed_attempt_keeps_all {settings : Settings} {env : Envelope} {handler : Option η}
    {before : List (Action η)} {answer : Answer}
    (opened : World.opened settings env handler = .ok (plan, start))
    (ran : start.run plan before = some w) (sending : w.worker = .holding .sending)
    (more : w.backlog.failures < plan.policy.maxRetries) (callers : ∀ a ∈ calls, a.isWorkers = false)
    (failed : ¬∃ r, answer = .response r ∧ 200 ≤ r.status ∧ r.status < 300) (clock : Clock) (now : Nat) :
    ∃ e, answer.result = .error e ∧
      w.run plan (.proceed clock :: calls ++ [.answer answer now]) =
        (w.unlocked.run plan calls).map (w.afterFailure plan clock now e) ∧
      ∀ v, w.run plan (.proceed clock :: calls ++ [.answer answer now]) = some v →
        tellings v.journal = tellings w.journal ∧ settlements v.journal = settlements w.journal := by
  have roomy := flushCount_pos_of_opened opened
  obtain ⟨-, rfl, -⟩ := eq_begun_of_opened opened
  have phased : Phased plan w := Phased.of_reachable roomy ⟨handler, settings.batchUrl, before, ran⟩
  have nonempty : w.backlog.batch ≠ [] := phased.held (by rw [sending]; rfl)
  have unretried : w.backlog.schedule.retry = none := phased.attempting (by rw [sending]; rfl)
  obtain ⟨e, error⟩ : ∃ e, answer.result = .error e := by
    cases result : answer.result with
    | ok => exact absurd (Answer.result_eq_ok_iff.1 result) failed
    | error e => exact ⟨e, rfl⟩
  obtain ⟨request, handed⟩ := step_to_aloft plan sending nonempty clock
  have merged : w.run plan (.proceed clock :: calls ++ [.answer answer now]) =
      (w.unlocked.run plan calls).map (w.afterFailure plan clock now e) := by
    rw [List.cons_append, run, handed, Option.bind_some, run_append, run_aloft rfl callers]
    cases called : w.unlocked.run plan calls with
    | none => rfl
    | some u =>
      have answered := step_from_aloft request (aside_of_run callers called) unretried
        more error clock now
      exact run_cons_eq_some.2 ⟨_, answered, rfl⟩
  refine ⟨e, error, merged, fun v ranTo => ?_⟩
  rw [merged] at ranTo
  obtain ⟨u, called, rfl⟩ := Option.map_eq_some_iff.1 ranTo
  have aside := (aside_of_run callers called).callers
  constructor
  · refine tellings_append.trans ?_
    rw [tellings_append, tellings_append, tellings_eq_nil aside, List.append_nil]
    exact (List.append_nil _).trans (List.append_nil _)
  · refine settlements_append.trans ?_
    rw [settlements_append, settlements_append, settlements_eq_nil aside, List.append_nil]
    exact (List.append_nil _).trans (List.append_nil _)

/-- A batch of two is about to be sent, with a third event queued behind it. -/
def aboutToSend : List (Action Unit) :=
  [.enqueue (.new "track" "") noon, .enqueue (.new "page" "") noon, .enqueue (.new "page" "") noon,
    .proceed noon, .proceed noon, .proceed noon]

/-- The queue is scrubbed and filled again, and a caller waits and looks, all during an attempt. -/
def meddling : List (Action Unit) :=
  [.enterWait 0, .scrub .caller, .recheck 0, .enqueue (.new "group" "") noon, .setHandler (some ()),
    .flush]

theorem failed_attempt_keeps_all_meddling : ∃ start w u v,
    World.opened smallSettings ⟨none, none⟩ none = .ok (smallPlan, start) ∧
      start.run smallPlan aboutToSend = some w ∧ w.worker = .holding .sending ∧
    w.backlog.failures < smallPlan.policy.maxRetries ∧ (∀ a ∈ meddling, a.isWorkers = false) ∧
      (w.unlocked.run smallPlan meddling = some u ∧ u.backlog.queue.length = 1 ∧
        u.backlog.waiters = 1) ∧
      w.run smallPlan (.proceed noon :: meddling ++ [.answer (.response ⟨503, ""⟩) 5]) = some v ∧
        v = w.afterFailure smallPlan noon 5 (.status 503 "") u ∧
          tellings v.journal = tellings w.journal := by
  have ends : ((begun (none : Option Unit) smallSettings.batchUrl).run smallPlan aboutToSend).any
      (fun w => w.worker.isSending = true ∧ w.backlog.failures = 0 ∧
        (w.unlocked.run smallPlan meddling).any fun u => u.backlog.queue.length = 1 ∧
          u.backlog.waiters = 1) = true := by
    decide +kernel
  obtain ⟨w, ran, hw⟩ := (Option.any_eq_true _ _).1 ends
  obtain ⟨sending, unfailed, hu⟩ := of_decide_eq_true hw
  obtain ⟨u, called, found⟩ := (Option.any_eq_true _ _).1 hu
  have opened : World.opened smallSettings ⟨none, none⟩ (none : Option Unit) =
      .ok (smallPlan, begun none smallSettings.batchUrl) := rfl
  have sending := Worker.isSending_iff.1 sending
  have more : w.backlog.failures < smallPlan.policy.maxRetries := by rw [unfailed]; decide
  have callers : ∀ a ∈ meddling, a.isWorkers = false := by simp [meddling, Action.isWorkers]
  have failed : ¬∃ r, Answer.response ⟨503, ""⟩ = .response r ∧ 200 ≤ r.status ∧ r.status < 300 := by
    simp
  obtain ⟨e, error, merged, silent⟩ :=
    failed_attempt_keeps_all opened ran sending more callers failed noon 5
  cases error
  rw [called] at merged
  exact ⟨_, w, u, _, opened, ran, sending, more, callers, ⟨called, of_decide_eq_true found⟩, merged, rfl,
    (silent _ merged).1⟩

end World

end Courier
