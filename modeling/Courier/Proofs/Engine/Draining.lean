import Courier.Proofs.Engine.Callers
import Courier.Proofs.Engine.Completion
import Courier.Proofs.Engine.Wakeups

/-! Waiting comes to an end. While a caller waits and nothing more is accepted, each step of the worker
uses up some of what is left to do, whatever the transport answers and handlers do: an attempt of those
that are left, an event that is to be settled or told, or a phase on the way to the next of these. -/
namespace Courier

variable {η : Type}

def Action.isWorkers : Action η → Bool
  | proceed _ => true
  | answer _ _ => true
  | verdict _ => true
  | _ => false

namespace Worker

def isIdle : Worker η → Bool
  | holding .idle => true
  | resting _ => true
  | _ => false

/-- Grows less as the worker goes on, but for what an attempt and a settlement add. -/
def rank : Worker η → Nat
  | starting => 4
  | holding .idle => 4
  | holding .assembling => 3
  | holding .deciding => 2
  | holding .sending => 1
  | resting _ => 4
  | waiting _ _ => 4
  | calling _ => 4
  | reporting _ _ rest => 2 * rest.length + 4
  | inHandler _ _ _ rest => 2 * rest.length + 5
  | terminated => 0

@[simp] theorem rank_notify (w : Worker η) : w.notify.rank = w.rank := by
  cases w <;> rfl

end Worker

namespace World

open Journal

def triesLeft (plan : Plan) (w : World η) : Nat :=
  if w.backlog.batch.isEmpty then 0
  else plan.policy.maxRetries + 1 - (w.backlog.failures + if w.worker.isCalling then 1 else 0)

/-- Attempts that all that is held may still take; at worst every event is sent by itself. -/
def attemptsLeft (plan : Plan) (w : World η) : Nat :=
  (plan.policy.maxRetries + 1) * w.backlog.queue.length + w.triesLeft plan

def stepsLeft (plan : Plan) (w : World η) : Nat :=
  4 * w.attemptsLeft plan + 3 * (w.backlog.batch.length + w.backlog.queue.length) + w.worker.rank

def AtRest (w : World η) : Prop := w.worker.isIdle = true ∧ w.backlog.isDrained = true

variable {plan : Plan} {w w' : World η} {a : Action η}

theorem triesLeft_of_nil (empty : w.backlog.batch = []) : w.triesLeft plan = 0 := by
  rw [triesLeft, empty]
  rfl

theorem triesLeft_of_ne_nil (nonempty : w.backlog.batch ≠ []) : w.triesLeft plan =
    plan.policy.maxRetries + 1 - (w.backlog.failures + if w.worker.isCalling then 1 else 0) :=
  if_neg (mt List.isEmpty_iff.1 nonempty)

theorem triesLeft_le : w.triesLeft plan ≤ (plan.policy.maxRetries + 1) * w.backlog.batch.length := by
  by_cases empty : w.backlog.batch = []
  · rw [triesLeft_of_nil empty]
    exact Nat.zero_le _
  · rw [triesLeft_of_ne_nil empty]
    exact Nat.le_trans (Nat.sub_le _ _) (Nat.le_mul_of_pos_right _ (List.length_pos_iff.2 empty))

theorem attemptsLeft_le : w.attemptsLeft plan ≤ (plan.policy.maxRetries + 1) * w.backlog.pending := by
  calc w.attemptsLeft plan
      ≤ (plan.policy.maxRetries + 1) * w.backlog.queue.length +
          (plan.policy.maxRetries + 1) * w.backlog.batch.length := Nat.add_le_add_left triesLeft_le _
    _ = (plan.policy.maxRetries + 1) * (w.backlog.queue.length + w.backlog.batch.length) :=
        (Nat.mul_add _ _ _).symm
    _ ≤ (plan.policy.maxRetries + 1) * w.backlog.pending :=
        Nat.mul_le_mul_left _ (Nat.le_add_right _ _)

/-! ### What is left after a step -/

theorem Call.length_queue_le (hc : Call plan w a w') (nothingNew : a.accepted? = none) :
    w'.backlog.queue.length ≤ w.backlog.queue.length := by
  cases hc with
  | enqueue => cases nothingNew
  | scrub => exact Nat.zero_le _
  | _ => exact Nat.le_refl _

theorem Call.attemptsLeft_le (hc : Call plan w a w') (nothingNew : a.accepted? = none) :
    w'.attemptsLeft plan ≤ w.attemptsLeft plan := by
  have same := hc.untouched
  have isCalling : w'.worker.isCalling = w.worker.isCalling := by
    rcases same.worker with hw | hw <;> simp [hw]
  have tries : w'.triesLeft plan = w.triesLeft plan := by
    rw [triesLeft, triesLeft, same.batch, same.failures, isCalling]
  rw [attemptsLeft, attemptsLeft, tries]
  exact Nat.add_le_add_right (Nat.mul_le_mul_left _ (hc.length_queue_le nothingNew)) _

theorem Call.stepsLeft_le (hc : Call plan w a w') (nothingNew : a.accepted? = none) :
    w'.stepsLeft plan ≤ w.stepsLeft plan := by
  have same := hc.untouched
  have rank : w'.worker.rank = w.worker.rank := by
    rcases same.worker with hw | hw <;> simp [hw]
  have queue := hc.length_queue_le nothingNew
  have attempts := hc.attemptsLeft_le nothingNew
  rw [stepsLeft, stepsLeft, same.batch, rank]
  omega

theorem attemptsLeft_grow
    (events : w'.backlog.batch ++ w'.backlog.queue = w.backlog.batch ++ w.backlog.queue)
    (grown : w.backlog.batch <+: w'.backlog.batch)
    (failures : w'.backlog.failures = w.backlog.failures)
    (isCalling : w'.worker.isCalling = w.worker.isCalling) :
    w'.attemptsLeft plan ≤ w.attemptsLeft plan := by
  have lengths : w'.backlog.batch.length + w'.backlog.queue.length =
      w.backlog.batch.length + w.backlog.queue.length := by
    rw [← List.length_append, events, List.length_append]
  by_cases empty : w.backlog.batch = []
  · calc w'.attemptsLeft plan
        ≤ (plan.policy.maxRetries + 1) * w'.backlog.queue.length +
            (plan.policy.maxRetries + 1) * w'.backlog.batch.length := Nat.add_le_add_left triesLeft_le _
      _ = (plan.policy.maxRetries + 1) * w.backlog.queue.length := by
          rw [← Nat.mul_add, Nat.add_comm w'.backlog.queue.length, lengths, empty, List.length_nil,
            Nat.zero_add]
      _ ≤ w.attemptsLeft plan := Nat.le_add_right _ _
  · have nonempty : w'.backlog.batch ≠ [] := fun none_left => empty (by simpa [none_left] using grown)
    have queue : w'.backlog.queue.length ≤ w.backlog.queue.length := by
      have longer := grown.length_le
      omega
    have tries : w'.triesLeft plan = w.triesLeft plan := by
      rw [triesLeft_of_ne_nil nonempty, triesLeft_of_ne_nil empty, failures, isCalling]
    rw [attemptsLeft, attemptsLeft, tries]
    exact Nat.add_le_add_right (Nat.mul_le_mul_left _ queue) _

theorem Turn.attemptsLeft_le (counted : Counted plan w) (ht : Turn plan w a w') :
    (attempts w'.journal).length + w'.attemptsLeft plan ≤
      (attempts w.journal).length + w.attemptsLeft plan := by
  have keep {facts : List (Fact η)} (hj : w'.journal = w.journal ++ facts)
      (none_sent : attempts facts = []) (left : w'.attemptsLeft plan ≤ w.attemptsLeft plan) :
      (attempts w'.journal).length + w'.attemptsLeft plan ≤
        (attempts w.journal).length + w.attemptsLeft plan := by
    rw [hj, attempts_append, none_sent, List.append_nil]
    exact Nat.add_le_add_left left _
  have same {p : Worker η} (at_ : w.worker = p) (batch : w'.backlog.batch = w.backlog.batch)
      (queue : w'.backlog.queue = w.backlog.queue)
      (failures : w'.backlog.failures = w.backlog.failures)
      (isCalling : w'.worker.isCalling = p.isCalling) :
      w'.attemptsLeft plan ≤ w.attemptsLeft plan := by
    subst at_
    exact attemptsLeft_grow (by rw [batch, queue]) (batch ▸ List.prefix_refl _) failures isCalling
  have settled (batch : w'.backlog.batch = []) (queue : w'.backlog.queue = w.backlog.queue) :
      w'.attemptsLeft plan ≤ w.attemptsLeft plan := by
    rw [attemptsLeft, triesLeft_of_nil batch, queue]
    exact Nat.add_le_add_left (Nat.zero_le _) _
  cases ht with
  | start clock at_ | tell clock at_ => exact keep rfl rfl (same at_ rfl rfl rfl rfl)
  | rouse clock at_ | wake clock at_ | resume clock at_ | drain clock at_ | backOff clock at_
  | decide clock at_ | wait clock at_ | skip clock at_ | endReport clock at_ =>
    exact keep (List.append_nil _).symm rfl (same at_ rfl rfl rfl rfl)
  | hear v at_ => exact keep rfl (by cases v <;> rfl) (same at_ rfl rfl rfl rfl)
  | rest clock at_ drained =>
    exact keep rfl rfl (settled (Backlog.isDrained_iff.1 drained).2.1 rfl)
  | stop clock at_ drained =>
    exact keep (List.append_assoc _ _ _) rfl (settled (Backlog.isDrained_iff.1 drained).2.1 rfl)
  | assemble clock at_ =>
    refine keep (List.append_nil _).symm rfl (attemptsLeft_grow w.backlog.assemble_events
      (Backlog.prefix_grow _ _) rfl ?_)
    rw [at_]
    rfl
  | attempt clock at_ nonempty =>
    have stamped : w.backlog.batch.map (Event.stamp clock.stamp) ≠ [] :=
      mt List.map_eq_nil_iff.1 nonempty
    have limit := counted.failures_le
    rw [attempts_append, List.length_append, attemptsLeft, attemptsLeft, triesLeft_of_ne_nil stamped,
      triesLeft_of_ne_nil nonempty, at_]
    simp only [Backlog.stampBatch, Worker.isCalling, if_true, Bool.false_eq_true, if_false, attempts,
      List.filterMap_cons, Fact.attempt?, List.filterMap_nil, List.length_singleton]
    omega
  | deliver answer now => exact keep (List.append_assoc _ _ _) rfl (settled rfl rfl)
  | giveUp answer now => exact keep (List.append_assoc _ _ _) rfl (settled rfl rfl)
  | retry answer now at_ =>
    refine keep rfl rfl ?_
    -- The attempt that failed is counted as a failure now, and was as an attempt before.
    rw [attemptsLeft, attemptsLeft, triesLeft, triesLeft, at_]
    exact Nat.le_refl _

theorem sends_of_urgent {clock : Clock} (urgent : w.backlog.isUrgent = true)
    (deciding : w.worker = .holding .deciding) (h : w.step plan (.proceed clock) = some w') :
    w'.worker = .holding .sending := by
  rw [step_of_deciding deciding, decide_of_due (by rw [urgent]; rfl)] at h
  exact Option.some.inj h ▸ rfl

private theorem stepsLeft_of_rank {facts : List (Fact η)} (left : (attempts w'.journal).length +
      w'.attemptsLeft plan ≤ (attempts w.journal).length + w.attemptsLeft plan)
    (hj : w'.journal = w.journal ++ facts) (none_sent : attempts facts = [])
    (length : w'.backlog.batch.length + w'.backlog.queue.length =
      w.backlog.batch.length + w.backlog.queue.length)
    (rank : w'.worker.rank < w.worker.rank) : w'.stepsLeft plan < w.stepsLeft plan := by
  rw [hj, attempts_append, none_sent, List.append_nil] at left
  rw [stepsLeft, stepsLeft, length]
  omega

private theorem stepsLeft_of_settled {f : Fact η} {outcome : Outcome} {request : Request}
    (left : (attempts w'.journal).length + w'.attemptsLeft plan ≤
      (attempts w.journal).length + w.attemptsLeft plan)
    (nonempty : w.backlog.batch ≠ []) (at_ : w.worker = .calling request) (unsent : attempts [f] = [])
    (hj : w'.journal = w.journal ++ [f] ++ [.settled w.backlog.batch w.backlog.handler outcome])
    (worker : w'.worker = .reporting w.backlog.handler outcome w.backlog.batch)
    (batch : w'.backlog.batch = []) (queue : w'.backlog.queue = w.backlog.queue) :
    w'.stepsLeft plan < w.stepsLeft plan := by
  have some_batch : 0 < w.backlog.batch.length := List.length_pos_iff.2 nonempty
  have settlement : attempts [(.settled w.backlog.batch w.backlog.handler outcome : Fact η)] = [] := rfl
  rw [hj, attempts_append, attempts_append, unsent, settlement, List.append_nil,
    List.append_nil] at left
  rw [stepsLeft, stepsLeft, worker, at_, batch, queue]
  simp only [Worker.rank, List.length_nil]
  omega

theorem Turn.stepsLeft_lt (phased : Phased plan w) (counted : Counted plan w)
    (urgent : w.backlog.isDrained = false → w.backlog.isUrgent = true) (restless : ¬w.AtRest)
    (restless' : ¬w'.AtRest) (ht : Turn plan w a w') : w'.stepsLeft plan < w.stepsLeft plan := by
  have left := ht.attemptsLeft_le counted
  have nonempty {p : Worker η} (at_ : w.worker = p) (hasBatch : p.hasBatch = true) :
      w.backlog.batch ≠ [] :=
    phased.held (at_ ▸ hasBatch)
  cases ht with
  | rouse clock at_ | wake clock at_ | resume clock at_ | backOff clock at_ | decide clock at_ =>
    exact stepsLeft_of_rank left (List.append_nil _).symm rfl rfl (by simp [at_, Worker.rank])
  | start clock at_ | retry answer now at_ =>
    exact stepsLeft_of_rank left rfl rfl rfl (by simp [at_, Worker.rank])
  | tell clock at_ =>
    refine stepsLeft_of_rank left rfl rfl rfl ?_
    simp only [at_, Worker.rank, List.length_cons]
    omega
  | hear v at_ =>
    exact stepsLeft_of_rank left rfl (by cases v <;> rfl) rfl (by simp [at_, Worker.rank])
  | endReport clock at_ =>
    refine stepsLeft_of_rank left (List.append_nil _).symm rfl rfl ?_
    simp only [at_, Worker.rank]
    omega
  | assemble clock at_ =>
    refine stepsLeft_of_rank left (List.append_nil _).symm rfl ?_ (by simp [at_, Worker.rank])
    rw [← List.length_append, w.backlog.assemble_events, List.length_append]
  | rest clock at_ drained | stop clock at_ drained =>
    exact absurd ⟨by rw [at_]; rfl, drained⟩ restless
  | drain clock at_ drained => exact absurd ⟨rfl, drained⟩ restless'
  | wait clock at_ early =>
    -- With a batch in hand something is left, so that the worker is urged on.
    rw [urgent (Backlog.undrained_of_batch (nonempty at_ rfl))] at early
    cases early
  | skip clock at_ empty => exact absurd empty (nonempty at_ rfl)
  | attempt clock at_ =>
    rw [attempts_append, List.length_append] at left
    change (attempts w.journal).length + 1 + _ ≤ _ at left
    rw [stepsLeft, stepsLeft, at_]
    simp only [Backlog.stampBatch, Worker.rank, List.length_map] at left ⊢
    omega
  | deliver answer now at_ =>
    exact stepsLeft_of_settled (f := .delivered _) left (nonempty at_ rfl) at_ rfl rfl rfl rfl rfl
  | giveUp answer now at_ =>
    exact stepsLeft_of_settled (f := .gaveUp _ _) left (nonempty at_ rfl) at_ rfl rfl rfl rfl rfl

/-! ### While a caller waits -/

/-- Somebody waits for the end, or it has come. -/
def Awaited (w : World η) : Prop := w.callers ≠ [] ∨ w.backlog.isDrained = true

theorem Turn.drained (ht : Turn plan w a w') (drained : w.backlog.isDrained = true) :
    w'.backlog.isDrained = true := by
  obtain ⟨queue, batch, settling⟩ := Backlog.isDrained_iff.1 drained
  obtain ⟨queue', batch'⟩ := ht.none_left ⟨queue, batch⟩
  refine Backlog.isDrained_iff.2 ⟨queue', batch', ?_⟩
  cases ht with
  | deliver | giveUp => exact List.length_eq_zero_iff.2 batch
  | endReport => rfl
  | _ => exact settling

theorem Awaited.step (h : Awaited w) (nothingNew : a.accepted? = none)
    (hstep : w.step plan a = some w') : Awaited w' := by
  rcases call_or_turn hstep with hc | ht
  · refine h.elim (fun waits => ?_) fun drained => .inr (hc.drained nothingNew drained)
    cases hc with
    | scrub => exact .inl (mt List.map_eq_nil_iff.1 waits)
    | enterWait | stayWait => exact .inl (List.append_ne_nil_of_right_ne_nil _ (List.cons_ne_nil _ _))
    | leaveWait id free parked drained => exact .inr drained
    | enqueue | flush | setHandler | passWait | close => exact .inl waits
  · refine h.elim (fun waits => ?_) fun drained => .inr (ht.drained drained)
    cases ht with
    | rest | stop => exact .inl (mt List.map_eq_nil_iff.1 waits)
    | _ => exact .inl waits

theorem Awaited.isUrgent (h : Awaited w) (attended : Attended w)
    (undrained : w.backlog.isDrained = false) : w.backlog.isUrgent = true := by
  refine attended.isUrgent (h.resolve_right fun drained => ?_)
  exact Bool.false_ne_true (undrained.symm.trans drained)

/-- The worker neither sleeps nor is kept from its next step by what it calls. -/
structure Able (plan : Plan) (w : World η) : Prop where
  awake : w.worker.isAsleep = false
  goesOn : ∀ clock answer now verdict,
    ∃ a ∈ [.proceed clock, .answer answer now, .verdict verdict], ∃ w', w.step plan a = some w'

theorem able_of_restless (attentive : Attentive w) (attended : Attended w) (awaited : Awaited w)
    (restless : ¬w.AtRest) (running : w.worker ≠ .terminated) : Able plan w := by
  constructor
  · cases at_ : w.worker with
    | resting isNotified =>
      cases isNotified with
      | true => rfl
      | false => exact absurd ⟨by rw [at_]; rfl, attentive.drained at_⟩ restless
    | waiting deadline isNotified =>
      cases isNotified with
      | true => rfl
      | false =>
        -- A worker that sleeps through a deadline holds a batch and knows of nobody who waits.
        obtain ⟨unasked, nobody, nonempty, -⟩ := attentive.waiting deadline at_
        have urgent := awaited.isUrgent attended (Backlog.undrained_of_batch nonempty)
        rw [Backlog.isUrgent, unasked, nobody] at urgent
        cases urgent
    | _ => rfl
  · intro clock answer now verdict
    cases at_ : w.worker with
    | calling request => exact ⟨.answer answer now, by simp, by simp [step, at_]⟩
    | inHandler handler outcome e rest => exact ⟨.verdict verdict, by simp, by simp [step, at_]⟩
    | terminated => exact absurd at_ running
    | holding phase => exact ⟨.proceed clock, by simp, by cases phase <;> simp [step, proceed, at_]⟩
    | reporting handler outcome rest =>
      refine ⟨.proceed clock, by simp, ?_⟩
      cases handler <;> cases rest <;> simp [step, proceed, at_]
    | starting | resting | waiting => exact ⟨.proceed clock, by simp, by simp [step, proceed, at_]⟩

def Restless (plan : Plan) (w : World η) (actions : List (Action η)) : Prop :=
  ∀ front back u, actions = front ++ back → w.run plan front = some u → ¬u.AtRest

theorem Restless.of_concat {actions : List (Action η)} (h : Restless plan w (actions ++ [a])) :
    Restless plan w actions := by
  intro front back u split
  exact h front (back ++ [a]) u (by rw [split, List.append_assoc])

theorem Restless.last {actions : List (Action η)} (h : Restless plan w actions)
    (ran : w.run plan actions = some w') : ¬w'.AtRest :=
  h actions [] w' (List.append_nil _).symm ran

theorem Call.isWorkers (hc : Call plan w a w') : a.isWorkers = false := by
  cases hc <;> rfl

/-- What is true of a world that a run leads to in which nothing is accepted, as long as the worker has
not come to rest. -/
structure Toiling (plan : Plan) (w : World η) (actions : List (Action η)) (u : World η) : Prop where
  awaited : Awaited u
  running : u.worker ≠ .terminated
  steps : actions.countP Action.isWorkers + u.stepsLeft plan ≤ w.stepsLeft plan

theorem Toiling.concat {actions : List (Action η)} {u u' : World η} (h : Toiling plan w actions u)
    (roomy : 0 < plan.flushCount) (hu : Reachable plan u) (nothingNew : a.accepted? = none)
    (hstep : u.step plan a = some u') (restless : ¬u.AtRest) (restless' : ¬u'.AtRest) :
    Toiling plan w (actions ++ [a]) u' := by
  refine ⟨h.awaited.step nothingNew hstep, fun ended => ?_, ?_⟩
  · obtain ⟨at_, -, drained, -⟩ := step_to_terminated hstep h.running ended
    exact restless ⟨by rw [at_]; rfl, drained⟩
  · have steps := h.steps
    rw [List.countP_append, List.countP_singleton]
    rcases call_or_turn hstep with hc | ht
    · have left := hc.stepsLeft_le nothingNew
      rw [hc.isWorkers]
      simp only [Bool.false_eq_true, if_false]
      omega
    · have left := ht.stepsLeft_lt (Phased.of_reachable roomy hu) (Counted.of_reachable hu)
        (h.awaited.isUrgent (Attended.of_reachable hu)) restless restless'
      split <;> omega

theorem toiling_of_run (roomy : 0 < plan.flushCount) (hr : Reachable plan w) (waits : w.callers ≠ [])
    (running : w.worker ≠ .terminated) {actions : List (Action η)} {u : World η}
    (ran : w.run plan actions = some u) (nothingNew : ∀ a ∈ actions, a.accepted? = none)
    (restless : Restless plan w actions) : Toiling plan w actions u := by
  refine run_history (I := fun actions u => (∀ a ∈ actions, a.accepted? = none) →
    Restless plan w actions → Toiling plan w actions u) ?_ ?_ ran nothingNew restless
  · exact fun _ _ => ⟨.inl waits, running, by simp⟩
  · intro done u a u' ranTo toiling hstep nothingNew restless
    obtain ⟨nothingNew, last⟩ := List.forall_mem_append.1 nothingNew
    have ran' : w.run plan (done ++ [a]) = some u' :=
      run_append_eq_some.2 ⟨u, ranTo, run_cons_eq_some.2 ⟨u', hstep, rfl⟩⟩
    exact (toiling nothingNew restless.of_concat).concat roomy (hr.trans ⟨done, ranTo⟩)
      (last a (List.mem_singleton_self _)) hstep (restless.of_concat.last ranTo) (restless.last ran')

theorem attempts_of_run (hr : Reachable plan w) {actions : List (Action η)} {u : World η}
    (ran : w.run plan actions = some u) (nothingNew : ∀ a ∈ actions, a.accepted? = none) :
    (attempts u.journal).length + u.attemptsLeft plan ≤
      (attempts w.journal).length + w.attemptsLeft plan := by
  refine (run_invariant (I := fun u => Reachable plan u ∧ (attempts u.journal).length +
    u.attemptsLeft plan ≤ (attempts w.journal).length + w.attemptsLeft plan) ?_
      ⟨hr, Nat.le_refl _⟩ ran).2
  rintro a ha u u' ⟨hu, bound⟩ hstep
  refine ⟨hu.step hstep, Nat.le_trans ?_ bound⟩
  rcases call_or_turn hstep with hc | ht
  · rw [hc.silent.attempts]
    exact Nat.add_le_add_left (hc.attemptsLeft_le (nothingNew a ha)) _
  · exact ht.attemptsLeft_le (Counted.of_reachable hu)

/-! ### Executions without end -/

structure Execution (plan : Plan) (w : World η) where
  world : Nat → World η
  action : Nat → Action η
  start : world 0 = w
  steps : ∀ t, (world t).step plan (action t) = some (world (t + 1))

namespace Execution

variable (x : Execution plan w)

def before (t : Nat) : List (Action η) := (List.range t).map x.action

theorem before_succ (t : Nat) : x.before (t + 1) = x.before t ++ [x.action t] := by
  rw [before, List.range_succ, List.map_append]
  rfl

theorem run_before (t : Nat) : w.run plan (x.before t) = some (x.world t) := by
  induction t with
  | zero => rw [x.start]; rfl
  | succ t ih =>
    rw [before_succ]
    exact run_append_eq_some.2 ⟨_, ih, run_cons_eq_some.2 ⟨_, x.steps t, rfl⟩⟩

theorem eq_before {t : Nat} {front back : List (Action η)} (split : x.before t = front ++ back) :
    front = x.before front.length := by
  have within : front.length ≤ t := by
    have length := congrArg List.length split
    rw [before, List.length_map, List.length_range, List.length_append] at length
    omega
  have taken : front = (x.before t).take front.length := by rw [split, List.take_left]
  rw [taken, before, ← List.map_take, List.take_range, Nat.min_eq_left within, List.length_map,
    List.length_range, before]

theorem restless (never : ∀ t, ¬(x.world t).AtRest) (t : Nat) : Restless plan w (x.before t) := by
  intro front back u split ran
  rw [x.eq_before split, run_before] at ran
  exact Option.some.inj ran ▸ never front.length

def WorkerGoesOn : Prop :=
  ∀ t, ¬(x.world t).AtRest → ∃ s, t ≤ s ∧ (x.action s).isWorkers = true

theorem exists_steps (goesOn : x.WorkerGoesOn) (never : ∀ t, ¬(x.world t).AtRest) (k : Nat) :
    ∃ t, k ≤ (x.before t).countP Action.isWorkers := by
  induction k with
  | zero => exact ⟨0, Nat.zero_le _⟩
  | succ k ih =>
    obtain ⟨t, ht⟩ := ih
    obtain ⟨s, hs, isWorkers⟩ := goesOn t (never t)
    refine ⟨s + 1, ?_⟩
    have earlier : (x.before t).countP Action.isWorkers ≤ (x.before s).countP Action.isWorkers :=
      ((List.range_sublist.2 hs).map x.action).countP_le
    rw [before_succ, List.countP_append, List.countP_singleton, isWorkers, if_pos rfl]
    omega

end Execution

/-- What becomes of a world in which a caller waits and from which on nothing is accepted. -/
structure Drains (plan : Plan) (w : World η) : Prop where
  /-- Before it comes to rest the worker has only so many steps to take, can always take the next one,
  and never decides to wait. -/
  toils : ∀ actions u, w.run plan actions = some u → (∀ a ∈ actions, a.accepted? = none) →
    Restless plan w actions → actions.countP Action.isWorkers ≤ w.stepsLeft plan ∧ Able plan u ∧
      ∀ clock u', u.worker = .holding .deciding → u.step plan (.proceed clock) = some u' →
        u'.worker = .holding .sending
  rests : ∀ x : Execution plan w, (∀ t, (x.action t).accepted? = none) → x.WorkerGoesOn →
    ∃ t, (x.world t).AtRest
  attempts : ∀ actions u, w.run plan actions = some u → (∀ a ∈ actions, a.accepted? = none) →
    (attempts u.journal).length ≤
      (attempts w.journal).length + (plan.policy.maxRetries + 1) * w.backlog.pending

/-- Waiting for everything to be delivered comes to an end. A client is closed by its owner when nobody
waits any more, so that the worker has not ended while a caller waits. -/
theorem draining_ends {settings : Settings} {env : Envelope} {handler : Option η} {start : World η}
    {actions : List (Action η)} (opened : World.opened settings env handler = .ok (plan, start))
    (ran : start.run plan actions = some w) (waits : w.callers ≠ [])
    (running : w.worker ≠ .terminated) : Drains plan w := by
  have roomy := flushCount_pos_of_opened opened
  obtain ⟨-, rfl, -⟩ := eq_begun_of_opened opened
  have hr : Reachable plan w := ⟨handler, settings.batchUrl, actions, ran⟩
  constructor
  · intro more u ranMore nothingNew restless
    have hu : Reachable plan u := hr.trans ⟨more, ranMore⟩
    have attended := Attended.of_reachable hu
    obtain ⟨awaited, running, steps⟩ := toiling_of_run roomy hr waits running ranMore nothingNew restless
    refine ⟨Nat.le_trans (Nat.le_add_right _ _) steps, able_of_restless (Attentive.of_reachable roomy hu)
      attended awaited (restless.last ranMore) running, fun clock u' deciding decides => ?_⟩
    have nonempty := (Phased.of_reachable roomy hu).held (by rw [deciding]; rfl)
    have urgent := awaited.isUrgent attended (Backlog.undrained_of_batch nonempty)
    exact sends_of_urgent urgent deciding decides
  · intro x nothingNew goesOn
    by_contra never
    rw [not_exists] at never
    obtain ⟨t, many⟩ := x.exists_steps goesOn never (w.stepsLeft plan + 1)
    have nothingBefore : ∀ a ∈ x.before t, a.accepted? = none := by
      intro a ha
      obtain ⟨s, -, rfl⟩ := List.mem_map.1 ha
      exact nothingNew s
    have toiling := toiling_of_run roomy hr waits running (x.run_before t) nothingBefore
      (x.restless never t)
    have steps := toiling.steps
    omega
  · intro more u ranMore nothingNew
    have bound := attempts_of_run hr ranMore nothingNew
    have left : w.attemptsLeft plan ≤ (plan.policy.maxRetries + 1) * w.backlog.pending :=
      attemptsLeft_le
    omega

/-- A batch of two waits for its retry, with a third event queued, when a caller begins to wait. -/
def awaitedRun : List (Action Unit) :=
  [.enqueue (.new "track" "") noon, .enqueue (.new "page" "") noon, .enqueue (.new "page" "") noon,
    .proceed noon, .proceed noon, .proceed noon, .proceed noon, .answer .panicked 0, .proceed noon,
    .proceed noon, .enterWait 0]

def failingOn : List (Action Unit) :=
  [.proceed noon, .proceed noon, .proceed noon, .proceed noon, .answer .panicked 0, .proceed noon,
    .proceed noon, .proceed noon, .proceed noon, .answer (.response ⟨500, ""⟩) 0, .proceed noon,
    .proceed noon]

theorem draining_ends_awaitedRun : ∃ start w u, World.opened smallSettings ⟨none, none⟩ none =
      .ok (smallPlan, start) ∧ start.run smallPlan awaitedRun = some w ∧
    w.callers ≠ [] ∧ w.worker ≠ .terminated ∧ Drains smallPlan w ∧
      w.run smallPlan failingOn = some u ∧ u.AtRest ∧
        (attempts w.journal).length = 1 ∧ (attempts u.journal).length = 3 := by
  have ends : ((begun (none : Option Unit) smallSettings.batchUrl).run smallPlan awaitedRun).any
      (fun w => w.callers ≠ [] ∧ w.isTerminated = false ∧ (attempts w.journal).length = 1 ∧
        (w.run smallPlan failingOn).any fun u => u.worker.isIdle = true ∧
          u.backlog.isDrained = true ∧ (attempts u.journal).length = 3) = true := by decide +kernel
  obtain ⟨w, ran, hw⟩ := (Option.any_eq_true _ _).1 ends
  obtain ⟨waits, unended, once, hu⟩ := of_decide_eq_true hw
  obtain ⟨u, ranOn, hu⟩ := (Option.any_eq_true _ _).1 hu
  obtain ⟨idle, drained, thrice⟩ := of_decide_eq_true hu
  have opened : World.opened smallSettings ⟨none, none⟩ (none : Option Unit) =
      .ok (smallPlan, begun none smallSettings.batchUrl) := rfl
  have running : w.worker ≠ .terminated := fun ended =>
    Bool.false_ne_true (unended.symm.trans (isTerminated_iff.2 ended))
  exact ⟨_, w, u, opened, ran, waits, running, draining_ends opened ran waits running, ranOn,
    ⟨idle, drained⟩, once, thrice⟩

end World

end Courier
