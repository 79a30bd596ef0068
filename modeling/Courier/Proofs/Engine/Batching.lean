import Courier.Proofs.Delivery.Bounds
import Courier.Proofs.Delivery.Partition
import Courier.Proofs.Engine.Phases
import Courier.Proofs.Ledger.Conservation

/-! Which events are sent together does not depend on when the worker gets to run. What is settled
and what is held, with all that is still to come, make up the same batches after every step. -/
namespace Courier

variable {η : Type}

def Action.offered? : Action η → Option Event
  | enqueue e _ => some e
  | _ => none

/-- Neither has anything sent nor has it dropped. -/
def Action.isQuiet : Action η → Bool
  | flush => false
  | scrub _ => false
  | enterWait _ => false
  | _ => true

def Plan.partition (plan : Plan) (events : List Event) : List (List Event) :=
  Backlog.partition plan.envelope plan.flushCount plan.flushSize events

def Plan.batches (plan : Plan) (batch queue : List Event) : List (List Event) :=
  Backlog.batches plan.envelope plan.flushCount plan.flushSize batch queue

namespace World

open Backlog Journal

def isEarly (w : World η) : Action η → Bool
  | .proceed clock => !w.worker.isDeciding || w.backlog.schedule.flush.all (clock.now < ·)
  | _ => true

/-- All decisions of a run are taken before the flush deadline of their time. -/
def decidesEarly (plan : Plan) : World η → List (Action η) → Bool
  | _, [] => true
  | w, a :: actions => w.isEarly a && (w.step plan a).all fun w => decidesEarly plan w actions

instance (w : World η) : Decidable w.Frozen := inferInstanceAs (Decidable (_ ∨ _))

/-- What the batch at hand and the events behind it are sent as, if `rest` is still to come. -/
def outlook (plan : Plan) (rest : List Event) (w : World η) : List (List Event) :=
  if w.Frozen then w.backlog.batch :: plan.partition (w.backlog.queue ++ rest)
  else plan.batches w.backlog.batch (w.backlog.queue ++ rest)

/-- All batches of a run up to its end, apart from when their events are sent. -/
def prospect (plan : Plan) (rest : List Event) (w : World η) : List (List Event) :=
  contents w.settledBatches ++ contents (w.outlook plan rest)

variable {plan : Plan} {w w' : World η} {a : Action η} {rest : List Event}

theorem outlook_of_frozen (h : w.Frozen) :
    w.outlook plan rest = w.backlog.batch :: plan.partition (w.backlog.queue ++ rest) :=
  if_pos h

theorem outlook_of_growing (h : ¬w.Frozen) :
    w.outlook plan rest = plan.batches w.backlog.batch (w.backlog.queue ++ rest) :=
  if_neg h

/-! ### Steps -/

theorem outlook_congr {rest' : List Event} (batch : w'.backlog.batch = w.backlog.batch)
    (queue : w'.backlog.queue ++ rest' = w.backlog.queue ++ rest) (frozen : w'.Frozen ↔ w.Frozen) :
    w'.outlook plan rest' = w.outlook plan rest := by
  simp only [outlook, batch, queue, frozen]

theorem prospect_congr {rest' : List Event} (settled : settlements w'.journal = settlements w.journal)
    (outlook : w'.outlook plan rest' = w.outlook plan rest) :
    w'.prospect plan rest' = w.prospect plan rest := by
  rw [prospect, prospect, settledBatches, settledBatches, settled, outlook]

theorem Call.prospect_eq (hc : Call plan w a w') (noScrub : a.isScrub = false) (rest : List Event) :
    w'.prospect plan rest = w.prospect plan (a.accepted?.toList ++ rest) := by
  have same := hc.untouched
  obtain ⟨facts, hj, hf⟩ := same.journal
  have settled : settlements w'.journal = settlements w.journal := by
    rw [hj, settlements_append, settlements_eq_nil hf, List.append_nil]
  refine prospect_congr settled (outlook_congr same.batch ?_ hc.frozen_iff)
  cases hc with
  | enqueue e clock => exact List.append_assoc _ _ _
  | scrub => cases noScrub
  | _ => rfl

/-- A batch that is decided upon for the first time, by `w` going on to `w'`, takes no more events. -/
def Whole (plan : Plan) (rest : List Event) (w w' : World η) : Prop :=
  w.worker = .holding .deciding → w'.worker = .holding .sending → w.backlog.schedule.retry = none →
    plan.Full w.backlog.batch w.backlog.queue ∨ w.backlog.queue ++ rest = []

theorem not_frozen (apart : w.worker.isAttempting = false) (retry : w.backlog.schedule.retry = none) :
    ¬w.Frozen := by
  rintro (attempting | pending)
  · exact Bool.false_ne_true (apart.symm.trans attempting)
  · rw [retry] at pending
    cases pending

private theorem prospect_settle {f : Fact η} {handler : Option η} {outcome : Outcome}
    (frozen : w.Frozen) (hf : settlements [f] = [])
    (journal : w'.journal = w.journal ++ [f] ++ [.settled w.backlog.batch handler outcome])
    (batch : w'.backlog.batch = []) (queue : w'.backlog.queue = w.backlog.queue)
    (growing : ¬w'.Frozen) : w'.prospect plan rest = w.prospect plan rest := by
  have settled : w'.settledBatches = w.settledBatches ++ [w.backlog.batch] := by
    rw [settledBatches, journal, settlements_append, settlements_append, hf, List.append_nil,
      settlements_settled, List.map_append]
    rfl
  have outlook : w.outlook plan rest = w.backlog.batch :: w'.outlook plan rest := by
    rw [outlook_of_frozen frozen, outlook_of_growing growing, batch, queue]
    rfl
  rw [prospect, prospect, settled, outlook, contents, List.map_append, List.append_assoc]
  rfl

private theorem prospect_decide (phased : Phased plan w) (deciding : w.worker = .holding .deciding)
    (sending : w'.worker = .holding .sending) (journal : w'.journal = w.journal)
    (batch : w'.backlog.batch = w.backlog.batch) (queue : w'.backlog.queue = w.backlog.queue)
    (whole : Whole plan rest w w') : w'.prospect plan rest = w.prospect plan rest := by
  have frozen : w'.Frozen := .inl (by rw [sending]; rfl)
  have nonempty : w.backlog.batch ≠ [] := phased.held (by rw [deciding]; rfl)
  refine prospect_congr (congrArg settlements journal) ?_
  rw [outlook_of_frozen frozen, batch, queue]
  -- A batch that is sent again was frozen before; a new one is frozen now, and must be complete.
  cases retry : w.backlog.schedule.retry with
  | some deadline => exact (outlook_of_frozen (.inr (by rw [retry]; rfl))).symm
  | none =>
    rw [outlook_of_growing (not_frozen (by rw [deciding]; rfl) retry)]
    rcases whole deciding sending retry with full | last
    · exact (full.batches_eq nonempty rest).symm
    · rw [last, Plan.batches, batches_of_none_queued nonempty, Plan.partition, Backlog.partition]

private theorem prospect_assemble (roomy : 0 < plan.flushCount) (growing : ¬w.Frozen)
    (growing' : ¬w'.Frozen) (journal : w'.journal = w.journal)
    (backlog : w'.backlog = w.backlog.assemble plan.envelope plan.flushCount plan.flushSize) :
    w'.prospect plan rest = w.prospect plan rest := by
  refine prospect_congr (congrArg settlements journal) ?_
  rw [outlook_of_growing growing, outlook_of_growing growing', backlog]
  exact batches_grow roomy _ _ rest

private theorem prospect_attempt {time : String} {facts : List (Fact η)} (frozen : w.Frozen)
    (frozen' : w'.Frozen) (backlog : w'.backlog = w.backlog.stampBatch time)
    (journal : w'.journal = w.journal ++ facts) (unsettled : settlements facts = []) :
    w'.prospect plan rest = w.prospect plan rest := by
  have settled : w'.settledBatches = w.settledBatches := by
    rw [settledBatches, journal, settlements_append, unsettled, List.append_nil]
    rfl
  rw [prospect, prospect, settled, outlook_of_frozen frozen, outlook_of_frozen frozen', backlog]
  simp only [contents, stampBatch, List.map_cons, List.map_map]
  rfl

theorem Turn.prospect_eq (ht : Turn plan w a w') (roomy : 0 < plan.flushCount)
    (phased : Phased plan w) (whole : Whole plan rest w w') :
    w'.prospect plan rest = w.prospect plan rest := by
  have keep {facts : List (Fact η)} (journal : w'.journal = w.journal ++ facts)
      (unsettled : settlements facts = []) (batch : w'.backlog.batch = w.backlog.batch)
      (queue : w'.backlog.queue = w.backlog.queue) (frozen : w'.Frozen ↔ w.Frozen) :
      w'.prospect plan rest = w.prospect plan rest := by
    refine prospect_congr ?_ (outlook_congr batch (by rw [queue]) frozen)
    rw [journal, settlements_append, unsettled, List.append_nil]
  have unretried (drained : w.backlog.isDrained = true) : w.backlog.schedule.retry = none := by
    rw [← Option.not_isSome_iff_eq_none]
    exact fun pending => phased.retried pending (Backlog.isDrained_iff.1 drained).2.1
  cases ht with
  | start clock at_ | tell clock at_ => exact keep rfl rfl rfl rfl (frozen_congr (by rw [at_]; rfl) rfl)
  | rouse clock at_ | wake clock at_ | resume clock at_ | drain clock at_ | backOff clock at_
  | wait clock at_ | endReport clock at_ =>
    exact keep (List.append_nil _).symm rfl rfl rfl (frozen_congr (by rw [at_]; rfl) rfl)
  | hear v at_ =>
    exact keep rfl (by cases v <;> rfl) rfl rfl (frozen_congr (by rw [at_]; rfl) rfl)
  | rest clock at_ drained =>
    exact keep rfl rfl rfl rfl (frozen_congr (by rw [at_]; rfl) (unretried drained).symm)
  | stop clock at_ drained =>
    exact keep (List.append_assoc _ _ _) rfl rfl rfl
      (frozen_congr (by rw [at_]; rfl) (unretried drained).symm)
  | retry answer now at_ =>
    exact keep rfl rfl rfl rfl
      (iff_of_true (.inr (Schedule.isSome_armRetry _ _)) (.inl (by rw [at_]; rfl)))
  | assemble clock at_ undrained retry =>
    refine prospect_assemble roomy (not_frozen (by rw [at_]; rfl) retry) ?_ rfl rfl
    exact not_frozen rfl retry
  | decide clock at_ => exact prospect_decide phased at_ rfl rfl rfl rfl whole
  | skip clock at_ empty => exact absurd empty (phased.held (by rw [at_]; rfl))
  | attempt clock at_ => exact prospect_attempt (.inl (by rw [at_]; rfl)) (.inl rfl) rfl rfl rfl
  | deliver answer now at_ | giveUp answer now at_ =>
    have attempting : w.worker.isAttempting = true := by rw [at_]; rfl
    refine prospect_settle (.inl attempting) rfl rfl rfl rfl ?_
    exact not_frozen rfl (phased.attempting attempting)

theorem step_prospect (roomy : 0 < plan.flushCount) (hr : Reachable plan w)
    (h : w.step plan a = some w') (noScrub : a.isScrub = false) (whole : Whole plan rest w w') :
    w'.prospect plan rest = w.prospect plan (a.accepted?.toList ++ rest) := by
  rcases call_or_turn h with hc | ht
  · exact hc.prospect_eq noScrub rest
  · rw [ht.prospect_eq roomy (Phased.of_reachable roomy hr) whole]
    cases ht <;> rfl

/-! ### Before anybody waits -/

/-- Nobody has asked for anything to be sent: only a full batch is to be sent at once. -/
structure Unhurried (plan : Plan) (w : World η) : Prop where
  callers : w.callers = []
  waiters : w.backlog.waiters = 0
  needFlush : w.backlog.needFlush = true →
    w.worker = .holding .deciding ∧ plan.Full w.backlog.batch w.backlog.queue
  unreleased : ∀ id, .released id ∉ w.journal

namespace Unhurried

theorem begun (handler : Option η) (url : String) : Unhurried plan (begun handler url) where
  callers := rfl
  waiters := rfl
  needFlush := fun h => nomatch h
  unreleased := fun id h => by simp [World.begun, World.note, World.new] at h

theorem call (h : Unhurried plan w) (hc : Call plan w a w') (quiet : a.isQuiet = true) :
    Unhurried plan w' := by
  have calm : w.backlog.needFlush = false := by
    rw [← Bool.not_eq_true]
    intro asked
    have free := hc.free.1
    rw [(h.needFlush asked).1] at free
    cases free
  cases hc with
  | flush | scrub | passWait | enterWait => cases quiet
  | leaveWait id free isParked | stayWait id free isParked =>
    rw [h.callers] at isParked
    cases isParked
  | enqueue e clock =>
    refine ⟨h.callers, h.waiters, fun asked => ?_, fun id released => ?_⟩
    · exact absurd (calm.symm.trans asked) Bool.false_ne_true
    · exact h.unreleased id (by simpa using released)
  | setHandler | close =>
    refine ⟨h.callers, h.waiters, fun asked => ?_, h.unreleased⟩
    exact absurd (calm.symm.trans asked) Bool.false_ne_true

theorem turn (h : Unhurried plan w) (ht : Turn plan w a w') : Unhurried plan w' := by
  have calm (apart : w.worker ≠ .holding .deciding) : w.backlog.needFlush = false := by
    rw [← Bool.not_eq_true]
    exact fun asked => apart (h.needFlush asked).1
  constructor
  · cases ht with
    | rest | stop =>
      change w.callers.map _ = []
      rw [h.callers]
      rfl
    | _ => exact h.callers
  · cases ht <;> exact h.waiters
  · intro asked
    cases ht with
    | assemble clock at_ =>
      have unasked := calm (by rw [at_]; nofun)
      rcases w.backlog.assemble_needFlush.1 asked with old | stopped
      · cases unasked.symm.trans old
      · exact ⟨rfl, full_of_grow stopped⟩
    | decide => cases asked
    | wait clock at_ early =>
      rw [Backlog.isUrgent, show w.backlog.needFlush = true from asked] at early
      cases early
    | start clock at_ | rouse clock at_ | wake clock at_ | rest clock at_ | stop clock at_
    | resume clock at_ | drain clock at_ | backOff clock at_ | skip clock at_ | attempt clock at_
    | deliver answer now at_ | retry answer now at_ | giveUp answer now at_ | tell clock at_
    | hear v at_ | endReport clock at_ =>
      cases (calm (by rw [at_]; nofun)).symm.trans asked
  · obtain ⟨facts, hj, hf⟩ := ht.journal_append
    intro id released
    rw [hj] at released
    rcases List.mem_append.1 released with old | new
    · exact h.unreleased id old
    · cases hf _ new

theorem whole (h : Unhurried plan w) (hstep : w.step plan a = some w') (early : w.isEarly a = true) :
    Whole plan rest w w' := by
  intro deciding sending retry
  obtain ⟨clock, rfl, rfl⟩ := eq_decide_of_step hstep deciding
  refine .inl (h.needFlush ?_).2
  by_contra unasked
  have unasked := Bool.not_eq_true _ ▸ unasked
  have ahead : w.backlog.schedule.flush.all (clock.now < ·) = true := by
    simpa [isEarly, deciding, Worker.isDeciding] using early
  have undue := Schedule.isDue_of_unretried retry ahead
  rw [decide_of_early (by rw [Backlog.isUrgent, unasked, h.waiters, undue]; rfl)] at sending
  cases sending

end Unhurried

theorem accepted_cons (a : Action η) (actions : List (Action η)) :
    (a :: actions).filterMap Action.accepted? =
      a.accepted?.toList ++ actions.filterMap Action.accepted? := by
  rw [List.filterMap_cons]
  cases a.accepted? <;> rfl

/-- As long as nobody waits, what comes of a run is settled by the events that it accepts. -/
theorem prospect_of_run (roomy : 0 < plan.flushCount) {actions : List (Action η)}
    (hr : Reachable plan w) (unhurried : Unhurried plan w) (quiet : ∀ a ∈ actions, a.isQuiet = true)
    (early : decidesEarly plan w actions = true) (ran : w.run plan actions = some w') :
    Unhurried plan w' ∧
      w'.prospect plan [] = w.prospect plan (actions.filterMap Action.accepted?) := by
  induction actions generalizing w with
  | nil =>
    cases Option.some.inj ran
    exact ⟨unhurried, rfl⟩
  | cons a actions ih =>
    obtain ⟨u, hstep, ran⟩ := run_cons_eq_some.1 ran
    obtain ⟨quietNow, quiet⟩ := List.forall_mem_cons.1 quiet
    obtain ⟨earlyNow, early⟩ := Bool.and_eq_true_iff.1 early
    rw [hstep] at early
    have unhurried' : Unhurried plan u :=
      (call_or_turn hstep).elim (unhurried.call · quietNow) unhurried.turn
    obtain ⟨last, same⟩ := ih (hr.step hstep) unhurried' quiet early ran
    have noScrub : a.isScrub = false := by
      cases a <;> first | rfl | cases quietNow
    refine ⟨last, same.trans ?_⟩
    rw [accepted_cons]
    exact step_prospect roomy hr hstep noScrub (unhurried.whole hstep earlyNow)

/-! ### While somebody waits -/

def Relieved (w : World η) : Prop :=
  (∃ id, .released id ∈ w.journal) → w.backlog.queue = [] ∧ w.backlog.batch = []

theorem Relieved.call (h : Relieved w) (hc : Call plan w a w') (nothingNew : a.accepted? = none) :
    Relieved w' := by
  rintro ⟨id, released⟩
  have old {facts : List (Fact η)} (hj : w'.journal = w.journal ++ facts)
      (hf : .released id ∉ facts) : w.backlog.queue = [] ∧ w.backlog.batch = [] :=
    h ⟨id, (List.mem_append.1 (hj ▸ released)).resolve_right hf⟩
  cases hc with
  | enqueue => cases nothingNew
  | passWait id free isNew drained | leaveWait id free isParked drained =>
    obtain ⟨queue, batch, -⟩ := Backlog.isDrained_iff.1 drained
    exact ⟨queue, batch⟩
  | scrub => exact ⟨rfl, (old rfl (by simp)).2⟩
  | flush => exact old rfl (by simp)
  | setHandler | enterWait | stayWait | close => exact h ⟨id, released⟩

theorem Relieved.turn (h : Relieved w) (ht : Turn plan w a w') : Relieved w' := by
  rintro ⟨id, released⟩
  obtain ⟨facts, hj, hf⟩ := ht.journal_append
  rw [hj] at released
  rcases List.mem_append.1 released with old | new
  · exact ht.none_left (h ⟨id, old⟩)
  · cases hf _ new

theorem Phased.whole (h : Phased plan w) : Whole plan [] w w' := by
  rintro deciding - retry
  rw [List.append_nil]
  rcases h.ready deciding with pending | queue | ⟨-, full⟩
  · rw [retry] at pending
    cases pending
  · exact .inr queue
  · exact .inl full

theorem settled_of_run (roomy : 0 < plan.flushCount) {actions : List (Action η)}
    (hr : Reachable plan w) (relieved : Relieved w)
    (quiet : ∀ a ∈ actions, a.accepted? = none ∧ a.isScrub = false)
    (ran : w.run plan actions = some w') {id : Nat} (returned : .released id ∈ w'.journal) :
    contents w'.settledBatches = w.prospect plan [] := by
  let Kept (u : World η) : Prop :=
    Reachable plan u ∧ Relieved u ∧ u.prospect plan [] = w.prospect plan []
  obtain ⟨hr', relieved', same⟩ : Kept w' := by
    refine run_invariant (I := Kept) ?_ ⟨hr, relieved, rfl⟩ ran
    rintro a ha u u' ⟨hu, relieved, same⟩ hstep
    obtain ⟨nothingNew, noScrub⟩ := quiet a ha
    refine ⟨hu.step hstep, (call_or_turn hstep).elim (relieved.call · nothingNew) relieved.turn, ?_⟩
    rw [step_prospect roomy hu hstep noScrub (Phased.of_reachable roomy hu).whole, nothingNew]
    exact same
  -- With nothing held, all that the prospect is made of has been settled.
  obtain ⟨queue, batch⟩ := relieved' ⟨id, returned⟩
  have phased := Phased.of_reachable roomy hr'
  have growing : ¬w'.Frozen := by
    rintro (attempting | pending)
    · exact phased.held (Worker.hasBatch_of_isAttempting attempting) batch
    · exact phased.retried pending batch
  rw [← same, prospect, outlook_of_growing growing, queue, batch]
  simp [Plan.batches, batches_nil, Backlog.partition, contents]

/-! ### All batches -/

/-- The batches that were settled are the partition of the events that were accepted, and that does
not depend on when these were. -/
structure SettledGreedily (plan : Plan) (actions : List (Action η)) (w : World η) : Prop where
  accepted : contents w.settledBatches =
    contents (plan.partition (actions.filterMap Action.accepted?))
  offered : (∀ a ∈ actions, a.IsStamped) → ∀ time, Time.IsStamp time → contents w.settledBatches =
    contents (plan.partition ((actions.filterMap Action.offered?).map (Event.stamp time)))

theorem settledGreedily_of_accepted {actions : List (Action η)} (accepted : contents w.settledBatches =
    contents (plan.partition (actions.filterMap Action.accepted?))) :
    SettledGreedily plan actions w := by
  refine ⟨accepted, fun stamps time hm => accepted.trans ?_⟩
  refine contents_partition_congr ?_ ?_ ?_
  · intro e he
    obtain ⟨a, ha, hae⟩ := List.mem_filterMap.1 he
    cases a with
    | enqueue e' clock =>
      cases hae
      exact e'.isStamped_stamp (stamps _ ha clock rfl)
    | _ => cases hae
  · intro e he
    obtain ⟨e', -, rfl⟩ := List.mem_map.1 he
    exact e'.isStamped_stamp hm
  · rw [List.map_map, List.map_filterMap, List.map_filterMap]
    refine congrArg (List.filterMap · actions) (funext fun a => ?_)
    cases a <;> rfl

variable {start : World η}

/-- A flush that was waited for has sent the greedy partition of the events, if nothing was sent
before it for its age or on demand. -/
theorem settled_greedily {settings : Settings} {env : Envelope} {handler : Option η}
    {before after : List (Action η)} {id : Nat}
    (opened : World.opened settings env handler = .ok (plan, start))
    (quiet : ∀ a ∈ before, a.isQuiet = true) (early : decidesEarly plan start before = true)
    (nothingNew : ∀ a ∈ after, a.accepted? = none ∧ a.isScrub = false)
    (ran : start.run plan (before ++ .enterWait id :: after) = some w)
    (returned : .released id ∈ w.journal) : SettledGreedily plan before w := by
  have roomy := flushCount_pos_of_opened opened
  obtain ⟨-, rfl, -⟩ := eq_begun_of_opened opened
  obtain ⟨u, ranBefore, ran⟩ := run_append_eq_some.1 ran
  have fresh : Reachable plan (begun handler settings.batchUrl) := .of_begun handler settings.batchUrl
  have hu : Reachable plan u := fresh.trans ⟨before, ranBefore⟩
  obtain ⟨unhurried, same⟩ :=
    prospect_of_run roomy fresh (Unhurried.begun handler settings.batchUrl) quiet early ranBefore
  have relieved : Relieved u := fun ⟨id, released⟩ => absurd released (unhurried.unreleased id)
  have settled := settled_of_run roomy hu relieved
    (List.forall_mem_cons.2 ⟨⟨rfl, rfl⟩, nothingNew⟩) ran returned
  refine settledGreedily_of_accepted (settled.trans (same.trans ?_))
  rw [prospect, outlook_of_growing (not_frozen rfl rfl)]
  rfl

/-- A batch grows in two steps, fails and waits for its retry with a third event behind it. -/
def grownInSteps : List (Action Unit) :=
  [.enqueue (.new "track" "") noon, .proceed noon, .proceed noon, .proceed noon,
    .enqueue (.new "page" "") noon, .proceed noon, .proceed noon, .proceed noon, .proceed noon,
    .enqueue (.new "page" "") noon, .answer .panicked 0, .proceed noon, .proceed noon]

def sentWhileWaiting : List (Action Unit) :=
  [.proceed noon, .proceed noon, .proceed noon, .proceed noon, .answer (.response ⟨200, ""⟩) 0,
    .proceed noon, .proceed noon, .proceed noon, .proceed noon, .answer (.response ⟨200, ""⟩) 0,
    .proceed noon, .proceed noon, .proceed noon, .recheck 0]

theorem settled_greedily_grownInSteps : ∃ start w, World.opened smallSettings ⟨none, none⟩ none =
      .ok (smallPlan, start) ∧
    start.run smallPlan (grownInSteps ++ .enterWait 0 :: sentWhileWaiting) = some w ∧
      (.released 0 ∈ w.journal ∧ w.settledBatches.map (·.length) = [2, 1]) ∧
        SettledGreedily smallPlan grownInSteps w := by
  have ends : ((begun none smallSettings.batchUrl).run smallPlan
      (grownInSteps ++ .enterWait 0 :: sentWhileWaiting)).any (fun w =>
        (w.journal.any fun f => match f with
          | .released id => id == 0
          | _ => false) = true ∧ w.settledBatches.map (·.length) = [2, 1]) = true := by decide +kernel
  obtain ⟨w, ran, hw⟩ := (Option.any_eq_true _ _).1 ends
  obtain ⟨released, lengths⟩ := of_decide_eq_true hw
  obtain ⟨f, hf, isReleased⟩ := List.any_eq_true.1 released
  have returned : .released 0 ∈ w.journal := by
    cases f with
    | released id => exact eq_of_beq isReleased ▸ hf
    | _ => cases isReleased
  have opened : World.opened smallSettings ⟨none, none⟩ (none : Option Unit) =
      .ok (smallPlan, begun none smallSettings.batchUrl) := rfl
  have quiet : ∀ a ∈ grownInSteps, a.isQuiet = true := by simp [grownInSteps, Action.isQuiet]
  have early : decidesEarly smallPlan (begun none smallSettings.batchUrl) grownInSteps = true := by
    decide +kernel
  have nothingNew : ∀ a ∈ sentWhileWaiting, a.accepted? = none ∧ a.isScrub = false := by
    simp [sentWhileWaiting, Action.accepted?, Action.isScrub]
  exact ⟨_, w, opened, ran, ⟨returned, lengths⟩,
    settled_greedily opened quiet early nothingNew ran returned⟩

end World

end Courier
