import Courier.Proofs.Engine.Phases
import Courier.Proofs.Ledger.Conservation

/-! What a request to flush is worth. The next decision of the worker is to send, and that uses the
request up: events that the batch of that decision leaves in the queue may be kept for the flush
deadline after all. They are left only by a batch that is full or is sent again. -/
namespace Courier.World

variable {η : Type} {plan : Plan} {start w w' v : World η} {a : Action η} {n : Nat}

open Journal Ledger

def queued (w : World η) : List Nat := w.ledger.waiting.drop w.backlog.batch.length

def inBatch (w : World η) : List Nat := w.ledger.waiting.take w.backlog.batch.length

/-- Event number `n` is queued, or in a batch that has not been attempted. -/
def Unattempted (w : World η) (n : Nat) : Prop :=
  n ∈ w.queued ∨ n ∈ w.inBatch ∧ attemptsAtHand w.journal = []

/-- After `actions` the worker decides to wait with no retry pending: for the flush deadline. -/
def WaitsAfter (plan : Plan) (w : World η) (actions : List (Action η)) (v : World η) : Prop :=
  ∃ u clock deadline, w.run plan actions = some u ∧ u.worker = .holding .deciding ∧
    u.step plan (.proceed clock) = some v ∧ v.worker = .waiting deadline false ∧
      v.backlog.schedule.retry = none

/-- No event that was accepted before a flush was asked for is kept for the flush deadline. -/
def FlushCovers (plan : Plan) (start : World η) : Prop :=
  ∀ before w asked after v, start.run plan before = some w → w.step plan .flush = some asked →
    WaitsAfter plan asked after v → ∀ n < w.ledger.accepted.length, ¬v.Unattempted n

/-- The first world of a run in which the worker decides, and what its decision leads to. -/
def FirstDecision (plan : Plan) (w : World η) (actions : List (Action η)) (x y : World η) : Prop :=
  ∃ front clock rest, actions = front ++ .proceed clock :: rest ∧ w.run plan front = some x ∧
    x.worker = .holding .deciding ∧ x.step plan (.proceed clock) = some y ∧
      ∀ earlier a later u, front = earlier ++ a :: later → w.run plan earlier = some u →
        u.worker ≠ .holding .deciding

theorem decide_of_needFlush (asked : w.backlog.needFlush = true) (now : Nat) :
    w.decide now = ⟨w.backlog.beginAttempt, .holding .sending, w.callers, w.journal⟩ :=
  decide_of_due (by rw [Backlog.isUrgent, asked]; rfl)

theorem needFlush_of_step (h : w.step plan a = some w') (asked : w.backlog.needFlush = true)
    (apart : w.worker ≠ .holding .deciding) : w'.backlog.needFlush = true := by
  rcases call_or_turn h with hc | ht
  · cases hc with
    | flush | enterWait | stayWait => rfl
    | _ => exact asked
  · cases ht with
    | assemble => exact w.backlog.assemble_needFlush.2 (.inl asked)
    | decide clock at_ => exact absurd at_ apart
    | _ => exact asked

theorem FirstDecision.cons {x y : World η} {actions : List (Action η)} (h : w.step plan a = some w')
    (apart : w.worker ≠ .holding .deciding) (first : FirstDecision plan w' actions x y) :
    FirstDecision plan w (a :: actions) x y := by
  obtain ⟨front, clock, rest, rfl, ran, deciding, decides, quiet⟩ := first
  refine ⟨a :: front, clock, rest, rfl, run_cons_eq_some.2 ⟨w', h, ran⟩, deciding, decides, ?_⟩
  intro earlier b later u hfront hu
  cases earlier with
  | nil =>
    cases Option.some.inj hu
    exact apart
  | cons c earlier =>
    obtain ⟨rfl, hrest⟩ := List.cons.inj hfront
    obtain ⟨w'', h', hu⟩ := run_cons_eq_some.1 hu
    cases Option.some.inj (h.symm.trans h')
    exact quiet earlier b later u hrest hu

theorem exists_firstDecision {actions : List (Action η)} (ran : w.run plan actions = some v)
    (asked : w.backlog.needFlush = true) (calm : v.backlog.needFlush = false) :
    ∃ x y, FirstDecision plan w actions x y ∧ (y.worker = .holding .sending ∧
      y.journal = x.journal ∧ y.backlog.batch = x.backlog.batch) ∧ Reaches plan w x ∧
        Reaches plan y v := by
  induction actions generalizing w with
  | nil =>
    cases Option.some.inj ran
    cases asked.symm.trans calm
  | cons a actions ih =>
    obtain ⟨w', hstep, ran⟩ := run_cons_eq_some.1 ran
    by_cases deciding : w.worker = .holding .deciding
    · obtain ⟨clock, rfl, rfl⟩ := eq_decide_of_step hstep deciding
      have sends := decide_of_needFlush asked clock.now
      refine ⟨w, _, ⟨[], clock, actions, rfl, rfl, deciding, hstep, ?_⟩, ?_, .refl, actions, ran⟩
      · intro earlier b later u split
        simp at split
      · rw [sends]
        exact ⟨rfl, rfl, rfl⟩
    · have asked' := needFlush_of_step hstep asked deciding
      obtain ⟨x, y, first, sends, hx, hy⟩ := ih ran asked'
      exact ⟨x, y, first.cons hstep deciding, sends, (Reaches.of_step hstep).trans hx, hy⟩

/-! ### Numbers -/

theorem ledger_of_run {actions : List (Action η)} (ran : w.run plan actions = some w') :
    ∃ facts : List (Fact η), w'.ledger = facts.foldl enter w.ledger := by
  obtain ⟨facts, hj⟩ := run_journal ran
  exact ⟨facts, by rw [ledger, hj, ofJournal_append, ← ledger]⟩

theorem mem_waiting_of_reaches (h : Reaches plan w w') (accepted : n < w.ledger.accepted.length)
    (hn : n ∈ w'.ledger.waiting) : n ∈ w.ledger.waiting := by
  obtain ⟨actions, ran⟩ := h
  obtain ⟨facts, hl⟩ := ledger_of_run ran
  rw [hl] at hn
  exact mem_waiting_foldl accepted hn

theorem accepted_le_of_reaches (h : Reaches plan w w') :
    w.ledger.accepted.length ≤ w'.ledger.accepted.length := by
  obtain ⟨actions, ran⟩ := h
  rw [run_accepted ran, List.length_append]
  exact Nat.le_add_right _ _

theorem inBatch_congr {facts : List (Fact η)} (hj : w'.journal = w.journal ++ facts)
    (unmoved : ∀ f ∈ facts, f.isMove = false)
    (length : w'.backlog.batch.length = w.backlog.batch.length) : w'.inBatch = w.inBatch := by
  rw [inBatch, ledger, hj, ofJournal_append, waiting_foldl_of_not_move unmoved, length]
  rfl

theorem Call.inBatch_eq (tracked : Tracked w) (hc : Call plan w a w') : w'.inBatch = w.inBatch := by
  have room : w.backlog.batch.length ≤ w.ledger.waiting.length :=
    tracked.length_waiting ▸ Nat.le_add_right _ _
  cases hc with
  | enqueue e clock =>
    rw [inBatch, ledger, ofJournal_concat]
    exact List.take_append_of_le_length room
  | scrub actor =>
    have rest : w.ledger.waiting.length - w.backlog.queue.length = w.backlog.batch.length := by
      rw [tracked.length_waiting, Nat.add_sub_cancel]
    rw [inBatch, ledger, ofJournal_concat]
    change (w.ledger.waiting.rdrop w.backlog.queue.length).take w.backlog.batch.length = _
    rw [List.rdrop, rest, List.take_take, Nat.min_self]
    rfl
  | flush | passWait | leaveWait => exact inBatch_congr rfl (by simp [Fact.isMove]) rfl
  | setHandler | enterWait | stayWait | close => rfl

theorem Turn.mem_inBatch (tracked : Tracked w) (ht : Turn plan w a w')
    (frozen : w.Frozen) (hn : n ∈ w.inBatch) :
    n ∈ w'.inBatch ∧ w'.Frozen ∨ n ∉ w'.ledger.waiting := by
  have nonempty : w.backlog.batch ≠ [] := by
    intro empty
    rw [inBatch, empty] at hn
    cases hn
  have keep {facts : List (Fact η)} (hj : w'.journal = w.journal ++ facts)
      (hf : ∀ f ∈ facts, f.isMove = false)
      (length : w'.backlog.batch.length = w.backlog.batch.length) : n ∈ w'.inBatch :=
    inBatch_congr hj hf length ▸ hn
  have retried {p : Worker η} (at_ : w.worker = p) (hp : p.isAttempting = false) :
      w.backlog.schedule.retry.isSome = true :=
    frozen.resolve_left (by rw [at_, hp]; exact Bool.false_ne_true)
  have settle {f : Fact η} (hf : f.isMove = false) {handler : Option η} {outcome : Outcome}
      (hj : w'.journal = w.journal ++ [f] ++ [.settled w.backlog.batch handler outcome]) :
      n ∉ w'.ledger.waiting := by
    rw [ledger, hj, ofJournal_concat, ofJournal_concat]
    change n ∉ ((ofJournal w.journal).enter f).waiting.drop w.backlog.batch.length
    rw [waiting_enter_of_not_move hf]
    have nodup : (w.ledger.waiting.take w.backlog.batch.length ++
        w.ledger.waiting.drop w.backlog.batch.length).Nodup := by
      rw [List.take_append_drop]
      exact (List.nodup_append.1 tracked.nodup).2.1
    exact fun later => List.disjoint_of_nodup_append nodup hn later
  cases ht with
  | start clock at_ | tell clock at_ =>
    exact .inl ⟨keep rfl (by simp [Fact.isMove]) rfl, .inr (retried at_ rfl)⟩
  | rouse clock at_ | wake clock at_ | resume clock at_ | drain clock at_ | backOff clock at_
  | wait clock at_ | endReport clock at_ =>
    exact .inl ⟨keep (List.append_nil _).symm (by simp) rfl, .inr (retried at_ rfl)⟩
  | hear v at_ =>
    refine .inl ⟨keep rfl ?_ rfl, .inr (retried at_ rfl)⟩
    cases v <;> simp [Verdict.facts, Fact.isMove]
  | rest clock at_ drained | stop clock at_ drained =>
    exact absurd (Backlog.isDrained_iff.1 drained).2.1 nonempty
  | assemble clock at_ undrained retry =>
    have armed := retried at_ rfl
    rw [retry] at armed
    cases armed
  | decide clock at_ => exact .inl ⟨keep (List.append_nil _).symm (by simp) rfl, .inl rfl⟩
  | skip clock at_ empty => exact absurd empty nonempty
  | attempt clock at_ =>
    exact .inl ⟨keep rfl (by simp [Fact.isMove]) (List.length_map _), .inl rfl⟩
  | retry answer now at_ =>
    exact .inl ⟨keep rfl (by simp [Fact.isMove]) rfl, .inr (Schedule.isSome_armRetry _ _)⟩
  | deliver answer now at_ => exact .inr (settle (f := .delivered _) rfl rfl)
  | giveUp answer now at_ => exact .inr (settle (f := .gaveUp _ _) rfl rfl)

theorem lt_accepted (hr : Reachable plan w) (hn : n ∈ w.ledger.waiting) :
    n < w.ledger.accepted.length :=
  lt_of_forall₂ (Tracked.of_reachable hr).waiting n hn

theorem mem_inBatch_of_reaches (hr : Reachable plan w) (frozen : w.Frozen) (hn : n ∈ w.inBatch)
    (h : Reaches plan w v) (waits : n ∈ v.ledger.waiting) : n ∈ v.inBatch ∧ v.Frozen := by
  obtain ⟨actions, ran⟩ := h
  let Kept (u : World η) : Prop := Reachable plan u ∧ n < u.ledger.accepted.length ∧
    (n ∈ u.ledger.waiting → n ∈ u.inBatch ∧ u.Frozen)
  have accepted : n < w.ledger.accepted.length := lt_accepted hr (List.mem_of_mem_take hn)
  refine (run_invariant (I := Kept) ?_ ⟨hr, accepted, fun _ => ⟨hn, frozen⟩⟩ ran).2.2 waits
  rintro a - u u' ⟨hu, hlt, kept⟩ hstep
  have reaches : Reaches plan u u' := .of_step hstep
  refine ⟨hu.step hstep, Nat.lt_of_lt_of_le hlt (accepted_le_of_reaches reaches), fun later => ?_⟩
  obtain ⟨batched, frozen⟩ := kept (mem_waiting_of_reaches reaches hlt later)
  rcases call_or_turn hstep with hc | ht
  · exact ⟨hc.inBatch_eq (Tracked.of_reachable hu) ▸ batched, hc.frozen_iff.2 frozen⟩
  · exact (ht.mem_inBatch (Tracked.of_reachable hu) frozen batched).resolve_right (absurd later)

/-! ### The worth of a flush -/

theorem queue_ne_nil (hr : Reachable plan w) (hn : n ∈ w.queued) : w.backlog.queue ≠ [] := by
  intro empty
  have known := (Tracked.of_reachable hr).queue_known
  rw [empty, List.forall₂_nil_right_iff] at known
  rw [queued, known] at hn
  cases hn

theorem Unattempted.mem_waiting (h : w.Unattempted n) : n ∈ w.ledger.waiting :=
  h.elim List.mem_of_mem_drop fun h => List.mem_of_mem_take h.1

/-- A worker that waits for the flush deadline has decided to send since a flush was last asked for.
What was accepted before that and is not attempted yet was left in the queue by the first such
decision, and only because that was to send a batch again or to send a full one. -/
theorem flush_serves_first_batch {settings : Settings} {env : Envelope} {handler : Option η}
    {before after : List (Action η)} {asked : World η}
    (opened : World.opened settings env handler = .ok (plan, start))
    (ran : start.run plan before = some w) (flushed : w.step plan .flush = some asked)
    (waits : WaitsAfter plan asked after v) :
    ∃ x y, FirstDecision plan asked after x y ∧ y.worker = .holding .sending ∧
      y.backlog.batch = x.backlog.batch ∧
      ∀ n < w.ledger.accepted.length, v.Unattempted n → n ∈ x.queued ∧
        (x.backlog.schedule.retry.isSome = true ∨ plan.Full x.backlog.batch x.backlog.queue) := by
  have roomy := flushCount_pos_of_opened opened
  obtain ⟨-, rfl, -⟩ := eq_begun_of_opened opened
  have reachable : Reachable plan w := ⟨handler, settings.batchUrl, before, ran⟩
  have wish : asked.backlog.needFlush = true := by
    rcases call_or_turn flushed with hc | ht
    · cases hc; rfl
    · cases ht
  obtain ⟨u, clock, deadline, ranAfter, deciding, parks, waiting, noRetry⟩ := waits
  have calm : u.backlog.needFlush = false := by
    by_contra needed
    rw [Bool.not_eq_false] at needed
    rw [step_of_deciding deciding, decide_of_needFlush needed] at parks
    cases parks
    cases waiting
  obtain ⟨x, y, first, ⟨sending, journal, batch⟩, toX, toU⟩ := exists_firstDecision ranAfter wish calm
  refine ⟨x, y, first, sending, batch, fun n hn left => ?_⟩
  have hx : Reachable plan x := (reachable.step flushed).trans toX
  obtain ⟨-, clock', -, -, -, decidingX, decides, -⟩ := first
  have toV : Reaches plan y v := toU.trans (.of_step parks)
  have accepted : n < x.ledger.accepted.length := Nat.lt_of_lt_of_le hn
    (accepted_le_of_reaches ((Reaches.of_step flushed).trans toX))
  have waitsAtX : n ∈ x.inBatch ++ x.queued := by
    rw [inBatch, queued, List.take_append_drop]
    exact mem_waiting_of_reaches ((Reaches.of_step decides).trans toV) accepted left.mem_waiting
  rcases List.mem_append.1 waitsAtX with batched | queued
  · -- The batch that was decided upon is sent, and the worker waits with no attempt made.
    have batchedAtY : n ∈ y.inBatch := by
      rw [inBatch, ledger, journal, batch]
      exact batched
    have frozenAtY : y.Frozen := .inl (by rw [sending]; rfl)
    have frozenAtV := (mem_inBatch_of_reaches (hx.step decides) frozenAtY batchedAtY toV
      left.mem_waiting).2
    simp [Frozen, waiting, noRetry, Worker.isAttempting] at frozenAtV
  · have ready := (Phased.of_reachable roomy hx).ready decidingX
    refine ⟨queued, ready.imp_right fun ready => ?_⟩
    exact (ready.resolve_left (queue_ne_nil hx queued)).2

/-- A flush is asked for with three events queued, of which a batch takes two. -/
def threeQueued : List (Action Unit) :=
  [.enqueue (.new "track" "") noon, .enqueue (.new "page" "") noon, .enqueue (.new "page" "") noon]

def twoSent : List (Action Unit) :=
  [.proceed noon, .proceed noon, .proceed noon, .proceed noon, .answer (.response ⟨200, ""⟩) 0,
    .proceed noon, .proceed noon]

theorem third_left_behind : ∃ w asked v : World Unit,
    (begun none smallSettings.batchUrl).run smallPlan threeQueued = some w ∧
      w.step smallPlan .flush = some asked ∧ WaitsAfter smallPlan asked twoSent v ∧
        2 < w.ledger.accepted.length ∧ v.Unattempted 2 := by
  have ends : ((begun (none : Option Unit) smallSettings.batchUrl).run smallPlan threeQueued).any
      (fun w => 2 < w.ledger.accepted.length ∧ (w.step smallPlan .flush).any fun asked =>
        (asked.run smallPlan twoSent).any fun u => u.worker.isDeciding = true ∧
          (u.backlog.isUrgent || u.backlog.schedule.isDue noon.now) = false ∧
            u.backlog.schedule.retry = none ∧ 2 ∈ u.inBatch ∧
              (attemptsAtHand u.journal).isEmpty = true) = true := by decide +kernel
  obtain ⟨w, ran, hw⟩ := (Option.any_eq_true _ _).1 ends
  obtain ⟨accepted, hw⟩ := of_decide_eq_true hw
  obtain ⟨asked, flushed, hasked⟩ := (Option.any_eq_true _ _).1 hw
  obtain ⟨u, ranAfter, hu⟩ := (Option.any_eq_true _ _).1 hasked
  obtain ⟨deciding, early, noRetry, batched, fresh⟩ := of_decide_eq_true hu
  have deciding := Worker.isDeciding_iff.1 deciding
  have parks : u.step smallPlan (.proceed noon) = some (u.decide noon.now) :=
    step_of_deciding deciding noon
  rw [decide_of_early early] at parks
  exact ⟨w, asked, _, ran, flushed, ⟨u, noon, _, ranAfter, deciding, parks, rfl, noRetry⟩, accepted,
    .inr ⟨batched, List.isEmpty_iff.1 fresh⟩⟩

theorem flush_serves_first_batch_twoSent : ∃ start w asked v,
    World.opened smallSettings ⟨none, none⟩ none = .ok (smallPlan, start) ∧
      start.run smallPlan threeQueued = some w ∧ w.step smallPlan .flush = some asked ∧
        WaitsAfter smallPlan asked twoSent v ∧
    (2 < w.ledger.accepted.length ∧ v.Unattempted 2) ∧
      ∃ x y, FirstDecision smallPlan asked twoSent x y ∧ 2 ∈ x.queued ∧
        (x.backlog.schedule.retry.isSome = true ∨
          smallPlan.Full x.backlog.batch x.backlog.queue) := by
  obtain ⟨w, asked, v, ran, flushed, waits, accepted, left⟩ := third_left_behind
  have opened : World.opened smallSettings ⟨none, none⟩ (none : Option Unit) =
      .ok (smallPlan, begun none smallSettings.batchUrl) := rfl
  obtain ⟨x, y, first, -, -, served⟩ := flush_serves_first_batch opened ran flushed waits
  exact ⟨_, w, asked, v, opened, ran, flushed, waits, ⟨accepted, left⟩, x, y, first,
    served 2 accepted left⟩

/-- The third event waits for the flush deadline although a flush was asked for when it was queued. -/
theorem not_flushCovers_threeQueued : ∃ start : World Unit,
    World.opened smallSettings ⟨none, none⟩ none = .ok (smallPlan, start) ∧
      ¬FlushCovers smallPlan start := by
  refine ⟨begun none smallSettings.batchUrl, rfl, fun covers => ?_⟩
  obtain ⟨w, asked, v, ran, flushed, waits, accepted, left⟩ := third_left_behind
  exact covers threeQueued w asked twoSent v ran flushed waits 2 accepted left

end Courier.World
