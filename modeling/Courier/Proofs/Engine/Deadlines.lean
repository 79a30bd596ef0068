import Courier.Proofs.Engine.Phases
import Courier.Proofs.Ledger.Conservation

/-! Nothing is held for longer than the flush interval. The flush deadline is the one of the first
event accepted since nothing was left; whatever is held was accepted no earlier, so that its own
deadline is no earlier either. -/
namespace Courier

variable {η : Type}

def Action.intake? : Action η → Option (Event × Nat)
  | enqueue e clock => some (e.stamp clock.stamp, clock.now)
  | _ => none

namespace Fact

def intake? : Fact η → Option (Event × Nat)
  | accepted e time => some (e, time)
  | _ => none

def isDrained : Fact η → Bool
  | drained => true
  | _ => false

theorem intake?_of_isWorkers {f : Fact η} (h : f.isWorkers = true) : f.intake? = none := by
  cases f <;> first | rfl | cases h

end Fact

namespace Journal

def intakes (j : List (Fact η)) : List (Event × Nat) := j.filterMap Fact.intake?

/-- The part after the worker last found nothing left and forgot all deadlines, or all of it. -/
def sinceDrained (j : List (Fact η)) : List (Fact η) := j.rtakeWhile (!·.isDrained)

variable {j facts : List (Fact η)}

@[simp] theorem intakes_append : intakes (j ++ facts) = intakes j ++ intakes facts :=
  List.filterMap_append

theorem sinceDrained_append (h : ∀ f ∈ facts, f.isDrained = false) :
    sinceDrained (j ++ facts) = sinceDrained j ++ facts :=
  rtakeWhile_append j fun f hf => by rw [h f hf]; rfl

theorem sinceDrained_concat_drained : sinceDrained (j ++ [.drained]) = [] :=
  List.rtakeWhile_concat_neg _ _ _ (by simp [Fact.isDrained])

theorem intakes_sinceDrained_subset : intakes (sinceDrained j) ⊆ intakes j :=
  ((List.rtakeWhile_suffix _ _).sublist.filterMap _).subset

theorem accepted_eq_intakes : (Ledger.ofJournal j).accepted = (intakes j).map (·.1) := by
  rw [Ledger.accepted_ofJournal, intakes, List.map_filterMap]
  refine congrArg (List.filterMap · j) (funext fun f => ?_)
  cases f <;> rfl

theorem length_intakes : (intakes j).length = (Ledger.ofJournal j).accepted.length := by
  rw [accepted_eq_intakes, List.length_map]

end Journal

namespace World

open Journal

def recent (w : World η) : List (Event × Nat) := intakes (sinceDrained w.journal)

/-- The event at place `i` of the batch and the queue behind it was accepted at time `t`. -/
def HeldSince (w : World η) (i t : Nat) : Prop :=
  ∃ e n accepted, (w.backlog.batch ++ w.backlog.queue)[i]? = some e ∧ w.ledger.waiting[i]? = some n ∧
    (intakes w.journal)[n]? = some (accepted, t) ∧ accepted.content = e.content

/-- Nothing is kept for longer than the flush interval. -/
structure Timely (plan : Plan) (w : World η) : Prop where
  deadline : w.backlog.queue ≠ [] ∨ w.backlog.batch ≠ [] → ∃ first, w.recent.head? = some first ∧
    w.backlog.schedule.flush = some (first.2 + plan.flushInterval)
  dated : ∀ i < (w.backlog.batch ++ w.backlog.queue).length, ∃ t, w.HeldSince i t
  bound : ∀ i t, w.HeldSince i t →
    ∃ flush, w.backlog.schedule.flush = some flush ∧ flush ≤ t + plan.flushInterval
  parks : ∀ clock w' deadline isNotified, w.worker = .holding .deciding →
    w.step plan (.proceed clock) = some w' → w'.worker = .waiting deadline isNotified →
      ∃ time, deadline = some time ∧ ∀ i t, w.HeldSince i t → time ≤ t + plan.flushInterval
  sends : ∀ clock i t, w.worker = .holding .deciding → w.HeldSince i t →
    t + plan.flushInterval ≤ clock.now →
      ∃ w', w.step plan (.proceed clock) = some w' ∧ w'.worker = .holding .sending

/-- The flush deadline is the one of the first recent event, and nothing older is held. -/
structure Dated (plan : Plan) (w : World η) : Prop where
  flush : w.backlog.schedule.flush = w.recent.head?.map (·.2 + plan.flushInterval)
  recent : w.backlog.queue ≠ [] ∨ w.backlog.batch ≠ [] → w.recent ≠ []
  first_le : ∀ first ∈ w.recent.head?, ∀ n ∈ w.ledger.waiting, ∀ intake ∈ (intakes w.journal)[n]?,
    first.2 ≤ intake.2

namespace Dated

variable {plan : Plan} {w w' : World η} {a : Action η}

theorem begun (handler : Option η) (url : String) : Dated plan (begun handler url) where
  flush := rfl
  recent := fun left => left.elim (absurd rfl) (absurd rfl)
  first_le := fun _ h => nomatch h

theorem keep (h : Dated plan w) {facts : List (Fact η)} (journal : w'.journal = w.journal ++ facts)
    (none_accepted : intakes facts = []) (undrained : ∀ f ∈ facts, f.isDrained = false)
    (flush : w'.backlog.schedule.flush = w.backlog.schedule.flush)
    (left : w'.backlog.queue ≠ [] ∨ w'.backlog.batch ≠ [] →
      w.backlog.queue ≠ [] ∨ w.backlog.batch ≠ []) : Dated plan w' := by
  have intakes_eq : intakes w'.journal = intakes w.journal := by
    rw [journal, intakes_append, none_accepted, List.append_nil]
  have recent_eq : w'.recent = w.recent := by
    rw [World.recent, journal, sinceDrained_append undrained, intakes_append, none_accepted,
      List.append_nil, ← World.recent]
  constructor
  · rw [flush, recent_eq, h.flush]
  · rw [recent_eq]
    exact fun some_left => h.recent (left some_left)
  · rw [recent_eq, intakes_eq]
    intro first hfirst n hn intake hintake
    have known : n < w.ledger.accepted.length := by
      rw [ledger, ← length_intakes]
      exact (List.getElem?_eq_some_iff.1 hintake).1
    refine h.first_le first hfirst n ?_ intake hintake
    rw [ledger, journal, Ledger.ofJournal_append] at hn
    exact Ledger.mem_waiting_foldl known hn

theorem forget (drained : w'.backlog.queue = [] ∧ w'.backlog.batch = [])
    (schedule : w'.backlog.schedule = Schedule.never) (recent : w'.recent = []) : Dated plan w' where
  flush := by rw [schedule, recent]; rfl
  recent := fun left => left.elim (absurd drained.1) (absurd drained.2)
  first_le := by rw [recent]; exact fun _ h => nomatch h

theorem accept (h : Dated plan w) (tracked : Tracked w) {e : Event} {now : Nat}
    (forward : ∀ intake ∈ intakes w.journal, intake.2 ≤ now)
    (journal : w'.journal = w.journal ++ [.accepted e now])
    (backlog : w'.backlog = w.backlog.enqueue e (now + plan.flushInterval)) : Dated plan w' := by
  have recent_eq : w'.recent = w.recent ++ [(e, now)] := by
    rw [World.recent, journal, sinceDrained_append (by simp [Fact.isDrained]), intakes_append]
    rfl
  have intakes_eq : intakes w'.journal = intakes w.journal ++ [(e, now)] := by
    rw [journal, intakes_append]
    rfl
  have waiting_eq : w'.ledger.waiting = w.ledger.waiting ++ [(intakes w.journal).length] := by
    rw [ledger, journal, Ledger.ofJournal_concat, length_intakes]
    rfl
  have flush_eq : w'.backlog.schedule.flush = if w.backlog.queue.isEmpty then
      Schedule.earlier w.backlog.schedule.flush (now + plan.flushInterval)
      else w.backlog.schedule.flush := by
    rw [backlog, Backlog.enqueue]
    split <;> rfl
  cases fresh : w.recent with
  | nil =>
    -- Nothing is held, so this event is the first of all that is.
    have none_left : w.backlog.queue = [] ∧ w.backlog.batch = [] := by
      by_contra left
      exact h.recent (not_and_or.1 left) fresh
    have none_waiting : w.ledger.waiting = [] := by
      rw [← List.length_eq_zero_iff, tracked.length_waiting, none_left.1, none_left.2]
      rfl
    rw [fresh, List.nil_append] at recent_eq
    constructor
    · rw [flush_eq, none_left.1, h.flush, fresh, recent_eq]
      rfl
    · rw [recent_eq]
      exact fun _ => List.cons_ne_nil _ _
    · rw [recent_eq, intakes_eq, waiting_eq, none_waiting]
      intro first hfirst n hn intake hintake
      cases List.mem_singleton.1 hn
      rw [List.getElem?_concat_length] at hintake
      cases hfirst
      cases hintake
      exact Nat.le_refl now
  | cons first others =>
    have first_le : first.2 ≤ now := forward first (intakes_sinceDrained_subset
      (by rw [← World.recent, fresh]; exact List.mem_cons_self))
    have head_eq : w'.recent.head? = some first := by rw [recent_eq, fresh]; rfl
    constructor
    · rw [flush_eq, h.flush, fresh, head_eq]
      split
      · exact congrArg some (Nat.min_eq_left (Nat.add_le_add_right first_le _))
      · rfl
    · rw [recent_eq]
      exact fun _ => List.append_ne_nil_of_right_ne_nil _ (List.cons_ne_nil _ _)
    · rw [head_eq, intakes_eq, waiting_eq]
      rintro _ ⟨⟩ n hn intake hintake
      rcases List.mem_append.1 hn with old | new
      · have known : n < (intakes w.journal).length :=
          length_intakes ▸ Ledger.lt_of_forall₂ tracked.waiting n old
        rw [List.getElem?_append_left known] at hintake
        exact h.first_le first (by rw [fresh]; rfl) n old intake hintake
      · cases List.mem_singleton.1 new
        rw [List.getElem?_concat_length] at hintake
        cases hintake
        exact first_le

theorem call (h : Dated plan w) (tracked : Tracked w) (hc : Call plan w a w')
    (forward : ((intakes w'.journal).map (·.2)).Pairwise (· ≤ ·)) : Dated plan w' := by
  cases hc with
  | enqueue e clock =>
    refine h.accept tracked ?_ rfl rfl
    rw [intakes_append, List.map_append, List.pairwise_append] at forward
    exact fun intake hm => forward.2.2 intake.2 (List.mem_map_of_mem hm) clock.now List.mem_cons_self
  | scrub => exact h.keep rfl rfl (by simp [Fact.isDrained]) rfl fun left => .inr (left.resolve_left (absurd rfl))
  | flush | passWait | leaveWait => exact h.keep rfl rfl (by simp [Fact.isDrained]) rfl id
  | setHandler | enterWait | stayWait | close =>
    exact h.keep (List.append_nil _).symm rfl (by simp) rfl id

theorem turn (h : Dated plan w) (ht : Turn plan w a w') : Dated plan w' := by
  have left (some_left : w'.backlog.queue ≠ [] ∨ w'.backlog.batch ≠ []) :
      w.backlog.queue ≠ [] ∨ w.backlog.batch ≠ [] :=
    not_and_or.1 fun none_left => not_and_or.2 some_left (ht.none_left none_left)
  cases ht with
  | rest clock at_ drained =>
    obtain ⟨queue, batch, -⟩ := Backlog.isDrained_iff.1 drained
    refine forget ⟨queue, batch⟩ rfl ?_
    rw [World.recent, sinceDrained_concat_drained]
    rfl
  | stop clock at_ drained =>
    obtain ⟨queue, batch, -⟩ := Backlog.isDrained_iff.1 drained
    refine forget ⟨queue, batch⟩ rfl ?_
    rw [World.recent, sinceDrained_append (by simp [Fact.isDrained]), sinceDrained_concat_drained]
    rfl
  | start | attempt | retry | tell => exact h.keep rfl rfl (by simp [Fact.isDrained]) rfl left
  | deliver | giveUp =>
    exact h.keep (List.append_assoc _ _ _) rfl (by simp [Fact.isDrained]) rfl left
  | hear v =>
    exact h.keep rfl (by cases v <;> rfl) (by cases v <;> simp [Verdict.facts, Fact.isDrained]) rfl left
  | rouse | wake | resume | drain | backOff | assemble | decide | wait | skip | endReport =>
    exact h.keep (List.append_nil _).symm rfl (by simp) rfl left

theorem of_reachable (hr : Reachable plan w)
    (forward : ((intakes w.journal).map (·.2)).Pairwise (· ≤ ·)) : Dated plan w := by
  refine hr.invariant (I := fun u => ((intakes u.journal).map (·.2)).Pairwise (· ≤ ·) → Dated plan u)
    (fun handler url _ => begun handler url) ?_ forward
  intro u u' a hu dated hstep forward
  have before : ((intakes u.journal).map (·.2)).Pairwise (· ≤ ·) := by
    obtain ⟨facts, hj⟩ := step_journal hstep
    rw [hj, intakes_append, List.map_append] at forward
    exact (List.pairwise_append.1 forward).1
  exact (call_or_turn hstep).elim (fun hc => (dated before).call (Tracked.of_reachable hu) hc forward)
    (dated before).turn

end Dated

variable {plan : Plan} {start w w' : World η} {a : Action η}

theorem step_intake (h : w.step plan a = some w') :
    ∃ facts, w'.journal = w.journal ++ facts ∧ facts.filterMap Fact.intake? = a.intake?.toList := by
  rcases call_or_turn h with hc | ht
  · cases hc with
    | enqueue | flush | scrub | passWait | leaveWait => exact ⟨[_], rfl, rfl⟩
    | setHandler | enterWait | stayWait | close => exact ⟨[], (List.append_nil _).symm, rfl⟩
  · obtain ⟨facts, hj, hw⟩ := ht.journal_append
    refine ⟨facts, hj, ?_⟩
    have none_accepted : facts.filterMap Fact.intake? = [] :=
      List.filterMap_eq_nil_iff.2 fun f hf => Fact.intake?_of_isWorkers (hw f hf)
    rw [none_accepted]
    cases ht <;> rfl

theorem exists_heldSince (tracked : Tracked w) {i : Nat}
    (hi : i < (w.backlog.batch ++ w.backlog.queue).length) : ∃ t, w.HeldSince i t := by
  have hn : i < w.ledger.waiting.length := tracked.waiting.length_eq ▸ hi
  obtain ⟨accepted, known, content⟩ := tracked.waiting.get hn hi
  have accepted_eq : w.ledger.accepted = (intakes w.journal).map (·.1) := accepted_eq_intakes
  rw [accepted_eq, List.getElem?_map] at known
  obtain ⟨⟨e, t⟩, intake, rfl⟩ := Option.map_eq_some_iff.1 known
  exact ⟨t, _, _, e, List.getElem?_eq_getElem hi, List.getElem?_eq_getElem hn, intake, content⟩

theorem HeldSince.bound {i t : Nat} (h : w.HeldSince i t) (dated : Dated plan w) :
    ∃ flush, w.backlog.schedule.flush = some flush ∧ flush ≤ t + plan.flushInterval := by
  obtain ⟨e, n, accepted, held, waits, intake, -⟩ := h
  have left : w.backlog.queue ≠ [] ∨ w.backlog.batch ≠ [] := by
    refine not_and_or.1 fun ⟨queue, batch⟩ => ?_
    rw [queue, batch] at held
    cases held
  obtain ⟨first, others, recent⟩ := List.exists_cons_of_ne_nil (dated.recent left)
  have head : w.recent.head? = some first := by rw [recent]; rfl
  have first_le : first.2 ≤ t :=
    dated.first_le first head n (List.mem_of_getElem? waits) (accepted, t) intake
  exact ⟨_, by rw [dated.flush, head]; rfl, Nat.add_le_add_right first_le _⟩

theorem HeldSince.next_le {i t : Nat} (h : w.HeldSince i t) (dated : Dated plan w) :
    ∃ time, w.backlog.schedule.next = some time ∧ time ≤ t + plan.flushInterval := by
  obtain ⟨flush, armed, soon⟩ := h.bound dated
  obtain ⟨time, next, sooner⟩ := Schedule.exists_le_next armed
  exact ⟨time, next, Nat.le_trans sooner soon⟩

/-- In every world of every run, as long as the clock does not go back between two acceptances. -/
theorem flush_on_time {settings : Settings} {env : Envelope} {handler : Option η}
    {actions : List (Action η)} (opened : World.opened settings env handler = .ok (plan, start))
    (ran : start.run plan actions = some w)
    (forward : ((actions.filterMap Action.intake?).map (·.2)).Pairwise (· ≤ ·)) : Timely plan w := by
  have roomy := flushCount_pos_of_opened opened
  obtain ⟨-, rfl, -⟩ := eq_begun_of_opened opened
  have hr : Reachable plan w := ⟨handler, settings.batchUrl, actions, ran⟩
  have tracked := Tracked.of_reachable hr
  have dated : Dated plan w := by
    refine Dated.of_reachable hr ?_
    rw [intakes, run_filterMap step_intake ran]
    exact forward
  constructor
  · intro left
    obtain ⟨first, others, recent⟩ := List.exists_cons_of_ne_nil (dated.recent left)
    exact ⟨first, by rw [recent]; rfl, by rw [dated.flush, recent]; rfl⟩
  · exact fun i hi => exists_heldSince tracked hi
  · exact fun i t held => held.bound dated
  · intro clock w' deadline isNotified deciding hstep waiting
    rw [step_of_deciding deciding] at hstep
    cases hstep
    cases due : w.backlog.isUrgent || w.backlog.schedule.isDue clock.now with
    | true =>
      rw [decide_of_due due] at waiting
      cases waiting
    | false =>
      rw [decide_of_early due] at waiting
      cases waiting
      have nonempty := (Phased.of_reachable roomy hr).held (by rw [deciding]; rfl)
      have some_held : 0 < (w.backlog.batch ++ w.backlog.queue).length :=
        List.length_pos_iff.2 (List.append_ne_nil_of_left_ne_nil nonempty _)
      obtain ⟨t, held⟩ := exists_heldSince tracked some_held
      obtain ⟨time, next, -⟩ := held.next_le dated
      refine ⟨time, next, fun i t held => ?_⟩
      obtain ⟨time', next', soon⟩ := held.next_le dated
      cases next.symm.trans next'
      exact soon
  · intro clock i t deciding held late
    obtain ⟨time, next, soon⟩ := held.next_le dated
    have due : w.backlog.schedule.isDue clock.now = true := by
      rw [Schedule.isDue, next]
      exact decide_eq_true (Nat.le_trans soon late)
    refine ⟨_, step_of_deciding deciding clock, ?_⟩
    rw [decide_of_due (by rw [due, Bool.or_true])]

/-- A batch waits for its retry with an event queued behind it that was accepted long after it. -/
def retryPending : List (Action Unit) :=
  [.enqueue (.new "track" "") noon, .flush, .proceed noon, .proceed noon, .proceed noon, .proceed noon,
    .answer .panicked 0, .proceed noon, .proceed noon, .enqueue (.new "page" "") later, .proceed later,
    .proceed later]

theorem flush_on_time_retryPending : ∃ start w, World.opened smallSettings ⟨none, none⟩ none =
      .ok (smallPlan, start) ∧ start.run smallPlan retryPending = some w ∧
    (w.worker.isDeciding = true ∧ w.backlog.batch.length = 1 ∧ w.backlog.queue.length = 1 ∧
      w.backlog.schedule = ⟨some 10000, some 1000⟩) ∧ Timely smallPlan w := by
  have ends : ((begun none smallSettings.batchUrl).run smallPlan retryPending).any (fun w =>
      w.worker.isDeciding = true ∧ w.backlog.batch.length = 1 ∧ w.backlog.queue.length = 1 ∧
        w.backlog.schedule = ⟨some 10000, some 1000⟩) = true := by decide +kernel
  obtain ⟨w, ran, hw⟩ := (Option.any_eq_true _ _).1 ends
  have opened : World.opened smallSettings ⟨none, none⟩ (none : Option Unit) =
      .ok (smallPlan, begun none smallSettings.batchUrl) := rfl
  have forward : ((retryPending.filterMap Action.intake?).map (·.2)).Pairwise (· ≤ ·) := by
    decide +kernel
  exact ⟨_, w, opened, ran, of_decide_eq_true hw, flush_on_time opened ran forward⟩

end World

end Courier
