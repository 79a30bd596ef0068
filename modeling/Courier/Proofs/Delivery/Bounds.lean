import Courier.Proofs.Delivery.Batch
import Courier.Proofs.Engine.Retries
import Courier.Proofs.Event.Stamp

/-! The bounds of a batch hold for the text that is sent. A batch is measured while it grows and sent
with newer stamps, so it matters that events have stamps from the start and stamps are of one size. -/
namespace Courier

variable {η : Type}

def Action.clock? : Action η → Option Clock
  | enqueue _ clock => some clock
  | proceed clock => some clock
  | _ => none

def Action.IsStamped (a : Action η) : Prop := ∀ clock ∈ a.clock?, Time.IsStamp clock.stamp

def Plan.Fits (plan : Plan) (batch : List Event) : Prop :=
  Backlog.Fits plan.envelope plan.flushCount plan.flushSize batch

namespace World

open Journal

/-- Events that are held or were sent have stamps, and batches are within their bounds. -/
structure Bounded (plan : Plan) (w : World η) : Prop where
  stamped : ∀ e ∈ w.backlog.batch ++ w.backlog.queue, e.IsStamped
  fits : plan.Fits w.backlog.batch
  sent : ∀ attempt ∈ attempts w.journal,
    attempt.1 ≠ [] ∧ plan.Fits attempt.1 ∧ ∀ e ∈ attempt.1, e.IsStamped

namespace Bounded

variable {plan : Plan} {w w' : World η} {a : Action η}

theorem begun (handler : Option η) (url : String) : Bounded plan (begun handler url) where
  stamped := fun _ he => nomatch he
  fits := ⟨Nat.zero_le _, fun h => nomatch h⟩
  sent := fun _ hm => nomatch hm

theorem keep (h : Bounded plan w) (sent : attempts w'.journal = attempts w.journal)
    (batch : w'.backlog.batch = w.backlog.batch ∨ w'.backlog.batch = [])
    (queue : ∀ e ∈ w'.backlog.queue, e ∈ w.backlog.queue ∨ e.IsStamped) : Bounded plan w' := by
  constructor
  · intro e he
    rcases List.mem_append.1 he with hb | hq
    · rcases batch with hsame | hempty
      · exact h.stamped e (List.mem_append_left _ (hsame ▸ hb))
      · rw [hempty] at hb
        cases hb
    · exact (queue e hq).elim (fun hold => h.stamped e (List.mem_append_right _ hold)) id
  · rcases batch with hsame | hempty
    · exact hsame ▸ h.fits
    · exact hempty ▸ ⟨Nat.zero_le _, fun several => nomatch several⟩
  · exact sent ▸ h.sent

theorem call (h : Bounded plan w) (hc : Call plan w a w') (ha : a.IsStamped) : Bounded plan w' := by
  have sent : attempts w'.journal = attempts w.journal := by
    obtain ⟨facts, hj, hf⟩ := hc.untouched.journal
    rw [hj, attempts_append, attempts_eq_nil hf, List.append_nil]
  refine h.keep sent (.inl hc.untouched.batch) ?_
  cases hc with
  | enqueue e clock =>
    intro e' he
    rcases List.mem_append.1 he with hold | hnew
    · exact .inl hold
    · rw [List.mem_singleton.1 hnew]
      exact .inr (e.isStamped_stamp (ha clock rfl))
  | scrub actor =>
    intro e he
    cases he
  | _ =>
    intro e he
    exact .inl he

theorem attempt (h : Bounded plan w) {clock : Clock} (ha : Attempt plan w clock w')
    (stamp : Time.IsStamp clock.stamp) : Bounded plan w' := by
  have batch_eq : w'.backlog.batch = w.backlog.batch.map (Event.stamp clock.stamp) := by
    rw [ha.backlog]
    rfl
  have stamped : ∀ e ∈ w'.backlog.batch, e.IsStamped := by
    intro e he
    rw [batch_eq] at he
    obtain ⟨e, -, rfl⟩ := List.mem_map.1 he
    exact e.isStamped_stamp stamp
  have size_eq : plan.envelope.encodedSize w'.backlog.batch =
      plan.envelope.encodedSize w.backlog.batch :=
    plan.envelope.encodedSize_eq_of_isStamped stamped
      (fun e he => h.stamped e (List.mem_append_left _ he)) (by rw [batch_eq, List.map_map]; rfl)
  have fits : plan.Fits w'.backlog.batch := by
    have length_eq : w'.backlog.batch.length = w.backlog.batch.length := by
      rw [batch_eq, List.length_map]
    exact ⟨length_eq ▸ h.fits.length_le, fun several => size_eq ▸ h.fits.size_lt (length_eq ▸ several)⟩
  refine ⟨?_, fits, ?_⟩
  · intro e he
    rcases List.mem_append.1 he with hb | hq
    · exact stamped e hb
    · rw [ha.backlog] at hq
      exact h.stamped e (List.mem_append_right _ hq)
  · intro attempt hm
    rw [ha.journal, attempts_append] at hm
    rcases List.mem_append.1 hm with hold | hnew
    · exact h.sent attempt hold
    · rw [List.mem_singleton.1 hnew]
      exact ⟨by rw [batch_eq]; simpa using ha.nonempty, fits, stamped⟩

theorem turn (h : Bounded plan w) (ht : Turn plan w a w') (ha : a.IsStamped) : Bounded plan w' := by
  cases ht with
  | attempt clock at_ nonempty => exact h.attempt ⟨at_, nonempty, rfl, rfl, rfl⟩ (ha clock rfl)
  | assemble clock =>
    refine ⟨?_, h.fits.grow, h.sent⟩
    rw [Backlog.assemble_events]
    exact h.stamped
  | deliver | giveUp =>
    refine h.keep ?_ (.inr rfl) fun _ he => .inl he
    rw [List.append_assoc, attempts_append]
    exact List.append_nil _
  | stop =>
    refine h.keep ?_ (.inl rfl) fun _ he => .inl he
    rw [List.append_assoc, attempts_append]
    exact List.append_nil _
  | start | rest | retry | tell =>
    refine h.keep ?_ (.inl rfl) fun _ he => .inl he
    rw [attempts_append]
    exact List.append_nil _
  | hear v =>
    refine h.keep ?_ (.inl rfl) fun _ he => .inl he
    rw [attempts_append]
    cases v <;> exact List.append_nil _
  | rouse | wake | resume | drain | backOff | decide | wait | skip | endReport =>
    exact h.keep rfl (.inl rfl) fun _ he => .inl he

theorem of_run {handler : Option η} {url : String} {actions : List (Action η)}
    (ran : (World.begun handler url).run plan actions = some w)
    (stamps : ∀ a ∈ actions, a.IsStamped) : Bounded plan w :=
  run_invariant (fun a ha _ _ hu hstep => (call_or_turn hstep).elim (fun hc => hu.call hc (stamps a ha))
    fun ht => hu.turn ht (stamps a ha)) (begun handler url) ran

end Bounded

variable {plan : Plan} {w : World η} {actions : List (Action η)} {handler : Option η} {url : String}

/-- A run came to `u`, where it was decided to send a new batch; the batch was then sent for the first
time, and what was noted up to the end of `j` did not settle it. -/
def DecidedAt (plan : Plan) (start : World η) (actions : List (Action η)) (j : List (Fact η))
    (u : World η) : Prop :=
  ∃ earlier clock clock' later v v' between,
    actions = earlier ++ .proceed clock :: .proceed clock' :: later ∧
    start.run plan earlier = some u ∧ u.worker = .holding .deciding ∧ attemptsAtHand u.journal = [] ∧
    u.step plan (.proceed clock) = some v ∧ v.step plan (.proceed clock') = some v' ∧
    v'.worker.isCalling = true ∧ j = v'.journal ++ between ∧ settlements between = []

theorem exists_decide {v : World η} (ran : (begun handler url).run plan actions = some v)
    (sending : v.worker = .holding .sending) :
    ∃ earlier clock u, actions = earlier ++ [.proceed clock] ∧
      (begun handler url).run plan earlier = some u ∧ u.step plan (.proceed clock) = some v ∧
      u.worker = .holding .deciding ∧ v.backlog.batch = u.backlog.batch ∧ v.journal = u.journal := by
  rcases List.eq_nil_or_concat actions with rfl | ⟨earlier, a, rfl⟩
  · cases Option.some.inj ran
    cases sending
  · rw [List.concat_eq_append] at ran ⊢
    obtain ⟨u, hu, ran⟩ := run_append_eq_some.1 ran
    obtain ⟨v', hstep, ran⟩ := run_cons_eq_some.1 ran
    cases Option.some.inj ran
    obtain ⟨clock, rfl, deciding, hbacklog, hjournal⟩ := decide_of_sending hstep sending
    exact ⟨earlier, clock, u, rfl, hu, hstep, deciding, by rw [hbacklog]; rfl, hjournal⟩

theorem exists_decidedAt (ran : (begun handler url).run plan actions = some w)
    {before after : List (Fact η)} {batch : List Event} {request : Request}
    (hj : w.journal = before ++ .attempted batch request :: after) :
    ∃ u, DecidedAt plan (begun handler url) actions (before ++ [.attempted batch request]) u ∧
      batch.map (·.content) = u.backlog.batch.map (·.content) := by
  -- The first attempt since the last settlement is the one that the decision led to.
  have at_hand : attemptsAtHand (before ++ [.attempted batch request]) ≠ [] := by
    rw [attemptsAtHand_append rfl]
    exact List.append_ne_nil_of_right_ne_nil _ (List.cons_ne_nil _ _)
  obtain ⟨front, first, request', between, hsplit, fresh, open_⟩ := exists_first_attempt at_hand
  have hfirst : w.journal = front ++ .attempted first request' :: (between ++ after) := by
    rw [hj, List.append_cons, hsplit, List.append_assoc, List.append_assoc]
    rfl
  obtain ⟨earlier, clock', later, v, v', rfl, hv, hstep, ha, rfl, rfl, rfl⟩ := exists_attempt ran hfirst
  obtain ⟨earlier, clock, u, rfl, hu, hdecide, deciding, hsame, hjournal⟩ := exists_decide hv ha.sending
  have lawful := (Counted.of_reachable ⟨handler, url, _, ran⟩ : Counted plan w).lawful
  rw [hj] at lawful
  have content_eq : v'.backlog.batch.map (·.content) = u.backlog.batch.map (·.content) := by
    rw [← hsame, ha.backlog, Backlog.stampBatch, List.map_map]
    rfl
  refine ⟨u, ⟨earlier, clock, clock', later, v, v', between, by simp, hu, deciding, ?_, hdecide, hstep,
    by rw [ha.worker]; rfl, ?_, open_⟩, (lawful.content_eq hsplit fresh open_).trans content_eq⟩
  · rw [← hjournal, fresh]
  · rw [hsplit, ha.journal]

structure InBounds (settings : Settings) (env : Envelope) (batch : List Event) (request : Request) :
    Prop where
  body : request.body = env.encode batch
  length_pos : 1 ≤ batch.length
  length_le : batch.length ≤ settings.flushCount.toNat
  size_lt : 1 < batch.length → request.body.utf8ByteSize < settings.flushSize.toNat

/-- Every request is in bounds, and takes the bytes that were measured when its batch was decided
upon, if all stamps are as long as the text of a time is. -/
theorem sent_in_bounds {settings : Settings} {env : Envelope} {start : World η}
    (opened : World.opened settings env handler = .ok (plan, start))
    (ran : start.run plan actions = some w) (stamps : ∀ a ∈ actions, a.IsStamped)
    {before after : List (Fact η)} {batch : List Event} {request : Request}
    (hj : w.journal = before ++ .attempted batch request :: after) :
    InBounds settings env batch request ∧
      ∃ u, DecidedAt plan start actions (before ++ [.attempted batch request]) u ∧
        request.body.utf8ByteSize = env.encodedSize u.backlog.batch := by
  obtain ⟨rfl, rfl, -⟩ := eq_begun_of_opened opened
  have mem : (batch, request) ∈ attempts w.journal := by
    rw [hj]
    exact List.mem_filterMap.2 ⟨.attempted batch request, by simp, rfl⟩
  obtain ⟨nonempty, fits, stamped⟩ := (Bounded.of_run ran stamps).sent _ mem
  have body : request.body = env.encode batch := by
    rw [Reachable.request_eq ⟨handler, settings.batchUrl, actions, ran⟩ mem]
    rfl
  have size : request.body.utf8ByteSize = env.encodedSize batch := by
    rw [body, env.utf8ByteSize_encode]
  obtain ⟨u, decided, same⟩ := exists_decidedAt ran hj
  refine ⟨⟨body, List.length_pos_iff.2 nonempty, fits.length_le, fun several => ?_⟩, u, decided, ?_⟩
  · rw [size]
    exact fits.size_lt several
  · obtain ⟨earlier, clock, clock', later, v, v', between, rfl, hu, -⟩ := decided
    have held := (Bounded.of_run hu fun a ha => stamps a (List.mem_append_left _ ha)).stamped
    rw [size]
    exact env.encodedSize_eq_of_isStamped stamped
      (fun e he => held e (List.mem_append_left _ he)) same

/-- A batch of two of three events is sent, fails, and is sent again. -/
def retriedRun : List (Action Unit) :=
  [.enqueue (.new "track" "") noon, .enqueue (.new "page" "") noon, .enqueue (.new "page" "") noon,
    .proceed noon, .proceed noon, .proceed noon, .proceed noon, .answer .panicked 0, .proceed later,
    .proceed later, .proceed later]

theorem sent_in_bounds_retriedRun : ∃ start w, World.opened smallSettings ⟨none, none⟩ none =
      .ok (smallPlan, start) ∧ start.run smallPlan retriedRun = some w ∧
    (attempts w.journal).length = 2 ∧
      ∀ attempt ∈ attempts w.journal, InBounds smallSettings ⟨none, none⟩ attempt.1 attempt.2 := by
  have ends : ((begun none smallSettings.batchUrl).run smallPlan retriedRun).any
      (fun w => (attempts w.journal).length = 2) = true := by decide +kernel
  obtain ⟨w, ran, hw⟩ := (Option.any_eq_true _ _).1 ends
  have opened : World.opened smallSettings ⟨none, none⟩ (none : Option Unit) =
      .ok (smallPlan, begun none smallSettings.batchUrl) := rfl
  have stamps : ∀ a ∈ retriedRun, a.IsStamped := by
    have atNoon : Time.IsStamp noon.stamp := ⟨by decide +kernel, by decide +kernel⟩
    have atLater : Time.IsStamp later.stamp := ⟨by decide +kernel, by decide +kernel⟩
    simp [retriedRun, Action.IsStamped, Action.clock?, atNoon, atLater]
  refine ⟨_, w, opened, ran, of_decide_eq_true hw, fun attempt hm => ?_⟩
  obtain ⟨f, hf, hattempt⟩ := List.mem_filterMap.1 hm
  obtain ⟨before, after, hj⟩ := List.append_of_mem hf
  cases f with
  | attempted batch request =>
    cases hattempt
    exact (sent_in_bounds opened ran stamps hj).1
  | _ => cases hattempt

end World

end Courier
