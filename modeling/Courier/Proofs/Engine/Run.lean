import Courier.Proofs.Engine.Chronicle
import Courier.Proofs.Engine.Move

/-! Runs of a client. A run only adds to the journal, so every fact of a journal was written by one
step of the run, taken from a world whose journal ended just before that step. -/
namespace Courier.World

variable {η : Type} {plan : Plan} {w w' : World η} {a : Action η}

def begun (handler : Option η) (url : String) : World η := (World.new handler).note [.opened url]

def Reaches (plan : Plan) (w w' : World η) : Prop := ∃ actions, w.run plan actions = some w'

/-- A world that a client can come to, whatever its callers, its transport and its handlers do. -/
def Reachable (plan : Plan) (w : World η) : Prop :=
  ∃ handler url, Reaches plan (begun handler url) w

/-- Batches of at most two events, each with at most one retry. -/
def smallSettings : Settings := { maxRetries := 1, flushCount := 2 }

def smallPlan : Plan := Plan.ofSettings smallSettings ⟨none, none⟩

def noon : Clock := ⟨0, "2020-01-01T12:00:00.000Z"⟩

def later : Clock := ⟨60000, "2020-01-01T12:01:00.000Z"⟩

theorem eq_begun_of_opened {settings : Settings} {env : Envelope} {handler : Option η}
    (h : World.opened settings env handler = .ok (plan, w)) :
    plan = Plan.ofSettings settings env ∧ w = begun handler settings.batchUrl ∧
      settings.check = .ok () := by
  unfold World.opened at h
  split at h
  next hc => cases h; exact ⟨rfl, rfl, hc⟩
  next => cases h

/-- What no caller touches. The worker may be notified, and callers' facts are not the worker's. -/
structure Untouched (w w' : World η) : Prop where
  batch : w'.backlog.batch = w.backlog.batch
  settling : w'.backlog.settling = w.backlog.settling
  failures : w'.backlog.failures = w.backlog.failures
  retry : w'.backlog.schedule.retry = w.backlog.schedule.retry
  worker : w'.worker = w.worker ∨ w'.worker = w.worker.notify
  journal : ∃ facts, w'.journal = w.journal ++ facts ∧ ∀ f ∈ facts, f.isWorkers = false

theorem Call.untouched (h : Call plan w a w') : Untouched w w' := by
  cases h with
  | enqueue e clock =>
    refine ⟨rfl, rfl, rfl, ?_, .inr rfl, [_], rfl, by simp [Fact.isWorkers]⟩
    dsimp only [Backlog.enqueue]
    split <;> rfl
  | flush => exact ⟨rfl, rfl, rfl, rfl, .inr rfl, [_], rfl, by simp [Fact.isWorkers]⟩
  | scrub actor => exact ⟨rfl, rfl, rfl, rfl, .inr rfl, [_], rfl, by simp [Fact.isWorkers]⟩
  | setHandler handler => exact ⟨rfl, rfl, rfl, rfl, .inl rfl, [], by simp, by simp⟩
  | passWait id => exact ⟨rfl, rfl, rfl, rfl, .inl rfl, [_], rfl, by simp [Fact.isWorkers]⟩
  | enterWait id => exact ⟨rfl, rfl, rfl, rfl, .inr rfl, [], by simp, by simp⟩
  | leaveWait id => exact ⟨rfl, rfl, rfl, rfl, .inl rfl, [_], rfl, by simp [Fact.isWorkers]⟩
  | stayWait id => exact ⟨rfl, rfl, rfl, rfl, .inr rfl, [], by simp, by simp⟩
  | close => exact ⟨rfl, rfl, rfl, rfl, .inr rfl, [], by simp, by simp⟩

theorem Turn.journal_append (h : Turn plan w a w') :
    ∃ facts, w'.journal = w.journal ++ facts ∧ ∀ f ∈ facts, f.isWorkers = true := by
  cases h with
  | stop | deliver | giveUp =>
    exact ⟨_, List.append_assoc _ _ _, by simp [Fact.isWorkers]⟩
  | start | rest | attempt | retry | tell => exact ⟨_, rfl, by simp [Fact.isWorkers]⟩
  | hear v => exact ⟨_, rfl, by cases v <;> simp [Verdict.facts, Fact.isWorkers]⟩
  | rouse | wake | resume | drain | backOff | assemble | decide | wait | skip | endReport =>
    exact ⟨[], (List.append_nil _).symm, by simp⟩

theorem step_journal (h : w.step plan a = some w') : ∃ facts, w'.journal = w.journal ++ facts := by
  rcases call_or_turn h with hc | ht
  · obtain ⟨facts, hj, _⟩ := hc.untouched.journal
    exact ⟨facts, hj⟩
  · obtain ⟨facts, hj, _⟩ := ht.journal_append
    exact ⟨facts, hj⟩

/-! ### Runs -/

theorem run_cons_eq_some {actions : List (Action η)} :
    w.run plan (a :: actions) = some w' ↔
      ∃ u, w.step plan a = some u ∧ u.run plan actions = some w' :=
  Option.bind_eq_some_iff

theorem run_append (left right : List (Action η)) :
    w.run plan (left ++ right) = (w.run plan left).bind (·.run plan right) := by
  induction left generalizing w with
  | nil => rfl
  | cons a left ih => simp only [List.cons_append, run, ih, Option.bind_assoc]

theorem run_append_eq_some {left right : List (Action η)} :
    w.run plan (left ++ right) = some w' ↔
      ∃ u, w.run plan left = some u ∧ u.run plan right = some w' := by
  rw [run_append]
  exact Option.bind_eq_some_iff

theorem run_invariant {I : World η → Prop} {actions : List (Action η)}
    (keeps : ∀ a ∈ actions, ∀ u u', I u → u.step plan a = some u' → I u') (hw : I w)
    (ran : w.run plan actions = some w') : I w' := by
  induction actions generalizing w with
  | nil => exact Option.some.inj ran ▸ hw
  | cons a actions ih =>
    obtain ⟨u, hu, ran⟩ := run_cons_eq_some.1 ran
    exact ih (fun b hb => keeps b (List.mem_cons_of_mem _ hb)) (keeps a List.mem_cons_self w u hw hu) ran

theorem run_history {I : List (Action η) → World η → Prop} {actions : List (Action η)} (base : I [] w)
    (keeps : ∀ {done u a u'}, w.run plan done = some u → I done u → u.step plan a = some u' →
      I (done ++ [a]) u') (ran : w.run plan actions = some w') : I actions w' := by
  induction actions using List.reverseRecOn generalizing w' with
  | nil => exact Option.some.inj ran ▸ base
  | append_singleton done a ih =>
    obtain ⟨u, hu, ran⟩ := run_append_eq_some.1 ran
    obtain ⟨v, hstep, ran⟩ := run_cons_eq_some.1 ran
    cases Option.some.inj ran
    exact keeps hu (ih hu) hstep

theorem run_journal {actions : List (Action η)} (ran : w.run plan actions = some w') :
    ∃ facts, w'.journal = w.journal ++ facts := by
  refine run_invariant (I := fun u => ∃ facts, u.journal = w.journal ++ facts) ?_
    ⟨[], (List.append_nil _).symm⟩ ran
  rintro a - u u' ⟨facts, hu⟩ hstep
  obtain ⟨more, hm⟩ := step_journal hstep
  exact ⟨facts ++ more, by rw [hm, hu, List.append_assoc]⟩

theorem run_filterMap {α : Type} {noted : Fact η → Option α} {brought : Action η → Option α}
    (marks : ∀ {u u' : World η} {a : Action η}, u.step plan a = some u' →
      ∃ facts, u'.journal = u.journal ++ facts ∧ facts.filterMap noted = (brought a).toList)
    {actions : List (Action η)} (ran : w.run plan actions = some w') :
    w'.journal.filterMap noted = w.journal.filterMap noted ++ actions.filterMap brought := by
  induction actions generalizing w with
  | nil =>
    cases Option.some.inj ran
    exact (List.append_nil _).symm
  | cons a actions ih =>
    obtain ⟨u, hu, ran⟩ := run_cons_eq_some.1 ran
    obtain ⟨facts, hj, hf⟩ := marks hu
    rw [ih ran, hj, List.filterMap_append, hf, List.append_assoc]
    cases h : brought a <;> simp [h]

/-- A fact added by a run was added by one of its steps: the run splits there, and what the journal
holds before the fact is what it held before that step and what the step added in front of it. -/
theorem run_origin {actions : List (Action η)} (ran : w.run plan actions = some w')
    {before after : List (Fact η)} {f : Fact η} (hj : w'.journal = w.journal ++ before ++ f :: after) :
    ∃ earlier a later u u' front rest, actions = earlier ++ a :: later ∧
      w.run plan earlier = some u ∧ u.step plan a = some u' ∧ u'.run plan later = some w' ∧
      u'.journal = u.journal ++ front ++ f :: rest ∧ u.journal ++ front = w.journal ++ before := by
  induction actions generalizing w before with
  | nil =>
    cases Option.some.inj ran
    simp at hj
  | cons a actions ih =>
    obtain ⟨u, hu, ran⟩ := run_cons_eq_some.1 ran
    obtain ⟨added, hadded⟩ := step_journal hu
    obtain ⟨more, hmore⟩ := run_journal ran
    have hsplit : added ++ more = before ++ f :: after := by
      rw [hmore, hadded, List.append_assoc, List.append_assoc] at hj
      exact List.append_cancel_left hj
    have later (front : List (Fact η)) (hfront : before = added ++ front)
        (hrest : more = front ++ f :: after) :
        ∃ earlier b later v v' front' rest, a :: actions = earlier ++ b :: later ∧
          w.run plan earlier = some v ∧ v.step plan b = some v' ∧ v'.run plan later = some w' ∧
          v'.journal = v.journal ++ front' ++ f :: rest ∧
          v.journal ++ front' = w.journal ++ before := by
      have hu' : w'.journal = u.journal ++ front ++ f :: after := by
        rw [hmore, hrest, List.append_assoc]
      obtain ⟨earlier, b, later, v, v', front', rest, rfl, hv, hb, hl, hj', hfront'⟩ := ih ran hu'
      refine ⟨a :: earlier, b, later, v, v', front', rest, rfl,
        run_cons_eq_some.2 ⟨u, hu, hv⟩, hb, hl, hj', ?_⟩
      rw [hfront', hadded, hfront, List.append_assoc]
    -- The fact is among those that this step added, or a later step added it.
    rcases List.append_eq_append_iff.1 hsplit with ⟨front, hfront, hrest⟩ | ⟨rest, hadd, hrest⟩
    · exact later front hfront hrest
    · cases rest with
      | nil => exact later [] (by rw [hadd]; simp) hrest.symm
      | cons g rest =>
        obtain ⟨rfl, -⟩ := List.cons.inj hrest
        exact ⟨[], a, actions, w, u, before, rest, rfl, rfl, hu, ran,
          by rw [hadded, hadd, List.append_assoc], rfl⟩

theorem begun_origin {handler : Option η} {url : String} {actions : List (Action η)}
    (ran : (begun handler url).run plan actions = some w') {before after : List (Fact η)} {f : Fact η}
    (hj : w'.journal = before ++ f :: after) (hf : f.isWorkers = true) :
    ∃ earlier a later u u' front rest, actions = earlier ++ a :: later ∧
      (begun handler url).run plan earlier = some u ∧ u.step plan a = some u' ∧
      u'.run plan later = some w' ∧ u'.journal = u.journal ++ front ++ f :: rest ∧
      u.journal ++ front = before := by
  obtain ⟨facts, hfacts⟩ := run_journal ran
  have opened_eq : (begun handler url).journal = [.opened url] := rfl
  cases before with
  | nil =>
    rw [hfacts, opened_eq] at hj
    cases (List.cons.inj hj).1
    cases hf
  | cons g before =>
    have hg : g = .opened url := by
      rw [hfacts, opened_eq] at hj
      exact (List.cons.inj hj).1.symm
    subst hg
    have hj : w'.journal = (begun handler url).journal ++ before ++ f :: after := hj
    exact run_origin ran hj

/-! ### Reachable worlds -/

theorem Reaches.refl : Reaches plan w w := ⟨[], rfl⟩

theorem Reaches.trans {u : World η} (h : Reaches plan w u) (h' : Reaches plan u w') :
    Reaches plan w w' := by
  obtain ⟨left, hl⟩ := h
  obtain ⟨right, hr⟩ := h'
  exact ⟨left ++ right, run_append_eq_some.2 ⟨u, hl, hr⟩⟩

theorem Reaches.of_step (h : w.step plan a = some w') : Reaches plan w w' :=
  ⟨[a], run_cons_eq_some.2 ⟨w', h, rfl⟩⟩

theorem Reachable.of_begun (handler : Option η) (url : String) :
    Reachable plan (begun handler url) :=
  ⟨handler, url, .refl⟩

theorem Reachable.trans (h : Reachable plan w) (h' : Reaches plan w w') : Reachable plan w' := by
  obtain ⟨handler, url, hr⟩ := h
  exact ⟨handler, url, hr.trans h'⟩

theorem Reachable.step (h : Reachable plan w) (h' : w.step plan a = some w') :
    Reachable plan w' :=
  h.trans (.of_step h')

theorem Reachable.invariant {I : World η → Prop} (h : Reachable plan w)
    (base : ∀ handler url, I (begun handler url))
    (keeps : ∀ {u u' : World η} {a : Action η}, Reachable plan u → I u → u.step plan a = some u' → I u') :
    I w := by
  obtain ⟨handler, url, actions, ran⟩ := h
  refine (run_invariant (I := fun u => Reachable plan u ∧ I u) ?_
    ⟨.of_begun handler url, base handler url⟩ ran).2
  rintro a - u u' ⟨hr, hu⟩ hstep
  exact ⟨hr.step hstep, keeps hr hu hstep⟩

/-! ### Requests -/

/-- The one turn that hands a batch to the transport; it follows a decision without a pause. -/
structure Attempt (plan : Plan) (w : World η) (clock : Clock) (w' : World η) : Prop where
  sending : w.worker = .holding .sending
  nonempty : w.backlog.batch ≠ []
  backlog : w'.backlog = w.backlog.stampBatch clock.stamp
  worker : w'.worker = .calling (plan.target.request (plan.envelope.encode w'.backlog.batch))
  journal : w'.journal = w.journal ++ [.attempted w'.backlog.batch
    (plan.target.request (plan.envelope.encode w'.backlog.batch))]

theorem step_attempts (h : w.step plan a = some w') :
    (∃ facts, w'.journal = w.journal ++ facts ∧ Journal.attempts facts = []) ∨
      ∃ clock, a = .proceed clock ∧ Attempt plan w clock w' := by
  rcases call_or_turn h with hc | ht
  · obtain ⟨facts, hj, hf⟩ := hc.untouched.journal
    exact .inl ⟨facts, hj, Journal.attempts_eq_nil hf⟩
  · cases ht with
    | attempt clock at_ nonempty => exact .inr ⟨clock, rfl, at_, nonempty, rfl, rfl, rfl⟩
    | hear v => exact .inl ⟨_, rfl, by cases v <;> rfl⟩
    | stop | deliver | giveUp => exact .inl ⟨_, List.append_assoc _ _ _, rfl⟩
    | start | rest | retry | tell => exact .inl ⟨[_], rfl, rfl⟩
    | rouse | wake | resume | drain | backOff | assemble | decide | wait | skip | endReport =>
      exact .inl ⟨[], (List.append_nil _).symm, rfl⟩

theorem exists_attempt {handler : Option η} {url : String} {actions : List (Action η)}
    (ran : (begun handler url).run plan actions = some w) {before after : List (Fact η)}
    {batch : List Event} {request : Request}
    (hj : w.journal = before ++ .attempted batch request :: after) :
    ∃ earlier clock later u u', actions = earlier ++ .proceed clock :: later ∧
      (begun handler url).run plan earlier = some u ∧ u.step plan (.proceed clock) = some u' ∧
        Attempt plan u clock u' ∧ u.journal = before ∧ u'.backlog.batch = batch ∧
          request = plan.target.request (plan.envelope.encode batch) := by
  obtain ⟨earlier, a, later, u, u', added, rest, rfl, hu, hstep, -, hadded, hbefore⟩ :=
    begun_origin ran hj rfl
  rcases step_attempts hstep with ⟨facts, hfacts, none_sent⟩ | ⟨clock, rfl, attempt⟩
  · rw [hfacts, List.append_assoc] at hadded
    rw [List.append_cancel_left hadded, Journal.attempts_append] at none_sent
    exact absurd (List.append_eq_nil_iff.1 none_sent).2 (List.cons_ne_nil _ _)
  · have noted := attempt.journal.symm.trans hadded
    rw [List.append_assoc] at noted
    cases added with
    | nil =>
      cases List.append_cancel_left noted
      rw [List.append_nil] at hbefore
      exact ⟨earlier, clock, later, u, u', rfl, hu, hstep, attempt, hbefore, rfl, rfl⟩
    | cons f added => cases added <;> cases List.append_cancel_left noted

theorem decide_of_sending (h : w.step plan a = some w') (sending : w'.worker = .holding .sending) :
    ∃ clock, a = .proceed clock ∧ w.worker = .holding .deciding ∧
      w'.backlog = w.backlog.beginAttempt ∧ w'.journal = w.journal := by
  rcases call_or_turn h with hc | ht
  · have free : w.worker.holdsLock = false := by cases hc <;> assumption
    rcases hc.untouched.worker with hw | hw
    · rw [← hw, sending] at free
      cases free
    · rw [hw] at sending
      cases hworker : w.worker <;> simp_all [Worker.notify, Worker.holdsLock]
  · cases ht with
    | decide clock at_ => exact ⟨clock, rfl, at_, rfl, rfl⟩
    | _ => cases sending

theorem Reachable.request_eq (h : Reachable plan w) {batch : List Event} {request : Request}
    (hm : (batch, request) ∈ Journal.attempts w.journal) :
    request = plan.target.request (plan.envelope.encode batch) := by
  refine h.invariant (I := fun u => (batch, request) ∈ Journal.attempts u.journal →
    request = plan.target.request (plan.envelope.encode batch)) ?_ ?_ hm
  · intro handler url hm
    cases hm
  · intro u u' a _ hu hstep hm
    rcases step_attempts hstep with ⟨facts, hj, hf⟩ | ⟨clock, -, ha⟩
    · rw [hj, Journal.attempts_append, hf, List.append_nil] at hm
      exact hu hm
    · rw [ha.journal, Journal.attempts_append] at hm
      rcases List.mem_append.1 hm with hold | hnew
      · exact hu hold
      · cases List.mem_singleton.1 hnew
        rfl

end Courier.World
