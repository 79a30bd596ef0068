import Courier.Command.Run
import Courier.Proofs.Engine.Draining
import Courier.Proofs.Engine.Sessions

/-! The schedule that the command follows. It is one of those that the client allows, and it comes to
the end of the worker before it runs out of steps, whatever the transport answers. -/
namespace Courier

variable {η σ : Type}

namespace Worker

def stepsToRest : Worker η → Nat
  | starting => 3
  | resting isNotified => if isNotified then 3 else 0
  | holding .assembling => 2
  | holding .idle => 1
  | _ => 0

theorem stepsToRest_le (w : Worker η) : w.stepsToRest ≤ 3 := by
  unfold stepsToRest
  split <;> first | omega | (split <;> omega)

end Worker

namespace World

variable {plan : Plan} {clock : Clock} {w w' u : World η} {a : Action η}

/-! ### Driving a client -/

/-- Driving ends, with no step left to take, where every step that is taken makes less of something. -/
theorem drive_ends {host : Host η σ} {I : World η → σ → Prop} {m : World η → Nat}
    (keeps : ∀ {w s a s'}, I w s → w.next? host clock s = some (a, s') →
      ∃ u, w.step plan a = some u ∧ I u s' ∧ m u < m w)
    {fuel : Nat} {s : σ} (enough : m w ≤ fuel) (h : I w s) :
    I (w.drive host plan clock fuel s).1 (w.drive host plan clock fuel s).2 ∧
      (w.drive host plan clock fuel s).1.next? host clock (w.drive host plan clock fuel s).2 = none := by
  induction fuel generalizing w s with
  | zero =>
    refine ⟨h, ?_⟩
    cases hnext : w.next? host clock s with
    | none => exact hnext
    | some next =>
      obtain ⟨u, -, -, less⟩ := keeps h hnext
      omega
  | succ fuel ih =>
    unfold drive
    cases hnext : w.next? host clock s with
    | none => exact ⟨h, hnext⟩
    | some next =>
      obtain ⟨u, hstep, hu, less⟩ := keeps h hnext
      simp only [hstep]
      exact ih (by omega) hu

/-- What is left to do for a worker that nobody disturbs, and for those who wait for it. -/
def toGo (plan : Plan) (w : World η) : Nat :=
  if w.backlog.isDrained then w.worker.stepsToRest + w.callers.length
  else w.stepsLeft plan + 4 + w.callers.length

theorem Turn.callers_of_undrained (ht : Turn plan w a w') (undrained : w.backlog.isDrained = false) :
    w'.callers = w.callers := by
  cases ht with
  | rest clock at_ drained | stop clock at_ drained =>
    exact absurd (undrained.symm.trans drained) Bool.false_ne_true
  | _ => rfl

theorem Turn.length_callers (ht : Turn plan w a w') : w'.callers.length = w.callers.length := by
  cases ht with
  | rest | stop => exact List.length_map _
  | _ => rfl

theorem Turn.stepsToRest_lt (roomy : 0 < plan.flushCount) (hr : Reachable plan w)
    (drained : w.backlog.isDrained = true) (roused : w.worker ≠ .resting false)
    (ht : Turn plan w a w') : w'.worker.stepsToRest < w.worker.stepsToRest := by
  have batchless {p : Worker η} (at_ : w.worker = p) : p.hasBatch = false := by
    refine Bool.eq_false_iff.2 fun hasBatch => ?_
    have nonempty := (Phased.of_reachable roomy hr).held (at_ ▸ hasBatch)
    exact nonempty (Backlog.isDrained_iff.1 drained).2.1
  have reportless {p : Worker η} (at_ : w.worker = p) : p.isReporting = false :=
    at_ ▸ not_reporting_of_drained hr drained
  have left (undrained : w.backlog.isDrained = false) : False :=
    Bool.false_ne_true (undrained.symm.trans drained)
  cases ht with
  | start clock at_ | rest clock at_ | stop clock at_ | drain clock at_ => simp [at_, Worker.stepsToRest]
  | @rouse clock isNotified at_ =>
    cases isNotified with
    | true => simp [at_, Worker.stepsToRest]
    | false => exact absurd at_ roused
  | resume clock at_ undrained | backOff clock at_ undrained | assemble clock at_ undrained =>
    exact (left undrained).elim
  | wake clock at_ | decide clock at_ | wait clock at_ | skip clock at_ | attempt clock at_
  | deliver answer now at_ | retry answer now at_ | giveUp answer now at_ => cases batchless at_
  | tell clock at_ | hear v at_ | endReport clock at_ => cases reportless at_

theorem Turn.toGo_lt (roomy : 0 < plan.flushCount) (hr : Reachable plan w) (awaited : Awaited w)
    (roused : w.worker ≠ .resting false) (ht : Turn plan w a w') : w'.toGo plan < w.toGo plan := by
  have callers := ht.length_callers
  unfold toGo
  cases drained : w.backlog.isDrained with
  | true =>
    have fewer := ht.stepsToRest_lt roomy hr drained roused
    rw [ht.drained drained]
    simp only [if_true]
    omega
  | false =>
    have atMost := w'.worker.stepsToRest_le
    cases drained' : w'.backlog.isDrained with
    | true =>
      simp only [if_true, Bool.false_eq_true, if_false]
      omega
    | false =>
      have undrained {v : World η} (h : v.backlog.isDrained = false) : ¬v.AtRest := fun rest =>
        Bool.false_ne_true (h.symm.trans rest.2)
      have fewer := ht.stepsLeft_lt (Phased.of_reachable roomy hr) (Counted.of_reachable hr)
        (awaited.isUrgent (Attended.of_reachable hr)) (undrained drained) (undrained drained')
      simp only [Bool.false_eq_true, if_false]
      omega

theorem closing_of_step (h : w.step plan a = some w') (closing : w.backlog.closing = true) :
    w'.backlog.closing = true := by
  rcases call_or_turn h with hc | ht
  · cases hc <;> first | rfl | exact closing
  · cases ht <;> exact closing

theorem closing_of_ended (hr : Reachable plan w) (ended : w.worker = .terminated) :
    w.backlog.closing = true := by
  refine hr.invariant (I := fun u => u.worker = .terminated → u.backlog.closing = true)
    (fun _ _ => nofun) ?_ ended
  intro u u' a _ hu hstep ended
  by_cases already : u.worker = .terminated
  · exact closing_of_step hstep (hu already)
  · obtain ⟨-, closing, -⟩ := step_to_terminated hstep already ended
    exact closing_of_step hstep closing

/-! ### The next step -/

theorem exists_proceed (able : w.canProceed clock.now = true) :
    ∃ u, w.step plan (.proceed clock) = some u := by
  cases at_ : w.worker with
  | holding phase => cases phase <;> simp [step, proceed, at_]
  | reporting handler outcome rest => cases handler <;> cases rest <;> simp [step, proceed, at_]
  | starting | resting | waiting => simp [step, proceed, at_]
  | calling | inHandler | terminated => simp [canProceed, at_] at able

theorem exists_recheck (unable : w.canProceed clock.now = false) {c : Caller} (waits : c ∈ w.callers) :
    w.step plan (.recheck c.id) = some (w.recheck c.id) := by
  have parked : w.callers.any (fun other => other.id = c.id) = true :=
    List.any_eq_true.2 ⟨c, waits, decide_eq_true rfl⟩
  have free : w.worker.holdsLock = false := by
    cases at_ : w.worker with
    | holding => simp [canProceed, at_] at unable
    | _ => rfl
  simp [step, locked, parked, free]

end World

namespace Command

open World

variable {plan : Plan} {clock : Clock} {w w' u : World Unit} {a : Action Unit}
  {deliver : Request → σ → Answer × σ} {s s' : σ}

/-- The next step of the command's schedule: the worker's, or that of a caller that was notified. -/
inductive Next (deliver : Request → σ → Answer × σ) (clock : Clock) (w : World Unit) (s : σ) :
    Action Unit → σ → Prop where
  | proceed (able : w.canProceed clock.now = true) : Next deliver clock w s (.proceed clock) s
  | answer {request : Request} (at_ : w.worker = .calling request) :
      Next deliver clock w s (.answer (deliver request s).1 clock.now) (deliver request s).2
  | verdict {h : Unit} {outcome : Outcome} {e : Event} {rest : List Event}
      (at_ : w.worker = .inHandler h outcome e rest) : Next deliver clock w s (.verdict .ok) s
  | recheck {c : Caller} (unable : w.canProceed clock.now = false) (waits : c ∈ w.callers)
      (notified : c.isNotified = true) : Next deliver clock w s (.recheck c.id) s

theorem next_of_woken (unable : w.canProceed clock.now = false)
    (h : (w.wokenCaller?.map fun id => (Action.recheck id, s)) = some (a, s')) :
    Next deliver clock w s a s' := by
  obtain ⟨id, hid, heq⟩ := Option.map_eq_some_iff.1 h
  obtain ⟨c, hc, rfl⟩ := Option.map_eq_some_iff.1 hid
  cases heq
  exact .recheck unable (List.mem_of_find?_eq_some hc) (List.find?_some hc)

theorem next_of_eq (h : w.next? (hostOf deliver) clock s = some (a, s')) :
    Next deliver clock w s a s' := by
  unfold next? at h
  split at h
  next able => cases h; exact .proceed able
  next unable =>
    have unable := Bool.eq_false_iff.2 unable
    dsimp only at h
    split at h
    next at_ => cases h; exact .answer at_
    next at_ => cases h; exact .verdict at_
    next => exact next_of_woken unable h

structure Still (w : World Unit) : Prop where
  asleep : w.worker.isAsleep = true ∨ w.worker = .terminated
  unnotified : ∀ c ∈ w.callers, c.isNotified = false

theorem still_of_next_eq_none (h : w.next? (hostOf deliver) clock s = none) : Still w := by
  unfold next? at h
  split at h
  next => cases h
  next unable =>
    dsimp only at h
    split at h
    next => cases h
    next => cases h
    next apart unheard =>
      rw [Option.map_eq_none_iff, wokenCaller?, Option.map_eq_none_iff, List.find?_eq_none] at h
      refine ⟨?_, fun c hc => Bool.eq_false_iff.2 (h c hc)⟩
      cases at_ : w.worker with
      | calling request => exact (apart request at_).elim
      | inHandler h outcome e rest => exact (unheard h outcome e rest at_).elim
      | resting | waiting | terminated => simp_all [canProceed, Worker.isAsleep]
      | starting | holding | reporting => simp [canProceed, at_] at unable

/-! ### Submitting -/

def Ordered (deliver : Request → σ → Answer × σ) (plan : Plan) (url : String) (start : σ)
    (orders : List Order) (w : World Unit) (s : σ) : Prop :=
  ∃ actions, Served deliver plan (begun (some ()) url) start actions w s ∧
    actions.filterMap Action.order? = orders

/-- What holds at every moment of the command's schedule, after these orders. -/
structure Underway (deliver : Request → σ → Answer × σ) (plan : Plan) (url : String) (start : σ)
    (orders : List Order) (closing : Bool) (w : World Unit) (s : σ) : Prop where
  ordered : Ordered deliver plan url start orders w s
  closing : w.backlog.closing = closing
  awaited : Awaited w
  /-- Callers that wait are notified at the end. -/
  unnotified : w.backlog.isDrained = false → ∀ c ∈ w.callers, c.isNotified = false

variable {url : String} {start : σ} {orders : List Order} {closing : Bool}

theorem Next.exists_step (h : Next deliver clock w s a s') : ∃ u, w.step plan a = some u := by
  cases h with
  | proceed able => exact exists_proceed able
  | answer at_ | verdict at_ => simp [step, at_]
  | recheck unable waits => exact ⟨_, exists_recheck unable waits⟩

theorem Next.order?_eq_none (h : Next deliver clock w s a s') : a.order? = none := by
  cases h <;> rfl

theorem Ordered.reachable (h : Ordered deliver plan url start orders w s) : Reachable plan w := by
  obtain ⟨actions, served, -⟩ := h
  exact ⟨some (), url, actions, served.run⟩

theorem Ordered.step (h : Ordered deliver plan url start orders w s) (apart : a.isAnswer = false)
    (hstep : w.step plan a = some u) :
    Ordered deliver plan url start (orders ++ a.order?.toList) u s := by
  obtain ⟨actions, served, rfl⟩ := h
  refine ⟨actions ++ [a], .other served apart hstep, ?_⟩
  cases ordered : a.order? <;> simp [ordered]

theorem Ordered.next (h : Ordered deliver plan url start orders w s) (hn : Next deliver clock w s a s')
    (hstep : w.step plan a = some u) : Ordered deliver plan url start orders u s' := by
  cases hn with
  | answer at_ =>
    obtain ⟨actions, served, rfl⟩ := h
    exact ⟨actions ++ [_], .answer _ served at_ hstep, by simp [Action.order?]⟩
  | proceed | verdict | recheck => exact List.append_nil orders ▸ h.step rfl hstep

theorem Next.turn_or_leave (h : Next deliver clock w s a s') (hstep : w.step plan a = some u)
    (unnotified : w.backlog.isDrained = false → ∀ c ∈ w.callers, c.isNotified = false) :
    (Turn plan w a u ∧ w.worker ≠ .resting false) ∨
      w.backlog.isDrained = true ∧ u.backlog.isDrained = true ∧ u.worker = w.worker ∧
        u.callers.length < w.callers.length := by
  have turn (notCall : ∀ v, ¬Call plan w a v) : Turn plan w a u :=
    (call_or_turn hstep).resolve_left (notCall u)
  cases h with
  | proceed able =>
    refine .inl ⟨turn (by rintro _ ⟨⟩), fun at_ => ?_⟩
    simp [canProceed, at_] at able
  | answer at_ | verdict at_ => exact .inl ⟨turn (by rintro _ ⟨⟩), by simp [at_]⟩
  | @recheck c unable waits notified =>
    rcases call_or_turn hstep with hc | ht
    · cases hc with
      | leaveWait _ free parked drained =>
        refine .inr ⟨drained, drained, rfl, ?_⟩
        exact List.length_filter_lt_length_iff_exists.2 ⟨c, waits, by simp⟩
      | stayWait _ free parked undrained =>
        exact absurd ((unnotified undrained c waits).symm.trans notified) Bool.false_ne_true
    · cases ht

theorem Underway.reachable (h : Underway deliver plan url start orders closing w s) : Reachable plan w :=
  h.ordered.reachable

theorem Underway.next (roomy : 0 < plan.flushCount)
    (h : Underway deliver plan url start orders closing w s) (hn : Next deliver clock w s a s') :
    ∃ u, w.step plan a = some u ∧ Underway deliver plan url start orders closing u s' ∧
      u.toGo plan < w.toGo plan := by
  obtain ⟨u, hstep⟩ : ∃ u, w.step plan a = some u := hn.exists_step
  have nothingNew : a.accepted? = none := by cases hn <;> rfl
  refine ⟨u, hstep, ⟨h.ordered.next hn hstep, ?_, h.awaited.step nothingNew hstep, ?_⟩, ?_⟩
  · rw [step_closing hstep (by simp [hn.order?_eq_none])]
    exact h.closing
  · intro undrained
    rcases hn.turn_or_leave hstep h.unnotified with ⟨ht, -⟩ | ⟨-, drained, -⟩
    · have before : w.backlog.isDrained = false :=
        Bool.eq_false_iff.2 fun drained => Bool.false_ne_true (undrained.symm.trans (ht.drained drained))
      rw [ht.callers_of_undrained before]
      exact h.unnotified before
    · exact absurd (undrained.symm.trans drained) Bool.false_ne_true
  · rcases hn.turn_or_leave hstep h.unnotified with ⟨ht, roused⟩ | ⟨drained, drained', worker, fewer⟩
    · exact ht.toGo_lt roomy h.reachable h.awaited roused
    · rw [toGo, toGo, drained, drained', worker]
      exact Nat.add_lt_add_left fewer _

theorem Underway.rested (roomy : 0 < plan.flushCount)
    (h : Underway deliver plan url start orders closing w s) (still : Still w)
    (running : w.worker ≠ .terminated) :
    w.worker = .resting false ∧ w.backlog.isDrained = true ∧ w.callers = [] ∧
      w.backlog.closing = false := by
  have attentive := Attentive.of_reachable roomy h.reachable
  have asleep := still.asleep.resolve_right running
  have rest : w.AtRest := by
    by_contra restless
    have able : Able plan w :=
      able_of_restless attentive (Attended.of_reachable h.reachable) h.awaited restless running
    exact Bool.false_ne_true (able.awake.symm.trans asleep)
  have at_ : w.worker = .resting false := by
    obtain ⟨idle, -⟩ := rest
    cases at_ : w.worker <;> simp_all [Worker.isIdle, Worker.isAsleep]
  obtain ⟨-, -, -, isOpen, notified⟩ := attentive.resting at_
  refine ⟨at_, rest.2, List.eq_nil_iff_forall_not_mem.2 fun c hc => ?_, isOpen⟩
  exact Bool.false_ne_true ((still.unnotified c hc).symm.trans (notified c hc))

theorem Underway.drive (clock : Clock) (roomy : 0 < plan.flushCount)
    (h : Underway deliver plan url start orders closing w s) {fuel : Nat} (enough : w.toGo plan ≤ fuel) :
    Underway deliver plan url start orders closing
        (w.drive (hostOf deliver) plan clock fuel s).1 (w.drive (hostOf deliver) plan clock fuel s).2 ∧
      Still (w.drive (hostOf deliver) plan clock fuel s).1 := by
  obtain ⟨underway, stuck⟩ := drive_ends (I := Underway deliver plan url start orders closing)
    (m := toGo plan) (fun h hnext => h.next roomy (next_of_eq hnext)) enough h
  exact ⟨underway, still_of_next_eq_none stuck⟩

theorem act_eq (h : w.step plan a = some u) : act plan a w = u := by
  rw [act, h, Option.getD_some]

structure Loaded (deliver : Request → σ → Answer × σ) (plan : Plan) (url : String) (start : σ)
    (events : List Event) (w : World Unit) : Prop where
  ordered : Ordered deliver plan url start (events.map .submit) w start
  worker : w.worker = .starting
  callers : w.callers = []
  batch : w.backlog.batch = []
  queue : w.backlog.queue.length = events.length
  closing : w.backlog.closing = false

theorem Loaded.enqueue {events : List Event} (h : Loaded deliver plan url start events w) (e : Event) :
    Loaded deliver plan url start (events ++ [e]) (act plan (.enqueue e clock) w) := by
  have free : w.worker.holdsLock = false := by rw [h.worker]; rfl
  have hstep : w.step plan (.enqueue e clock) = some (w.enqueue plan clock e) := by
    simp [step, locked, free]
  rw [act_eq hstep]
  refine ⟨?_, ?_, h.callers, h.batch, ?_, h.closing⟩
  · rw [List.map_append]
    exact h.ordered.step rfl hstep
  · rw [World.enqueue, note, notifyWorker, onBacklog, h.worker]
    rfl
  · simp [World.enqueue, note, notifyWorker, onBacklog, Backlog.enqueue, h.queue]

theorem loaded_of_foldl (clock : Clock) (events : List Event) : Loaded deliver plan url start events
    (events.foldl (fun w e => act plan (.enqueue e clock) w) (begun (some ()) url)) := by
  induction events using List.reverseRecOn with
  | nil => exact ⟨⟨[], .refl, rfl⟩, rfl, rfl, rfl, rfl, rfl⟩
  | append_singleton events e ih =>
    rw [List.foldl_append]
    exact ih.enqueue e

theorem le_stepsFor (plan : Plan) (n : Nat) :
    4 * ((plan.policy.maxRetries + 1) * n) + 3 * n + 9 ≤ stepsFor plan n := by
  have tries : (plan.policy.maxRetries + 1) * n ≤ (plan.policy.maxRetries + 2) * (n + 2) :=
    Nat.mul_le_mul (by omega) (by omega)
  have twice : 2 * (n + 2) ≤ (plan.policy.maxRetries + 2) * (n + 2) :=
    Nat.mul_le_mul_right _ (by omega)
  rw [stepsFor, Nat.mul_assoc]
  omega

theorem toGo_le_stepsFor {n : Nat} (worker : w.worker = .starting) (batch : w.backlog.batch = [])
    (queue : w.backlog.queue.length = n) (callers : w.callers.length ≤ 1) :
    w.toGo plan ≤ stepsFor plan n := by
  refine Nat.le_trans ?_ (le_stepsFor plan n)
  unfold toGo
  split
  · rw [worker, Worker.stepsToRest]
    omega
  · rw [stepsLeft, attemptsLeft, triesLeft_of_nil batch, batch, queue, worker, Worker.rank,
      List.length_nil]
    omega

theorem Loaded.wait {events : List Event} (h : Loaded deliver plan url start events w) :
    Underway deliver plan url start (events.map .submit ++ [.wait]) false (act plan (.enterWait 0) w)
        start ∧
      (act plan (.enterWait 0) w).toGo plan ≤ stepsFor plan events.length := by
  have free : w.worker.holdsLock = false := by rw [h.worker]; rfl
  have hstep : w.step plan (.enterWait 0) = some (w.enterWait 0) := by
    simp [step, locked, free, h.callers]
  have ordered : Ordered deliver plan url start (events.map .submit ++ [.wait]) (w.enterWait 0) start :=
    h.ordered.step rfl hstep
  rw [act_eq hstep]
  generalize w.enterWait 0 = u at hstep ordered
  rcases call_or_turn hstep with hc | ht
  · cases hc with
    | passWait _ free isNew drained =>
      refine ⟨⟨ordered, h.closing, .inr drained, by simp [h.callers]⟩, ?_⟩
      exact toGo_le_stepsFor h.worker h.batch h.queue (by simp [h.callers])
    | enterWait _ free isNew undrained =>
      refine ⟨⟨ordered, h.closing, .inl (by simp), by simp [h.callers]⟩, ?_⟩
      exact toGo_le_stepsFor (by rw [h.worker]; rfl) h.batch h.queue (by simp [h.callers])
  · cases ht

theorem Underway.close (h : Underway deliver plan url start orders false w s)
    (rested : w.worker = .resting false) (drained : w.backlog.isDrained = true) (alone : w.callers = []) :
    Underway deliver plan url start (orders ++ [.close]) true (act plan .close w) s ∧
      (act plan .close w).toGo plan ≤ 3 := by
  have hstep : w.step plan .close = some w.close := by
    simp [step, locked, rested, Worker.holdsLock]
  have drained' : w.close.backlog.isDrained = true := drained
  rw [act_eq hstep]
  refine ⟨⟨h.ordered.step rfl hstep, rfl, .inr drained', fun undrained => ?_⟩, ?_⟩
  · exact absurd (undrained.symm.trans drained') Bool.false_ne_true
  · rw [toGo, drained', World.close, notifyWorker, onBacklog, rested, alone]
    exact Nat.le_refl 3

/-- The command's own schedule is one of those in which its events may be delivered. -/
theorem session_submit (roomy : 0 < plan.flushCount) (world : w = begun (some ()) url)
    (deliver : Request → σ → Answer × σ) (start : σ) (clock : Clock) (events : List Event) :
    ∃ actions, Session deliver plan w start events actions
      (submit deliver plan clock events w start).1 (submit deliver plan clock events w start).2 := by
  subst world
  have loaded : Loaded deliver plan url start events _ := loaded_of_foldl clock events
  obtain ⟨waiting, enough⟩ := loaded.wait
  obtain ⟨waited, still⟩ := waiting.drive clock roomy enough
  have running : _ ≠ Worker.terminated := fun ended =>
    Bool.false_ne_true (waited.closing.symm.trans (closing_of_ended waited.reachable ended))
  obtain ⟨rested, drained, alone, -⟩ := waited.rested roomy still running
  obtain ⟨closing, enough⟩ := waited.close rested drained alone
  have fuel : 3 ≤ stepsFor plan events.length := by
    have many := le_stepsFor plan events.length
    omega
  obtain ⟨closed, still⟩ := closing.drive clock roomy (enough.trans fuel)
  obtain ⟨actions, served, ordered⟩ := closed.ordered
  refine ⟨actions, served, ordered, ?_⟩
  by_contra running
  exact Bool.false_ne_true ((closed.rested roomy still running).2.2.2.symm.trans closed.closing)

end Command

end Courier
