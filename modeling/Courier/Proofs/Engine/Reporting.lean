import Courier.Proofs.Engine.Run

/-! The worker between two batches. While the outcome of a batch is reported no batch is at hand, and
the events being reported are counted as pending. -/
namespace Courier

variable {η : Type}

namespace Worker

def isReporting : Worker η → Bool
  | reporting _ _ _ => true
  | inHandler _ _ _ _ => true
  | _ => false

@[simp] theorem isReporting_notify (w : Worker η) : w.notify.isReporting = w.isReporting := by
  cases w <;> rfl

end Worker

namespace World

open Journal

def settledBatches (w : World η) : List (List Event) := (settlements w.journal).map (·.1)

def finished (w : World η) : List (List Event) :=
  if w.worker.isReporting then w.settledBatches.dropLast else w.settledBatches

def underReport (w : World η) : List Event :=
  if w.worker.isReporting then w.settledBatches.getLast?.getD [] else []

structure Reported (w : World η) : Prop where
  settling : w.backlog.settling = w.underReport.length
  reporting : w.worker.isReporting = true → w.backlog.batch = [] ∧ settlements w.journal ≠ []

namespace Reported

variable {plan : Plan} {w w' : World η} {a : Action η}

theorem begun (handler : Option η) (url : String) : Reported (begun handler url) where
  settling := rfl
  reporting := fun h => nomatch h

theorem keep (h : Reported w) (same : settlements w'.journal = settlements w.journal)
    (isReporting : w'.worker.isReporting = w.worker.isReporting)
    (settling : w'.backlog.settling = w.backlog.settling)
    (batch : w.worker.isReporting = true → w'.backlog.batch = w.backlog.batch) : Reported w' := by
  constructor
  · rw [settling, underReport, settledBatches, same, isReporting]
    exact h.settling
  · rw [isReporting, same]
    intro hr
    exact ⟨(batch hr).trans (h.reporting hr).1, (h.reporting hr).2⟩

theorem call (h : Reported w) (hc : Call plan w a w') : Reported w' := by
  have same := hc.untouched
  obtain ⟨facts, hj, hf⟩ := same.journal
  refine h.keep ?_ ?_ same.settling fun _ => same.batch
  · rw [hj, settlements_append, settlements_eq_nil hf, List.append_nil]
  · rcases same.worker with hw | hw <;> simp [hw]

private theorem settle {before : List (Fact η)} {b : Backlog η} {cs : List Caller}
    (handler : Option η) (outcome : Outcome) :
    Reported ⟨b.beginSettling, .reporting handler outcome b.batch, cs,
      before ++ [.settled b.batch handler outcome]⟩ where
  settling := by
    simp [underReport, settledBatches, Worker.isReporting, Backlog.beginSettling]
  reporting := fun _ => ⟨rfl, by simp⟩

theorem turn (h : Reported w) (ht : Turn plan w a w') : Reported w' := by
  have apart {p : Worker η} (at_ : w.worker = p) (hp : p.isReporting = false) :
      w.worker.isReporting = true → w'.backlog.batch = w.backlog.batch := fun hr => by
    rw [at_, hp] at hr
    cases hr
  cases ht with
  | rouse clock at_ | wake clock at_ | resume clock at_ | drain clock at_ | backOff clock at_
  | assemble clock at_ | decide clock at_ | wait clock at_ | skip clock at_ =>
    exact h.keep rfl (by simp [at_, Worker.isReporting]) rfl (apart at_ rfl)
  | start clock at_ | rest clock at_ | attempt clock at_ | retry answer now at_ =>
    exact h.keep (settlements_append.trans (List.append_nil _)) (by simp [at_, Worker.isReporting]) rfl (apart at_ rfl)
  | stop clock at_ =>
    refine h.keep ?_ (by simp [at_, Worker.isReporting]) rfl (apart at_ rfl)
    rw [List.append_assoc, settlements_append]
    exact List.append_nil _
  | deliver answer now at_ => exact settle w.backlog.handler .success (b := w.backlog.succeed)
  | @giveUp answer now request e at_ =>
    exact settle w.backlog.handler (.failure e.message) (b := w.backlog)
  | tell clock at_ =>
    exact h.keep (settlements_append.trans (List.append_nil _)) (by simp [at_, Worker.isReporting]) rfl fun _ => rfl
  | hear v at_ =>
    refine h.keep ?_ (by simp [at_, Worker.isReporting]) rfl fun _ => rfl
    rw [settlements_append]
    cases v <;> exact List.append_nil _
  | endReport clock at_ => exact ⟨rfl, fun hr => nomatch hr⟩

theorem of_reachable (h : Reachable plan w) : Reported w :=
  h.invariant begun fun _ hr hstep => (call_or_turn hstep).elim hr.call hr.turn

end Reported

/-- The worker gets done with its report by going on, while every call of a handler ends. -/
def ReportEnds (plan : Plan) (clock : Clock) (verdict : Event → Verdict) (w : World η) : Prop :=
  ∃ actions w', w.run plan actions = some w' ∧ w'.worker = .holding .assembling ∧
    ∀ a ∈ actions, a = .proceed clock ∨ ∃ e, a = .verdict (verdict e)

variable {plan : Plan} {clock : Clock} {verdict : Event → Verdict} {w : World η}

/-- A report that nobody interferes with comes to its end, and adds to the journal what dispatching its
events comes to. -/
theorem exists_run_dispatch {handler : Option η} {outcome : Outcome} {rest : List Event}
    (at_ : w.worker = .reporting handler outcome rest) : ∃ actions : List (Action η),
      (∀ a ∈ actions, a = .proceed clock ∨ ∃ e, a = .verdict (verdict e)) ∧
      w.run plan actions = some (w.note (dispatch handler outcome verdict rest)).endSettling := by
  have ended {w : World η} (hstep : w.step plan (.proceed clock) = some w.endSettling) :
      ∃ actions : List (Action η), (∀ a ∈ actions, a = .proceed clock ∨ ∃ e, a = .verdict (verdict e)) ∧
        w.run plan actions = some (w.note []).endSettling := by
    refine ⟨[.proceed clock], List.forall_mem_singleton.2 (.inl rfl), ?_⟩
    rw [run_cons_eq_some]
    exact ⟨_, hstep, by simp [run, note]⟩
  cases handler with
  | none => exact ended (by rw [step, proceed, at_])
  | some h =>
    induction rest generalizing w with
    | nil => exact ended (by rw [step, proceed, at_])
    | cons e rest ih =>
      let told := (w.note [.told h outcome e]).goto (.inHandler h outcome e rest)
      let heard := (told.note (verdict e).facts).goto (.reporting (some h) outcome rest)
      have tell : w.step plan (.proceed clock) = some told := by rw [step, proceed, at_]
      have hear : told.step plan (.verdict (verdict e)) = some heard := rfl
      obtain ⟨actions, allowed, ran⟩ := ih (w := heard) rfl
      refine ⟨.proceed clock :: .verdict (verdict e) :: actions,
        List.forall_mem_cons.2 ⟨.inl rfl, List.forall_mem_cons.2 ⟨.inr ⟨e, rfl⟩, allowed⟩⟩,
        run_cons_eq_some.2 ⟨told, tell, run_cons_eq_some.2 ⟨heard, hear, ran.trans ?_⟩⟩⟩
      simp [told, heard, note, goto, endSettling, onBacklog, dispatch]

theorem reportEnds_of_reporting {handler : Option η} {outcome : Outcome} {rest : List Event}
    (at_ : w.worker = .reporting handler outcome rest) : ReportEnds plan clock verdict w := by
  obtain ⟨actions, allowed, ran⟩ := exists_run_dispatch at_
  exact ⟨actions, _, ran, rfl, allowed⟩

theorem reportEnds (h : w.worker.isReporting = true) : ReportEnds plan clock verdict w := by
  cases at_ : w.worker with
  | reporting handler outcome rest => exact reportEnds_of_reporting at_
  | inHandler handler outcome e rest =>
    let heard := (w.note (verdict e).facts).goto (.reporting (some handler) outcome rest)
    have hear : w.step plan (.verdict (verdict e)) = some heard := by rw [step, at_]
    obtain ⟨actions, w', ran, ended, allowed⟩ :=
      (reportEnds_of_reporting rfl : ReportEnds plan clock verdict heard)
    exact ⟨_ :: actions, w', run_cons_eq_some.2 ⟨heard, hear, ran⟩, ended,
      List.forall_mem_cons.2 ⟨.inr ⟨e, rfl⟩, allowed⟩⟩
  | _ =>
    rw [at_] at h
    cases h

end World

end Courier
