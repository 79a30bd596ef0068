import Courier.Proofs.Engine.Completion
import Courier.Proofs.Engine.Flushing
import Courier.Proofs.Engine.Reasons

/-! What a caller that has waited leaves behind. Each time it looks in vain it asks for a flush, as if it
did not keep every batch urgent already, and only a decision to send uses that up. The attempt that was
decided upon before may be the one that leaves nothing to deliver; then the wish outlives the caller. -/
namespace Courier.World

variable {η : Type} {plan : Plan} {start w w' : World η} {a : Action η} {actions : List (Action η)}
  {id : Nat}

/-- A flush was asked for explicitly since the last decision to send, or since the start if there was
none. -/
def FlushedSince (plan : Plan) (start : World η) (actions : List (Action η)) : Prop :=
  ∃ earlier since u u', actions = earlier ++ .flush :: since ∧ start.run plan earlier = some u ∧
    u.step plan .flush = some u' ∧ Undecided plan u' since

/-- A caller that is the last one to wait leaves no wish to flush behind but one that was explicit. -/
def LeavesNoWish (plan : Plan) (start : World η) : Prop :=
  ∀ actions w id w', start.run plan actions = some w → Returns plan w id w' →
    ¬FlushedSince plan start actions → w'.callers = [] → w'.backlog.needFlush = false

theorem Returns.unlocked (h : Returns plan w id w') :
    w.worker.holdsLock = false ∧ w'.backlog.needFlush = w.backlog.needFlush := by
  obtain ⟨stepped, gone⟩ := h
  rcases stepped with hstep | hstep <;> rcases call_or_turn hstep with hc | ht
  · cases hc with
    | passWait _ free => exact ⟨free, rfl⟩
    | enterWait => exact absurd rfl (gone ⟨id, false⟩ (by simp))
  · cases ht
  · cases hc with
    | leaveWait _ free => exact ⟨free, rfl⟩
    | stayWait => exact absurd rfl (gone ⟨id, false⟩ (by simp))
  · cases ht

theorem Asks.needFlush (asks : w.Asks a) (hstep : w.step plan a = some w') :
    w'.backlog.needFlush = true := by
  rcases call_or_turn hstep with hc | ht
  · cases hc with
    | flush | enterWait | stayWait => rfl
    | passWait _ _ _ drained | leaveWait _ _ _ drained => cases drained.symm.trans asks
    | enqueue | scrub | setHandler | close => exact asks.elim
  · cases ht <;> exact asks.elim

theorem Undecided.needFlush (undecided : Undecided plan w actions)
    (ran : w.run plan actions = some w') (wish : w.backlog.needFlush = true) :
    w'.backlog.needFlush = true := by
  induction actions generalizing w with
  | nil =>
    cases Option.some.inj ran
    exact wish
  | cons a actions ih =>
    obtain ⟨u, hstep, ran⟩ := run_cons_eq_some.1 ran
    have apart : w.worker ≠ .holding .deciding := by
      intro deciding
      obtain ⟨clock, rfl, rfl⟩ := eq_decide_of_step hstep deciding
      refine undecided [] (.proceed clock) actions w _ rfl rfl hstep ?_
      rw [decide_of_needFlush wish]
    refine ih ?_ ran (needFlush_of_step hstep wish apart)
    intro front b rest v v' split hv
    exact undecided (a :: front) b rest v v' (by rw [split]; rfl) (run_cons_eq_some.2 ⟨u, hstep, hv⟩)

theorem AskedSince.needFlush (h : AskedSince plan start actions)
    (ran : start.run plan actions = some w) : w.backlog.needFlush = true := by
  obtain ⟨earlier, a, since, u, u', rfl, hu, asks, hstep, undecided⟩ := h
  obtain ⟨v, hv, ran⟩ := run_append_eq_some.1 ran
  cases Option.some.inj (hu.symm.trans hv)
  obtain ⟨v', hv', ran⟩ := run_cons_eq_some.1 ran
  cases Option.some.inj (hstep.symm.trans hv')
  exact undecided.needFlush ran (asks.needFlush hstep)

/-- When a caller returns there is a wish to flush just if a caller has asked for one since the last
decision to send, explicitly or because it had to wait: nothing else leaves one on an empty client. -/
theorem wish_left_iff {settings : Settings} {env : Envelope} {handler : Option η}
    (opened : World.opened settings env handler = .ok (plan, start))
    (ran : start.run plan actions = some w) (returns : Returns plan w id w') :
    w'.backlog.needFlush = true ↔ AskedSince plan start actions := by
  have roomy := flushCount_pos_of_opened opened
  obtain ⟨-, rfl, -⟩ := eq_begun_of_opened opened
  obtain ⟨free, same⟩ := returns.unlocked
  rw [same]
  constructor
  · intro wish
    refine ((Reasoned.of_run roomy ran).wish wish).resolve_right ?_
    rintro ⟨deciding, -⟩
    rw [deciding] at free
    cases free
  · exact fun asked => asked.needFlush ran

/-- A batch of two is being sent when the only caller begins to wait; with it all is delivered. -/
def waitedInFlight : List (Action Unit) :=
  [.enqueue (.new "track" "") noon, .enqueue (.new "page" "") noon, .proceed noon, .proceed noon,
    .proceed noon, .proceed noon, .enterWait 0, .answer (.response ⟨200, ""⟩) 0, .proceed noon,
    .proceed noon, .proceed noon]

theorem waitedInFlight_returns : ∃ w w' : World Unit,
    (begun none smallSettings.batchUrl).run smallPlan waitedInFlight = some w ∧
      Returns smallPlan w 0 w' ∧ w'.callers = [] ∧ w'.backlog.needFlush = true := by
  have ends : ((begun (none : Option Unit) smallSettings.batchUrl).run smallPlan waitedInFlight).any
      (fun w => (w.step smallPlan (.recheck 0)).any fun w' =>
        w'.callers = [] ∧ w'.backlog.needFlush = true) = true := by decide +kernel
  obtain ⟨w, ran, hw⟩ := (Option.any_eq_true _ _).1 ends
  obtain ⟨w', stepped, hw'⟩ := (Option.any_eq_true _ _).1 hw
  obtain ⟨alone, wish⟩ := of_decide_eq_true hw'
  exact ⟨w, w', ran, ⟨.inr stepped, by simp [alone]⟩, alone, wish⟩

theorem wish_left_iff_waitedInFlight : ∃ start w w',
    World.opened smallSettings ⟨none, none⟩ (none : Option Unit) = .ok (smallPlan, start) ∧
      start.run smallPlan waitedInFlight = some w ∧ Returns smallPlan w 0 w' ∧
    w'.backlog.needFlush = true ∧
      (w'.backlog.needFlush = true ↔ AskedSince smallPlan start waitedInFlight) := by
  obtain ⟨w, w', ran, returns, -, wish⟩ := waitedInFlight_returns
  have opened : World.opened smallSettings ⟨none, none⟩ (none : Option Unit) =
      .ok (smallPlan, begun none smallSettings.batchUrl) := rfl
  exact ⟨_, w, w', opened, ran, returns, wish, wish_left_iff opened ran returns⟩

/-- No flush was ever asked for explicitly, and still the next event would be sent at once. -/
theorem not_leavesNoWish_waitedInFlight : ∃ start : World Unit,
    World.opened smallSettings ⟨none, none⟩ none = .ok (smallPlan, start) ∧
      ¬LeavesNoWish smallPlan start := by
  refine ⟨begun none smallSettings.batchUrl, rfl, fun leavesNone => ?_⟩
  obtain ⟨w, w', ran, returns, alone, wish⟩ := waitedInFlight_returns
  have unflushed : ¬FlushedSince smallPlan (begun none smallSettings.batchUrl) waitedInFlight := by
    rintro ⟨earlier, since, u, u', split, -⟩
    have flushed : Action.flush ∈ waitedInFlight := by simp [split]
    simp [waitedInFlight] at flushed
  exact Bool.false_ne_true ((leavesNone _ w 0 w' ran returns unflushed alone).symm.trans wish)

end Courier.World
