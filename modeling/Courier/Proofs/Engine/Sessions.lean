import Courier.Proofs.Engine.Completion

/-! Sessions. In a session events are submitted, then somebody waits for their delivery and closes the
client, and it lasts until the worker has ended. Whatever the transport answers, every event has then
been sent, settled and told once, and nothing else has. -/
namespace Courier

variable {η σ : Type}

/-- What the owner of a client has it do. One who waits is not asked again before each look. -/
inductive Order where
  | submit (e : Event)
  | wait
  | close
  | other

def Order.event? : Order → Option Event
  | submit e => some e
  | _ => none

namespace Action

def order? : Action η → Option Order
  | enqueue e _ => some (.submit e)
  | enterWait _ => some .wait
  | close => some .close
  | flush => some .other
  | scrub _ => some .other
  | setHandler _ => some .other
  | recheck _ => none
  | proceed _ => none
  | answer _ _ => none
  | verdict _ => none

def isAnswer : Action η → Bool
  | answer _ _ => true
  | _ => false

end Action

namespace Order

def all (events : List Event) : List Order := events.map submit ++ [wait] ++ [close]

theorem events_all (events : List Event) : (all events).filterMap event? = events := by
  simp [all, event?, List.filterMap_append, List.filterMap_map, Function.comp_def]

theorem other_not_mem_all (events : List Event) : other ∉ all events := by
  simp [all]

theorem eq_nil_of_close {events : List Event} {before after : List Order}
    (split : all events = before ++ after) (closed : close ∈ before) : after = [] := by
  obtain ⟨front, back, rfl⟩ := List.append_of_mem closed
  rw [List.append_assoc, List.cons_append] at split
  rcases split_concat split with ⟨-, -, nothing⟩ | ⟨rest, -, earlier⟩
  · exact (List.append_eq_nil_iff.1 nothing).2
  · have mem : close ∈ events.map submit ++ [wait] := by simp [earlier]
    simp at mem

end Order

def tellingsOf (handler : Option η) (outcome : Outcome) (batch : List Event) :
    List (η × Outcome × Event) :=
  handler.toList.flatMap fun h => batch.map fun e => (h, outcome, e)

def Worker.untold : Worker η → List (η × Outcome × Event)
  | reporting handler outcome rest => tellingsOf handler outcome rest
  | inHandler h outcome _ rest => tellingsOf (some h) outcome rest
  | _ => []

@[simp] theorem Worker.untold_notify (w : Worker η) : w.notify.untold = w.untold := by
  cases w <;> rfl

namespace Journal

theorem attemptsAtHand_subset (j : List (Fact η)) : attemptsAtHand j ⊆ attempts j :=
  ((List.rtakeWhile_suffix _ _).sublist.filterMap _).subset

theorem Lawful.attempted {limit : Nat} {j : List (Fact η)} (h : Lawful limit j) :
    ∀ attempt ∈ attempts j, attempt ∈ attemptsAtHand j ∨
      attempt.1.map (·.content) ∈ (settlements j).map fun s => s.1.map (·.content) := by
  induction j using List.reverseRecOn with
  | nil => exact fun _ hm => nomatch hm
  | append_singleton j f ih =>
    intro attempt hm
    rw [attempts_append] at hm
    rcases List.mem_append.1 hm with hold | hnew
    · rcases ih h.of_append attempt hold with atHand | settled
      · cases f with
        | settled batch handler outcome =>
          have same : AtHand j batch := by
            have allowed := h j (.settled batch handler outcome) [] rfl
            cases outcome with
            | success => exact allowed
            | failure reason => exact allowed.2
          refine .inr ?_
          rw [settlements_append, List.map_append, same attempt atHand]
          exact List.mem_append_right _ (List.mem_singleton_self _)
        | _ =>
          refine .inl ?_
          rw [attemptsAtHand_append rfl]
          exact List.mem_append_left _ atHand
      · refine .inr ?_
        rw [settlements_append, List.map_append]
        exact List.mem_append_left _ settled
    · cases f with
      | attempted batch request =>
        refine .inl ?_
        rw [attemptsAtHand_append rfl]
        exact List.mem_append_right _ hnew
      | _ => cases hnew

end Journal

namespace World

open Journal

variable {plan : Plan} {w w' u : World η} {a : Action η} {actions : List (Action η)}

/-! ### Tellings -/

def ToldAsSettled (w : World η) : Prop :=
  tellings w.journal ++ w.worker.untold =
    (settlements w.journal).flatMap fun s => tellingsOf s.2.1 s.2.2 s.1

namespace ToldAsSettled

theorem keep (h : ToldAsSettled w) {facts : List (Fact η)} (hj : w'.journal = w.journal ++ facts)
    (untold : w'.worker.untold = w.worker.untold)
    (silent : tellings facts = [] ∧ settlements facts = []) : ToldAsSettled w' := by
  unfold ToldAsSettled
  rw [hj, tellings_append, settlements_append, silent.1, silent.2, untold, List.append_nil,
    List.append_nil]
  exact h

theorem call (h : ToldAsSettled w) (hc : Call plan w a w') : ToldAsSettled w' := by
  obtain ⟨facts, hj, callers⟩ := hc.untouched.journal
  refine h.keep hj ?_ ⟨tellings_eq_nil callers, settlements_eq_nil callers⟩
  rcases hc.untouched.worker with hw | hw <;> simp [hw]

private theorem settle (h : ToldAsSettled w) (untold : w.worker.untold = []) {f : Fact η}
    (silent : tellings [f] = [] ∧ settlements [f] = []) {handler : Option η} {outcome : Outcome}
    {batch : List Event}
    (hj : w'.journal = w.journal ++ [f] ++ [.settled batch handler outcome])
    (worker : w'.worker = .reporting handler outcome batch) : ToldAsSettled w' := by
  unfold ToldAsSettled at h ⊢
  rw [untold, List.append_nil] at h
  rw [hj, worker, settlements_append, settlements_append, silent.2, List.append_nil,
    settlements_settled, List.flatMap_append, List.flatMap_singleton, ← h, tellings_append,
    tellings_append, silent.1, List.append_nil]
  exact congrArg (· ++ _) (List.append_nil _)

theorem turn (h : ToldAsSettled w) (ht : Turn plan w a w') : ToldAsSettled w' := by
  cases ht with
  | rouse clock at_ | wake clock at_ | resume clock at_ | drain clock at_ | backOff clock at_
  | assemble clock at_ | decide clock at_ | wait clock at_ | skip clock at_ =>
    exact h.keep (List.append_nil _).symm (by rw [at_]; rfl) ⟨rfl, rfl⟩
  | start clock at_ | rest clock at_ | attempt clock at_ | retry answer now at_ =>
    exact h.keep rfl (by rw [at_]; rfl) ⟨rfl, rfl⟩
  | stop clock at_ => exact h.keep (List.append_assoc _ _ _) (by rw [at_]; rfl) ⟨rfl, rfl⟩
  | deliver answer now at_ => exact h.settle (by rw [at_]; rfl) (f := .delivered _) ⟨rfl, rfl⟩ rfl rfl
  | giveUp answer now at_ => exact h.settle (by rw [at_]; rfl) (f := .gaveUp _ _) ⟨rfl, rfl⟩ rfl rfl
  | hear v at_ => exact h.keep rfl (by rw [at_]; rfl) (by cases v <;> exact ⟨rfl, rfl⟩)
  | tell clock at_ =>
    unfold ToldAsSettled at h ⊢
    rw [at_] at h
    rw [settlements_append, List.flatMap_append, ← h]
    simp [Worker.untold, tellingsOf, tellings, settlements, Fact.telling?, Fact.settlement?]
  | endReport clock at_ ended =>
    refine h.keep (List.append_nil _).symm ?_ ⟨rfl, rfl⟩
    rw [at_]
    rcases ended with rfl | rfl <;> simp [Worker.untold, tellingsOf]

theorem of_reachable (h : Reachable plan w) : ToldAsSettled w :=
  h.invariant (fun _ _ => rfl) fun _ hu hstep => (call_or_turn hstep).elim hu.call hu.turn

end ToldAsSettled

/-! ### Runs with a transport -/

/-- A run in which the transport answers, going on from one of its states to the next. -/
inductive Served (deliver : Request → σ → Answer × σ) (plan : Plan) (w : World η) (s : σ) :
    List (Action η) → World η → σ → Prop where
  | refl : Served deliver plan w s [] w s
  | answer {actions : List (Action η)} {u w' : World η} {t : σ} {request : Request} (now : Nat)
      (ran : Served deliver plan w s actions u t) (at_ : u.worker = .calling request)
      (step : u.step plan (.answer (deliver request t).1 now) = some w') :
      Served deliver plan w s (actions ++ [.answer (deliver request t).1 now]) w' (deliver request t).2
  | other {actions : List (Action η)} {u w' : World η} {t : σ} {a : Action η}
      (ran : Served deliver plan w s actions u t) (apart : a.isAnswer = false)
      (step : u.step plan a = some w') : Served deliver plan w s (actions ++ [a]) w' t

variable {deliver : Request → σ → Answer × σ} {s s' : σ} {events : List Event}

theorem Served.run (h : Served deliver plan w s actions w' s') : w.run plan actions = some w' := by
  induction h with
  | refl => rfl
  | answer now ran at_ step ih =>
    exact run_append_eq_some.2 ⟨_, ih, run_cons_eq_some.2 ⟨_, step, rfl⟩⟩
  | other ran apart step ih => exact run_append_eq_some.2 ⟨_, ih, run_cons_eq_some.2 ⟨_, step, rfl⟩⟩

/-- All that happens while these events are submitted and delivered, in any order that the client allows,
until its worker has ended. -/
structure Session (deliver : Request → σ → Answer × σ) (plan : Plan) (w : World η) (s : σ)
    (events : List Event) (actions : List (Action η)) (w' : World η) (s' : σ) : Prop where
  served : Served deliver plan w s actions w' s'
  orders : actions.filterMap Action.order? = Order.all events
  ended : w'.worker = .terminated

/-! ### What is not ordered does not happen -/

theorem content_accepted (actions : List (Action η)) :
    (actions.filterMap Action.accepted?).map (·.content) =
      ((actions.filterMap Action.order?).filterMap Order.event?).map (·.content) := by
  induction actions with
  | nil => rfl
  | cons a actions ih =>
    cases a with
    | enqueue e clock => exact congrArg (e.content :: ·) ih
    | _ => exact ih

theorem step_closing (h : w.step plan a = some w') (unclosed : a.order? ≠ some .close) :
    w'.backlog.closing = w.backlog.closing := by
  rcases call_or_turn h with hc | ht
  · cases hc with
    | close => exact absurd rfl unclosed
    | _ => rfl
  · cases ht <;> rfl

theorem step_handler (h : w.step plan a = some w') (kept : a.order? ≠ some .other) :
    w'.backlog.handler = w.backlog.handler := by
  rcases call_or_turn h with hc | ht
  · cases hc with
    | setHandler => exact absurd rfl kept
    | _ => rfl
  · cases ht <;> rfl

theorem order_ne_of_not_mem {o : Order} (h : o ∉ actions.filterMap Action.order?) :
    ∀ a ∈ actions, a.order? ≠ some o := fun a ha ordered =>
  h (List.mem_filterMap.2 ⟨a, ha, ordered⟩)

theorem mem_orders_of_closing (ran : w.run plan actions = some w') (isOpen : w.backlog.closing = false)
    (closing : w'.backlog.closing = true) : Order.close ∈ actions.filterMap Action.order? := by
  by_contra unclosed
  have still : w'.backlog.closing = false := by
    refine run_invariant (I := fun u => u.backlog.closing = false) ?_ isOpen ran
    intro a ha u u' hu hstep
    exact (step_closing hstep (order_ne_of_not_mem unclosed a ha)).trans hu
  exact Bool.false_ne_true (still.symm.trans closing)

theorem handler_of_run {h : η} (hr : Reachable plan w) (fresh : settlements w.journal = [])
    (handler : w.backlog.handler = some h) (ran : w.run plan actions = some w')
    (kept : ∀ a ∈ actions, a.order? ≠ some .other) : ∀ s ∈ settlements w'.journal, s.2.1 = some h := by
  refine (run_invariant (I := fun u => Reachable plan u ∧ u.backlog.handler = some h ∧
    ∀ s ∈ settlements u.journal, s.2.1 = some h) ?_ ⟨hr, handler, by simp [fresh]⟩ ran).2.2
  rintro a ha u u' ⟨hr, handler, told⟩ hstep
  refine ⟨hr.step hstep, (step_handler hstep (kept a ha)).trans handler, fun s hs => ?_⟩
  rcases step_settlements hr hstep with
    ⟨facts, hj, unsettled⟩ | ⟨answer, now, note, outcome, -, hnote, hj, -⟩
  · rw [hj, settlements_append, unsettled, List.append_nil] at hs
    exact told s hs
  · have unsettled : settlements [note] = [] := settlements_eq_nil_iff.2 (by simp [hnote])
    rw [hj, settlements_append, settlements_append, unsettled, List.append_nil] at hs
    rcases List.mem_append.1 hs with hold | hnew
    · exact told s hold
    · cases List.mem_singleton.1 hnew
      exact handler

/-! ### The end of a session -/

/-- What becomes of these events by the end: each is settled and told once, and sent before that; and
nothing else is sent. An event is sent, settled and told as it was submitted, but for its last stamp. -/
structure Settles (plan : Plan) (h : η) (events : List Event) (w : World η) : Prop where
  settled : w.settledBatches.flatten.map (·.content) = events.map (·.content)
  told : tellings w.journal =
    (settlements w.journal).flatMap fun s => s.1.map fun e => (h, s.2.2, e)
  sent : ∀ batch ∈ w.settledBatches, ∃ request, (batch, request) ∈ attempts w.journal
  nothingElse : ∀ attempt ∈ attempts w.journal,
    attempt.2 = plan.target.request (plan.envelope.encode attempt.1) ∧
      attempt.1.map (·.content) ∈ w.settledBatches.map fun batch => batch.map (·.content)

variable {h : η} {url : String}

theorem Session.drained
    (session : Session deliver plan (begun (some h) url) s events actions w s') :
    w.backlog.isDrained = true := by
  have ran := session.served.run
  obtain ⟨before, a, after, u, u', rfl, hu, hstep, hafter, running, ends⟩ :=
    exists_end ran nofun session.ended
  obtain ⟨-, closing, -, drained⟩ := step_to_terminated hstep running ends
  have closed : Order.close ∈ before.filterMap Action.order? := mem_orders_of_closing hu rfl closing
  have orders := session.orders
  rw [List.filterMap_append] at orders
  have nothing := Order.eq_nil_of_close orders.symm closed
  refine drained_of_run hafter ends drained fun b hb => ?_
  have unordered := List.filterMap_eq_nil_iff.1 nothing b (List.mem_cons_of_mem _ hb)
  cases b <;> first | rfl | cases unordered

theorem attempted_of_settled (ran : (begun (some h) url).run plan actions = some w) {batch : List Event}
    {handler : Option η} {outcome : Outcome} (settled : .settled batch handler outcome ∈ w.journal) :
    ∃ request, (batch, request) ∈ attempts w.journal := by
  obtain ⟨before, after, hj⟩ := List.append_of_mem settled
  obtain ⟨_, _, _, _, u, note, -, -, rfl, settlement⟩ := exists_answer ran hj
  obtain ⟨request, -, last⟩ := settlement.last
  have attempted := attemptsAtHand_subset _ (List.mem_of_getLast? last)
  refine ⟨request, ?_⟩
  rw [hj, attempts_append, attempts_append]
  exact List.mem_append_left _ (List.mem_append_left _ attempted)

theorem filterMap_range_getElem? {α : Type} (l : List α) :
    (List.range l.length).filterMap (l[·]?) = l := by
  induction l using List.reverseRecOn with
  | nil => rfl
  | append_singleton l x ih =>
    have earlier : (List.range l.length).filterMap ((l ++ [x])[·]?) =
        (List.range l.length).filterMap (l[·]?) := by
      refine List.filterMap_congr fun n hn => ?_
      exact List.getElem?_append_left (List.mem_range.1 hn)
    rw [List.length_append, List.length_singleton, List.range_succ, List.filterMap_append, earlier, ih]
    simp

theorem kept_of_run (ran : (begun (some h) url).run plan actions = some w)
    (kept : ∀ a ∈ actions, a.order? ≠ some .other) :
    w.ledger.events w.ledger.kept = actions.filterMap Action.accepted? := by
  have unscrubbed : w.ledger.scrubbed = [] := by
    refine run_invariant (I := fun u => u.ledger.scrubbed = []) ?_ rfl ran
    intro a ha u u' hu hstep
    obtain ⟨facts, hj, -, unscrubbing⟩ := step_marks hstep
    have notScrub : a.isScrub = false := by
      have unmeddled := kept a ha
      cases a <;> first | rfl | exact absurd rfl unmeddled
    rw [ledger, hj, Ledger.scrubbed_ofJournal_append _ (unscrubbing notScrub)]
    exact hu
  have all_kept : w.ledger.kept = List.range w.ledger.accepted.length := by
    simp [Ledger.kept, unscrubbed]
  rw [all_kept, Ledger.events, filterMap_range_getElem?]
  exact run_accepted ran

theorem settled_of_drained (hr : Reachable plan w) (drained : w.backlog.isDrained = true) :
    w.settledBatches.flatten.map (·.content) = (w.ledger.events w.ledger.kept).map (·.content) := by
  obtain ⟨queue, batch, -⟩ := Backlog.isDrained_iff.1 drained
  have tracks := Tracked.of_reachable hr
  have none_waits : w.ledger.waiting = [] := by
    rw [← List.length_eq_zero_iff, tracks.length_waiting, queue, batch]
    rfl
  have known : List.Forall₂ w.ledger.Knows w.ledger.settled.flatten w.settledBatches.flatten := by
    have known := Ledger.forall₂_settled tracks.entries
    rwa [ledger, Ledger.entries_ofJournal] at known
  rw [tracks.standing, none_waits, List.append_nil]
  exact (Ledger.content_of_forall₂ known).symm

theorem Session.settles
    (session : Session deliver plan (begun (some h) url) s events actions w s') :
    Settles plan h events w := by
  have ran := session.served.run
  have hr : Reachable plan w := ⟨some h, url, actions, ran⟩
  have unmeddled : ∀ a ∈ actions, a.order? ≠ some .other :=
    order_ne_of_not_mem (session.orders ▸ Order.other_not_mem_all events)
  constructor
  · rw [settled_of_drained hr session.drained, kept_of_run ran unmeddled, content_accepted,
      session.orders, Order.events_all]
  · have told : tellings w.journal ++ w.worker.untold = _ := ToldAsSettled.of_reachable hr
    have nothing_untold : w.worker.untold = [] := by rw [session.ended]; rfl
    rw [nothing_untold, List.append_nil] at told
    rw [told]
    refine List.flatMap_congr fun s hs => ?_
    rw [handler_of_run (.of_begun _ _) rfl rfl ran unmeddled s hs]
    exact List.append_nil _
  · intro batch hbatch
    obtain ⟨⟨batch, handler, outcome⟩, hs, rfl⟩ := List.mem_map.1 hbatch
    obtain ⟨f, hf, settlement⟩ := List.mem_filterMap.1 hs
    cases f with
    | settled =>
      cases settlement
      exact attempted_of_settled ran hf
    | _ => cases settlement
  · intro attempt hm
    refine ⟨hr.request_eq hm, ?_⟩
    have counted := Counted.of_reachable hr
    rcases counted.lawful.attempted attempt hm with atHand | settled
    · have nothing := (Backlog.isDrained_iff.1 session.drained).2.1
      exact absurd nothing (counted.held (List.ne_nil_of_mem atHand)).1
    · rwa [settledBatches, List.map_map]

theorem Settles.length_tellings (settles : Settles plan h events w) :
    (tellings w.journal).length = events.length := by
  have told : (tellings w.journal).map (·.2.2) = w.settledBatches.flatten := by
    simp [settles.told, settledBatches, List.flatMap_def, Function.comp_def]
  calc (tellings w.journal).length
      = w.settledBatches.flatten.length := by rw [← told, List.length_map]
    _ = (events.map (·.content)).length := by rw [← settles.settled, List.length_map]
    _ = events.length := List.length_map _

end World

end Courier
