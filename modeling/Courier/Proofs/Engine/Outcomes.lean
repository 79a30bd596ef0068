import Courier.Proofs.Engine.Retries
import Courier.Proofs.Ledger.Callbacks
import Courier.Proofs.Ledger.Conservation

/-! Outcomes. A batch is settled by the answer to its last attempt, once, and reported to whoever was
the handler at that moment, whoever is the handler when the reports are made. -/
namespace Courier

variable {η : Type}

/-- The callbacks that are still to be made, given the numbers of the events they are about. -/
def Worker.pending (ns : List Nat) : Worker η → List (Fact η × List Nat)
  | reporting handler outcome rest => Ledger.due handler outcome rest ns
  | inHandler h outcome _ rest => Ledger.due (some h) outcome rest ns
  | _ => []

@[simp] theorem Worker.pending_notify (ns : List Nat) (w : Worker η) :
    w.notify.pending ns = w.pending ns := by
  cases w <;> rfl

namespace World

open Journal Ledger

def Telling (w : World η) : Prop := Tells w.ledger (w.worker.pending w.ledger.untold)

namespace Telling

variable {plan : Plan} {w w' : World η} {a : Action η}

theorem begun (handler : Option η) (url : String) : Telling (begun handler url) :=
  Tells.begun.other (f := .opened url) rfl rfl

theorem call (h : Telling w) (hc : Call plan w a w') : Telling w' := by
  unfold Telling ledger at h ⊢
  cases hc with
  | enqueue | scrub | flush =>
    rw [ofJournal_concat, Worker.pending_notify]
    exact h.other rfl rfl
  | passWait | leaveWait =>
    rw [ofJournal_concat]
    exact h.other rfl rfl
  | enterWait | stayWait | close =>
    rw [Worker.pending_notify]
    exact h
  | setHandler => exact h

theorem turn (h : Telling w) (tracked : Tracked w) (ht : Turn plan w a w') : Telling w' := by
  unfold Telling ledger at h ⊢
  unfold Tracked ledger at tracked
  cases ht with
  | rouse clock at_ | wake clock at_ | resume clock at_ | drain clock at_ | backOff clock at_
  | assemble clock at_ | decide clock at_ | wait clock at_ | skip clock at_ =>
    rw [at_] at h
    exact h
  | start clock at_ | rest clock at_ | attempt clock at_ | retry answer now at_ =>
    rw [at_] at h
    rw [ofJournal_concat]
    exact h.other rfl rfl
  | stop clock at_ =>
    rw [at_] at h
    rw [ofJournal_concat, ofJournal_concat]
    exact (h.other rfl rfl : Tells _ []).other rfl rfl
  | deliver answer now at_ | giveUp answer now at_ =>
    rw [at_] at h
    rw [ofJournal_concat, ofJournal_concat]
    exact (h.other rfl rfl : Tells _ []).settle (tracked.still rfl) _ _
  | tell clock at_ =>
    rw [at_] at h tracked
    rw [ofJournal_concat]
    exact h.tell tracked
  | hear v at_ =>
    rw [at_] at h
    cases v with
    | ok => exact (List.append_nil w.journal).symm ▸ h
    | error reason => rw [Verdict.facts, ofJournal_concat]; exact h.other rfl rfl
    | panic => rw [Verdict.facts, ofJournal_concat]; exact h.other rfl rfl
  | @endReport clock handler outcome rest at_ ended =>
    rw [at_] at h
    rcases ended with rfl | rfl
    · exact h
    · cases handler <;> exact h

theorem of_reachable (h : Reachable plan w) : Telling w :=
  h.invariant begun fun hr ht hstep =>
    (call_or_turn hstep).elim ht.call (ht.turn (Tracked.of_reachable hr))

end Telling

variable {plan : Plan} {w w' : World η} {a : Action η}

/-- The request that is being answered is the last one made, and it is for the batch at hand. -/
def Called (w : World η) : Prop :=
  ∀ request, w.worker = .calling request →
    (attemptsAtHand w.journal).getLast? = some (w.backlog.batch, request)

theorem Called.of_reachable (h : Reachable plan w) : Called w := by
  refine h.invariant (fun handler url request at_ => nomatch at_) ?_
  intro u u' a _ hu hstep request at_
  rcases call_or_turn hstep with hc | ht
  · have same := hc.untouched
    obtain ⟨facts, hj, hf⟩ := same.journal
    have at_u : u.worker = .calling request := by
      rcases same.worker with hw | hw
      · exact hw.symm.trans at_
      · rw [hw] at at_
        cases hworker : u.worker <;> simp_all [Worker.notify]
    rw [hj, attemptsAtHand_callers hf, same.batch]
    exact hu request at_u
  · cases ht with
    | attempt clock =>
      cases at_
      rw [attemptsAtHand_append rfl]
      exact List.getLast?_concat
    | _ => cases at_

/-- How the answer to an attempt settles the batch of that attempt. -/
structure Settlement (plan : Plan) (u : World η) (answer : Answer) (batch : List Event)
    (handler : Option η) (outcome : Outcome) : Prop where
  last : ∃ request, u.worker = .calling request ∧
    (attemptsAtHand u.journal).getLast? = some (batch, request)
  batch : u.backlog.batch = batch
  handler : u.backlog.handler = handler
  success : outcome = .success ↔ ∃ r, answer = .response r ∧ 200 ≤ r.status ∧ r.status < 300
  failure : ∀ reason, outcome = .failure reason →
    u.backlog.failures = plan.policy.maxRetries ∧ ∃ e, answer.result = .error e ∧ reason = e.message

theorem step_settlements (hr : Reachable plan w) (h : w.step plan a = some w') :
    (∃ facts, w'.journal = w.journal ++ facts ∧ settlements facts = []) ∨
      ∃ answer now note outcome, a = .answer answer now ∧ note.settlement? = none ∧
        w'.journal = w.journal ++ [note] ++ [.settled w.backlog.batch w.backlog.handler outcome] ∧
        Settlement plan w answer w.backlog.batch w.backlog.handler outcome := by
  have called := Called.of_reachable hr
  rcases call_or_turn h with hc | ht
  · obtain ⟨facts, hj, hf⟩ := hc.untouched.journal
    exact .inl ⟨facts, hj, settlements_eq_nil hf⟩
  · cases ht with
    | @deliver answer now request at_ ok =>
      refine .inr ⟨answer, now, _, .success, rfl, rfl, rfl, ⟨request, at_, called request at_⟩, rfl, rfl,
        iff_of_true rfl (Answer.result_eq_ok_iff.1 ok), fun reason hreason => nomatch hreason⟩
    | @giveUp answer now request e at_ failed spent =>
      have limit := Nat.le_antisymm (Counted.of_reachable hr).failures_le spent
      refine .inr ⟨answer, now, _, .failure e.message, rfl, rfl, rfl,
        ⟨request, at_, called request at_⟩, rfl, rfl, iff_of_false nofun fun ok => ?_, ?_⟩
      · cases (Answer.result_eq_ok_iff.2 ok).symm.trans failed
      · rintro reason ⟨⟩
        exact ⟨limit, e, failed, rfl⟩
    | stop => exact .inl ⟨_, List.append_assoc _ _ _, rfl⟩
    | hear v => exact .inl ⟨_, rfl, by cases v <;> rfl⟩
    | start | rest | attempt | retry | tell => exact .inl ⟨[_], rfl, rfl⟩
    | rouse | wake | resume | drain | backOff | assemble | decide | wait | skip | endReport =>
      exact .inl ⟨[], (List.append_nil _).symm, rfl⟩

theorem answer_settles {answer : Answer} {now : Nat} (h : w.step plan (.answer answer now) = some w') :
    (answer.result = .ok () → settlements w'.journal =
      settlements w.journal ++ [(w.backlog.batch, w.backlog.handler, .success)]) ∧
    ∀ e, answer.result = .error e → settlements w'.journal = settlements w.journal ++
      if w.backlog.failures < plan.policy.maxRetries then []
      else [(w.backlog.batch, w.backlog.handler, .failure e.message)] := by
  rcases call_or_turn h with hc | ht
  · cases hc
  · cases ht with
    | deliver _ _ _ ok =>
      refine ⟨fun _ => ?_, fun e failed => nomatch ok.symm.trans failed⟩
      rw [List.append_assoc, settlements_append]
      rfl
    | retry _ _ _ failed more =>
      refine ⟨fun ok => (nomatch ok.symm.trans failed), fun e _ => ?_⟩
      rw [if_pos more, settlements_append]
      rfl
    | giveUp _ _ _ failed spent =>
      refine ⟨fun ok => (nomatch ok.symm.trans failed), fun e failed' => ?_⟩
      cases failed.symm.trans failed'
      rw [if_neg (Nat.not_lt.2 spent), List.append_assoc, settlements_append]
      rfl

theorem exists_answer {handler : Option η} {url : String} {actions : List (Action η)}
    (ran : (begun handler url).run plan actions = some w) {before after : List (Fact η)}
    {batch : List Event} {handler' : Option η} {outcome : Outcome}
    (hj : w.journal = before ++ .settled batch handler' outcome :: after) :
    ∃ earlier answer now later u note, actions = earlier ++ .answer answer now :: later ∧
      (begun handler url).run plan earlier = some u ∧ before = u.journal ++ [note] ∧
        Settlement plan u answer batch handler' outcome := by
  obtain ⟨earlier, a, later, u, u', added, rest, rfl, hu, hstep, -, hadded, hbefore⟩ :=
    begun_origin ran hj rfl
  rcases step_settlements ⟨handler, url, earlier, hu⟩ hstep with
    ⟨facts, hfacts, none_settled⟩ | ⟨answer, now, note, outcome', rfl, hnote, hnoted, settlement⟩
  · rw [hfacts, List.append_assoc] at hadded
    rw [List.append_cancel_left hadded, settlements_append] at none_settled
    cases (List.append_eq_nil_iff.1 none_settled).2
  · have noted : [note] ++ [.settled u.backlog.batch u.backlog.handler outcome'] =
        added ++ .settled batch handler' outcome :: rest := by
      rw [hnoted, List.append_assoc, List.append_assoc] at hadded
      exact List.append_cancel_left hadded
    -- The note before the settlement is none itself.
    rcases split_concat noted with ⟨rfl, hsettled, -⟩ | ⟨rest, rfl, hnote'⟩
    · cases hsettled
      exact ⟨earlier, answer, now, later, u, note, rfl, hu, hbefore.symm, settlement⟩
    · have mem : .settled batch handler' outcome ∈ [note] := hnote' ▸ by simp
      rw [← List.mem_singleton.1 mem] at hnote
      cases hnote

theorem settled_ne_nil {handler : Option η} {url : String} {actions : List (Action η)}
    (ran : (begun handler url).run plan actions = some w) {batch : List Event} {handler' : Option η}
    {outcome : Outcome} (hm : .settled batch handler' outcome ∈ w.journal) : batch ≠ [] := by
  obtain ⟨before, after, hj⟩ := List.append_of_mem hm
  obtain ⟨earlier, _, _, _, u, _, -, hu, -, settlement⟩ := exists_answer ran hj
  obtain ⟨request, -, hlast⟩ := settlement.last
  have attempted : attemptsAtHand u.journal ≠ [] := by
    intro hnil
    rw [hnil] at hlast
    cases hlast
  exact settlement.batch ▸ ((Counted.of_reachable ⟨handler, url, earlier, hu⟩).held attempted).1

/-- What has been settled in a run that led to a world, and what handlers were told of it. -/
structure Accounted (plan : Plan) (start : World η) (actions : List (Action η)) (w : World η) :
    Prop where
  /-- No event is settled twice, and no settlement is of nothing. -/
  once : w.ledger.settled.flatten.Nodup ∧ [] ∉ w.ledger.settled
  settlements : ∀ before batch handler outcome after,
    w.journal = before ++ .settled batch handler outcome :: after →
      ∃ earlier answer now later u note, actions = earlier ++ .answer answer now :: later ∧
        start.run plan earlier = some u ∧ before = u.journal ++ [note] ∧
          Settlement plan u answer batch handler outcome
  answers : ∀ earlier answer now later u u', actions = earlier ++ .answer answer now :: later →
    start.run plan earlier = some u → u.step plan (.answer answer now) = some u' →
      (answer.result = .ok () → Journal.settlements u'.journal =
        Journal.settlements u.journal ++ [(u.backlog.batch, u.backlog.handler, .success)]) ∧
      ∀ e, answer.result = .error e → Journal.settlements u'.journal = Journal.settlements u.journal ++
        if u.backlog.failures < plan.policy.maxRetries then []
        else [(u.backlog.batch, u.backlog.handler, .failure e.message)]
  /-- After a settlement come its own callbacks, all of them by the end of its report. -/
  callbacks : ∀ front batch handler outcome ns mid rest,
    w.ledger.entries = front ++ (.settled batch handler outcome, ns) :: mid ++ rest → Quiet mid →
      Ledger.callbacks mid <+: due handler outcome batch ns ∧
        ((∀ next ∈ rest.head?, next.1.isSettlement = true) →
          (rest = [] → w.worker.isReporting = false) →
            Ledger.callbacks mid = due handler outcome batch ns)
  toldOnce : w.ledger.told.Nodup
  toldSettled : ∀ n ∈ w.ledger.told, n ∈ w.ledger.settled.flatten
  unheard : ∀ batch outcome ns, (.settled batch none outcome, ns) ∈ w.ledger.entries →
    ∀ n ∈ ns, n ∉ w.ledger.told
  unscrubbed : ∀ n ∈ w.ledger.scrubbed, n ∉ w.ledger.told
  entries : w.ledger.entries.map (·.1) = w.journal
  numbered : ∀ entry ∈ w.ledger.entries, List.Forall₂ w.ledger.Knows entry.2 entry.1.events
  ends : w.worker.isReporting = true → ∀ clock verdict, ReportEnds plan clock verdict w

theorem run_accounted {handler : Option η} {url : String} {actions : List (Action η)}
    (ran : (begun handler url).run plan actions = some w) :
    Accounted plan (begun handler url) actions w := by
  have reachable : Reachable plan w := ⟨handler, url, actions, ran⟩
  have tracks := Tracked.of_reachable reachable
  have tells := Telling.of_reachable reachable
  have nodup : w.ledger.settled.flatten.Nodup := (List.nodup_append.1 tracks.nodup).1
  have entries_eq : w.ledger.entries.map (·.1) = w.journal := entries_ofJournal w.journal
  constructor
  · refine ⟨nodup, fun hempty => ?_⟩
    obtain ⟨⟨f, ns⟩, hentry, hns⟩ := List.mem_map.1 hempty
    obtain ⟨hentry, hkind⟩ := List.mem_filter.1 hentry
    cases hns
    have mem : f ∈ w.journal := entries_eq ▸ List.mem_map_of_mem hentry
    cases f with
    | settled batch handler' outcome =>
      exact settled_ne_nil ran mem (List.forall₂_nil_left_iff.1 (tracks.entries _ hentry))
    | _ => cases hkind
  · intro before batch handler' outcome after hj
    exact exists_answer ran hj
  · intro earlier answer now later u u' _ _ hstep
    exact answer_settles hstep
  · intro front batch handler' outcome ns mid rest split quiet
    refine ⟨tells.callbacks_prefix_due split quiet, fun ended done => ?_⟩
    refine tells.callbacks_eq_due split quiet ended fun hrest => ?_
    have notReporting := done hrest
    cases hw : w.worker <;> simp_all [Worker.isReporting, Worker.pending]
  · exact (List.nodup_append.1 (nodup.sublist tracks.told_sublist)).1
  · intro n hn
    exact tracks.told_sublist.subset (List.mem_append_left _ hn)
  · intro batch outcome ns hm n hn
    exact (tells.unheard batch outcome ns hm n hn).1
  · intro n hn htold
    have hsettled := tracks.told_sublist.subset (List.mem_append_left _ htold)
    exact tracks.not_mem_scrubbed (List.mem_append_left _ hsettled) hn
  · exact entries_eq
  · exact tracks.entries
  · intro hw clock verdict
    exact reportEnds hw

/-- The handler is replaced while the last attempt is under way, and again while it is told. -/
def swappedRun : List (Action Bool) :=
  [.enqueue (.new "track" "") noon, .enqueue (.new "page" "") noon, .proceed noon, .proceed noon,
    .proceed noon, .proceed noon, .answer .panicked 0, .proceed later, .proceed later, .proceed later,
    .setHandler (some true), .answer (.response ⟨500, ""⟩) 0, .setHandler (some false), .proceed later,
    .verdict (.error ""), .proceed later, .verdict .panic, .proceed later]

theorem run_accounted_swappedRun : ∃ w, (begun (some false) "").run smallPlan swappedRun = some w ∧
    ((tellings w.journal).map fun t => (t.1, t.2.1)) =
      [(true, .failure "Unexpected HTTP status 500"), (true, .failure "Unexpected HTTP status 500")] ∧
    Accounted smallPlan (begun (some false) "") swappedRun w := by
  have ends : ((begun (some false) "").run smallPlan swappedRun).any (fun w =>
      ((tellings w.journal).map fun t => (t.1, t.2.1)) =
        [(true, .failure "Unexpected HTTP status 500"),
          (true, .failure "Unexpected HTTP status 500")]) = true := by decide +kernel
  obtain ⟨w, ran, hw⟩ := (Option.any_eq_true _ _).1 ends
  exact ⟨w, ran, of_decide_eq_true hw, run_accounted ran⟩

end World

end Courier
