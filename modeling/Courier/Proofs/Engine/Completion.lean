import Courier.Proofs.Engine.Outcomes

/-! What is certain when nothing is left to deliver. Whoever has waited for that, and whoever has shut the
client down, finds every event that was accepted either scrubbed or settled and reported. -/
namespace Courier

variable {η : Type}

namespace Ledger

variable {l : Ledger η} {n : Nat}

/-- Event number `n` was settled in a batch for which all callbacks that are due have been made. -/
def Done (l : Ledger η) (n : Nat) : Prop :=
  ∃ front batch handler outcome ns mid rest,
    l.entries = front ++ (.settled batch handler outcome, ns) :: mid ++ rest ∧ Quiet mid ∧ n ∈ ns ∧
      callbacks mid = due handler outcome batch ns

theorem done_of_settled (tells : Tells l []) (hn : n ∈ l.settled.flatten) : l.Done n := by
  obtain ⟨ns, hns, hn⟩ := List.mem_flatten.1 hn
  obtain ⟨⟨f, ns⟩, hentry, rfl⟩ := List.mem_map.1 hns
  obtain ⟨hentry, settlement⟩ := List.mem_filter.1 hentry
  obtain ⟨front, back, split⟩ := List.append_of_mem hentry
  obtain ⟨mid, rest, rfl, quiet, ended⟩ := Tells.exists_quiet back
  cases f with
  | settled batch handler outcome =>
    have split : l.entries = front ++ (.settled batch handler outcome, ns) :: mid ++ rest := by
      rw [split]
      simp
    exact ⟨front, batch, handler, outcome, ns, mid, rest, split, quiet, hn,
      tells.callbacks_eq_due split quiet ended fun _ => rfl⟩
  | _ => cases settlement

end Ledger

namespace World

open Journal Ledger

variable {plan : Plan} {w w' : World η} {a : Action η}

/-- Nothing is left to deliver nor to report, of all that was accepted. -/
structure Complete (w : World η) : Prop where
  queue : w.backlog.queue = []
  batch : w.backlog.batch = []
  settling : w.backlog.settling = 0
  accounted : ∀ n < w.ledger.accepted.length, n ∈ w.ledger.scrubbed ∨ w.ledger.Done n

theorem not_reporting_of_drained (hr : Reachable plan w) (drained : w.backlog.isDrained = true) :
    w.worker.isReporting = false := by
  have reported := Reported.of_reachable hr
  by_contra reporting
  rw [Bool.not_eq_false] at reporting
  have some_settled : w.settledBatches ≠ [] := by
    simpa [settledBatches] using (reported.reporting reporting).2
  have none_left : w.underReport = [] := by
    rw [← List.length_eq_zero_iff, ← reported.settling]
    exact (Backlog.isDrained_iff.1 drained).2.2
  have empty_settled : [] ∈ w.settledBatches := by
    rw [← none_left, underReport, if_pos reporting, List.getLast?_eq_some_getLast some_settled]
    exact List.getLast_mem some_settled
  obtain ⟨⟨batch, handler, outcome⟩, hsettled, rfl⟩ := List.mem_map.1 empty_settled
  obtain ⟨f, hf, hs⟩ := List.mem_filterMap.1 hsettled
  cases f with
  | settled =>
    cases hs
    obtain ⟨_, _, _, ran⟩ := hr
    exact settled_ne_nil ran hf rfl
  | _ => cases hs

theorem pending_of_not_reporting (h : w.worker.isReporting = false) (ns : List Nat) :
    w.worker.pending ns = [] := by
  cases hw : w.worker <;> first | rfl | (rw [hw] at h; cases h)

theorem Complete.of_drained (hr : Reachable plan w) (drained : w.backlog.isDrained = true) :
    Complete w := by
  obtain ⟨queue, batch, settling⟩ := Backlog.isDrained_iff.1 drained
  have tracks := Tracked.of_reachable hr
  have tells : Tells w.ledger [] := by
    have tells := Telling.of_reachable hr
    rwa [Telling, pending_of_not_reporting (not_reporting_of_drained hr drained)] at tells
  have none_waits : w.ledger.waiting = [] := by
    rw [← List.length_eq_zero_iff, tracks.length_waiting, queue, batch]
    rfl
  have kept_eq : w.ledger.kept = w.ledger.settled.flatten := by
    rw [tracks.standing, none_waits, List.append_nil]
  refine ⟨queue, batch, settling, fun n accepted => ?_⟩
  by_cases scrubbed : n ∈ w.ledger.scrubbed
  · exact .inl scrubbed
  · have kept : n ∈ w.ledger.kept :=
      List.mem_filter.2 ⟨List.mem_range.2 accepted, decide_eq_true scrubbed⟩
    exact .inr (done_of_settled tells (kept_eq ▸ kept))

/-! ### Callers that wait -/

/-- A step with which a caller is done waiting, if it had to wait at all. -/
def Returns (plan : Plan) (w : World η) (id : Nat) (w' : World η) : Prop :=
  (w.step plan (.enterWait id) = some w' ∨ w.step plan (.recheck id) = some w') ∧
    ∀ c ∈ w'.callers, c.id ≠ id

theorem Returns.drained {id : Nat} (h : Returns plan w id w') :
    w.backlog.isDrained = true ∧ w'.backlog.isDrained = true ∧
      w'.journal = w.journal ++ [.released id] := by
  obtain ⟨stepped, gone⟩ := h
  rcases stepped with hstep | hstep <;> rcases call_or_turn hstep with hc | ht
  · cases hc with
    | passWait _ _ _ drained => exact ⟨drained, drained, rfl⟩
    | enterWait => exact absurd rfl (gone ⟨id, false⟩ (by simp))
  · cases ht
  · cases hc with
    | leaveWait _ _ _ drained => exact ⟨drained, drained, rfl⟩
    | stayWait => exact absurd rfl (gone ⟨id, false⟩ (by simp))
  · cases ht

/-! ### The end of the worker -/

theorem step_to_terminated (h : w.step plan a = some w') (running : w.worker ≠ .terminated)
    (ended : w'.worker = .terminated) : w.worker = .holding .idle ∧ w.backlog.closing = true ∧
      w.backlog.isDrained = true ∧ w'.backlog.isDrained = true := by
  rcases call_or_turn h with hc | ht
  · rcases hc.untouched.worker with hw | hw
    · exact absurd (hw.symm.trans ended) running
    · rw [hw] at ended
      cases at_ : w.worker <;> simp_all [Worker.notify]
  · cases ht with
    | stop clock at_ drained closing => exact ⟨at_, closing, drained, drained⟩
    | _ => cases ended

theorem call_of_terminated (h : w.step plan a = some w') (ended : w.worker = .terminated) :
    Call plan w a w' ∧ w'.worker = .terminated := by
  rcases call_or_turn h with hc | ht
  · refine ⟨hc, ?_⟩
    rcases hc.untouched.worker with hw | hw <;> rw [hw, ended]
    rfl
  · cases ht <;> simp_all

theorem Call.drained (hc : Call plan w a w') (nothingNew : a.accepted? = none)
    (drained : w.backlog.isDrained = true) : w'.backlog.isDrained = true := by
  obtain ⟨queue, batch, settling⟩ := Backlog.isDrained_iff.1 drained
  cases hc with
  | enqueue => cases nothingNew
  | scrub => exact Backlog.isDrained_iff.2 ⟨rfl, batch, settling⟩
  | _ => exact drained

structure Silent (w w' : World η) : Prop where
  attempts : attempts w'.journal = attempts w.journal
  settlements : settlements w'.journal = settlements w.journal
  tellings : tellings w'.journal = tellings w.journal

theorem Call.silent (hc : Call plan w a w') : Silent w w' := by
  obtain ⟨facts, hj, callers⟩ := hc.untouched.journal
  constructor
  · rw [hj, attempts_append, attempts_eq_nil callers, List.append_nil]
  · rw [hj, settlements_append, settlements_eq_nil callers, List.append_nil]
  · rw [hj, tellings_append, tellings_eq_nil callers, List.append_nil]

theorem Silent.trans {u : World η} (h : Silent w u) (h' : Silent u w') : Silent w w' :=
  ⟨h'.attempts.trans h.attempts, h'.settlements.trans h.settlements, h'.tellings.trans h.tellings⟩

theorem silent_of_run {actions : List (Action η)} (ran : w.run plan actions = some w')
    (ended : w.worker = .terminated) : w'.worker = .terminated ∧ Silent w w' := by
  refine run_invariant (I := fun u => u.worker = .terminated ∧ Silent w u) ?_ ⟨ended, rfl, rfl, rfl⟩ ran
  rintro a - u u' ⟨hu, silent⟩ hstep
  obtain ⟨hc, hu'⟩ := call_of_terminated hstep hu
  exact ⟨hu', silent.trans hc.silent⟩

theorem drained_of_run {actions : List (Action η)} (ran : w.run plan actions = some w')
    (ended : w.worker = .terminated) (drained : w.backlog.isDrained = true)
    (nothingNew : ∀ a ∈ actions, a.accepted? = none) : w'.backlog.isDrained = true := by
  refine (run_invariant (I := fun u => u.worker = .terminated ∧ u.backlog.isDrained = true) ?_
    ⟨ended, drained⟩ ran).2
  rintro a ha u u' ⟨hu, drained⟩ hstep
  obtain ⟨hc, hu'⟩ := call_of_terminated hstep hu
  exact ⟨hu', hc.drained (nothingNew a ha) drained⟩

theorem exists_end {actions : List (Action η)} (ran : w.run plan actions = some w')
    (running : w.worker ≠ .terminated) (ended : w'.worker = .terminated) :
    ∃ before a after u u', actions = before ++ a :: after ∧ w.run plan before = some u ∧
      u.step plan a = some u' ∧ u'.run plan after = some w' ∧
        u.worker ≠ .terminated ∧ u'.worker = .terminated := by
  induction actions generalizing w with
  | nil => exact absurd (Option.some.inj ran ▸ ended) running
  | cons a actions ih =>
    obtain ⟨u, hu, ran⟩ := run_cons_eq_some.1 ran
    by_cases ends : u.worker = .terminated
    · exact ⟨[], a, actions, w, u, rfl, rfl, hu, ran, running, ends⟩
    · obtain ⟨before, b, after, v, v', rfl, hv, hb, hafter, running, ends⟩ := ih ran ends
      have toV := run_cons_eq_some.2 ⟨u, hu, hv⟩
      exact ⟨a :: before, b, after, v, v', rfl, toV, hb, hafter, running, ends⟩

/-- What is complete in a run that led to a world. To shut down is to wait, to close, and to wait for the
end of the worker; the client has no other owner then, so that nothing more is accepted. -/
structure Completes (plan : Plan) (start : World η) (actions : List (Action η)) (w : World η) :
    Prop where
  accepted : w.ledger.accepted = actions.filterMap Action.accepted?
  returned : ∀ id w', Returns plan w id w' →
    w'.journal = w.journal ++ [.released id] ∧ Complete w ∧ Complete w'
  ends : ∀ a w', w.step plan a = some w' → w.worker ≠ .terminated → w'.worker = .terminated →
    w.backlog.closing = true ∧ Complete w ∧ Complete w'
  /-- The worker has ended: all that was accepted until then is accounted for, nothing was sent or told
  since, and nothing will be. -/
  ended : w.worker = .terminated → ∃ before a after u u', actions = before ++ a :: after ∧
    start.run plan before = some u ∧ u.step plan a = some u' ∧ u.worker ≠ .terminated ∧
      u'.worker = .terminated ∧ Complete u' ∧ Silent u' w ∧
        (∀ later w', w.run plan later = some w' → Silent w w') ∧
          ((∀ a ∈ after, a.accepted? = none) → Complete w)
  entries : w.ledger.entries.map (·.1) = w.journal
  numbered : ∀ entry ∈ w.ledger.entries, List.Forall₂ w.ledger.Knows entry.2 entry.1.events

theorem run_completes {handler : Option η} {url : String} {actions : List (Action η)}
    (ran : (begun handler url).run plan actions = some w) :
    Completes plan (begun handler url) actions w := by
  have reachable : Reachable plan w := ⟨handler, url, actions, ran⟩
  constructor
  · exact run_accepted ran
  · intro id w' returns
    obtain ⟨drained, drained', hj⟩ := returns.drained
    have reachable' : Reachable plan w' := returns.1.elim reachable.step reachable.step
    exact ⟨hj, .of_drained reachable drained, .of_drained reachable' drained'⟩
  · intro a w' hstep running ended
    obtain ⟨-, closing, drained, drained'⟩ := step_to_terminated hstep running ended
    exact ⟨closing, .of_drained reachable drained, .of_drained (reachable.step hstep) drained'⟩
  · intro ended
    obtain ⟨before, a, after, u, u', rfl, hu, hstep, hafter, running, ends⟩ := exists_end ran nofun ended
    have hu' : Reachable plan u' := Reachable.step ⟨handler, url, before, hu⟩ hstep
    obtain ⟨-, -, -, drained⟩ := step_to_terminated hstep running ends
    refine ⟨before, a, after, u, u', rfl, hu, hstep, running, ends, .of_drained hu' drained,
      (silent_of_run hafter ends).2, fun later w' hlater => (silent_of_run hlater ended).2, ?_⟩
    exact fun nothingNew => .of_drained reachable (drained_of_run hafter ends drained nothingNew)
  · exact entries_ofJournal w.journal
  · exact (Tracked.of_reachable reachable).entries

def isTerminated (w : World η) : Bool :=
  match w.worker with
  | .terminated => true
  | _ => false

theorem isTerminated_iff : w.isTerminated = true ↔ w.worker = .terminated := by
  unfold isTerminated
  split
  next ended => exact iff_of_true rfl ended
  next running => exact iff_of_false nofun running

/-- Two callers wait while a handler that is told of one event enqueues another, and look in vain in the
meantime. When both have returned the client is closed, and still one more event comes before the worker
has noticed. -/
def reenteredRun : List (Action Unit) :=
  [.enqueue (.new "track" "") noon, .enterWait 0, .enterWait 1, .proceed noon, .proceed noon,
    .proceed noon, .proceed noon, .enqueue (.new "page" "") noon, .scrub .caller, .recheck 0,
    .answer .panicked 0, .proceed noon, .proceed noon, .proceed noon, .answer (.response ⟨200, ""⟩) 0,
    .proceed noon, .enqueue (.new "page" "") noon, .verdict .ok, .recheck 0, .proceed noon,
    .proceed noon, .proceed noon, .proceed noon, .answer (.response ⟨200, ""⟩) 0, .proceed noon,
    .verdict .panic, .proceed noon, .proceed noon, .proceed noon, .recheck 1, .recheck 0, .close,
    .enqueue (.new "group" "") noon, .proceed noon, .proceed noon, .proceed later, .proceed later,
    .answer (.response ⟨200, ""⟩) 0, .proceed later, .verdict .ok, .proceed later, .proceed later,
    .proceed later]

theorem run_completes_reenteredRun : ∃ w,
    (begun (some ()) "").run smallPlan reenteredRun = some w ∧
      (w.worker = .terminated ∧ w.callers = [] ∧ w.ledger.scrubbed = [1] ∧ w.ledger.told = [0, 2, 3]) ∧
        Completes smallPlan (begun (some ()) "") reenteredRun w ∧ Complete w := by
  have ends : ((begun (some ()) "").run smallPlan reenteredRun).any (fun w =>
      w.isTerminated = true ∧ w.callers = [] ∧ w.ledger.scrubbed = [1] ∧ w.ledger.told = [0, 2, 3] ∧
        w.backlog.isDrained = true) = true := by decide +kernel
  obtain ⟨w, ran, hw⟩ := (Option.any_eq_true _ _).1 ends
  obtain ⟨terminated, alone, scrubbed, told, drained⟩ := of_decide_eq_true hw
  exact ⟨w, ran, ⟨isTerminated_iff.1 terminated, alone, scrubbed, told⟩, run_completes ran,
    .of_drained ⟨_, _, _, ran⟩ drained⟩

end World

end Courier
