import Courier.Proofs.Delivery.Batch
import Courier.Proofs.Engine.Reporting
import Courier.Proofs.Ledger.Tracking

/-! No event is lost, doubled or moved past another: in every reachable world the ledger of the journal
keeps track of the batch and the queue, whatever callers and handlers do in the meantime. -/
namespace Courier

variable {η : Type}

def Action.accepted? : Action η → Option Event
  | enqueue e clock => some (e.stamp clock.stamp)
  | _ => none

def Action.isScrub : Action η → Bool
  | scrub _ => true
  | _ => false

def Fact.acceptance? : Fact η → Option Event
  | accepted e _ => some e
  | _ => none

def Worker.toTell? : Worker η → Option (List Event)
  | reporting (some _) _ rest => some rest
  | inHandler _ _ _ rest => some rest
  | _ => none

@[simp] theorem Worker.toTell?_notify (w : Worker η) : w.notify.toTell? = w.toTell? := by
  cases w <;> rfl

namespace Fact

theorem acceptance?_of_isWorkers {f : Fact η} (h : f.isWorkers = true) : f.acceptance? = none := by
  cases f <;> first | rfl | cases h

theorem isScrub_of_isWorkers {f : Fact η} (h : f.isWorkers = true) : f.isScrub = false := by
  cases f <;> first | rfl | cases h

end Fact

namespace Ledger

def events (l : Ledger η) (ns : List Nat) : List Event := ns.filterMap (l.accepted[·]?)

variable {l : Ledger η} {f : Fact η}

theorem content_of_forall₂ {ns : List Nat} {es : List Event} (h : List.Forall₂ l.Knows ns es) :
    (l.events ns).map (·.content) = es.map (·.content) := by
  induction h with
  | nil => rfl
  | cons hk _ ih =>
    obtain ⟨a, ha, hc⟩ := hk
    simp only [events] at ih
    simp only [events, List.filterMap_cons, ha, List.map_cons, hc, ih]

theorem accepted_ofJournal (j : List (Fact η)) :
    (ofJournal j).accepted = j.filterMap Fact.acceptance? := by
  induction j using List.reverseRecOn with
  | nil => rfl
  | append_singleton j f ih =>
    rw [ofJournal_concat, List.filterMap_append, ← ih]
    cases f <;> first | rfl | exact (List.append_nil _).symm

theorem scrubbed_ofJournal_append (j : List (Fact η)) {facts : List (Fact η)}
    (h : ∀ f ∈ facts, f.isScrub = false) :
    (ofJournal (j ++ facts)).scrubbed = (ofJournal j).scrubbed := by
  induction facts using List.reverseRecOn with
  | nil => rw [List.append_nil]
  | append_singleton facts f ih =>
    have hf : f.isScrub = false := h f (by simp)
    have ih := ih fun g hg => h g (by simp [hg])
    rw [← List.append_assoc, ofJournal_concat, scrubbed_enter_of_not hf, ih]

theorem forall₂_settled {entries : List (Fact η × List Nat)}
    (h : ∀ entry ∈ entries, List.Forall₂ l.Knows entry.2 entry.1.events) :
    List.Forall₂ l.Knows ((entries.filter fun entry => entry.1.isSettlement).map (·.2)).flatten
      ((Journal.settlements (entries.map (·.1))).map (·.1)).flatten := by
  induction entries with
  | nil => exact .nil
  | cons entry entries ih =>
    obtain ⟨hentry, hentries⟩ := List.forall_mem_cons.1 h
    obtain ⟨f, ns⟩ := entry
    cases f with
    | settled batch handler outcome => exact List.rel_append hentry (ih hentries)
    | _ => exact ih hentries

end Ledger

namespace World

open Ledger

def ledger (w : World η) : Ledger η := ofJournal w.journal

def Tracked (w : World η) : Prop :=
  Tracks w.ledger w.backlog.batch w.backlog.queue w.worker.toTell?

namespace Tracked

variable {plan : Plan} {w w' : World η} {a : Action η}

theorem begun (handler : Option η) (url : String) : Tracked (begun handler url) :=
  Tracks.begun.still (f := .opened url) rfl

theorem call (h : Tracked w) (hc : Call plan w a w') : Tracked w' := by
  unfold Tracked ledger at h ⊢
  cases hc with
  | enqueue e clock =>
    rw [ofJournal_concat, Worker.toTell?_notify]
    exact h.accept (e.stamp clock.stamp) clock.now
  | scrub actor =>
    rw [ofJournal_concat, Worker.toTell?_notify]
    exact h.scrub actor
  | flush =>
    rw [ofJournal_concat, Worker.toTell?_notify]
    exact h.still rfl
  | passWait id | leaveWait id =>
    rw [ofJournal_concat]
    exact h.still rfl
  | enterWait id | stayWait id | close =>
    rw [Worker.toTell?_notify]
    exact h
  | setHandler handler => exact h

theorem turn (h : Tracked w) (ht : Turn plan w a w') : Tracked w' := by
  unfold Tracked ledger at h ⊢
  cases ht with
  | rouse clock at_ | wake clock at_ | resume clock at_ | drain clock at_ | backOff clock at_
  | decide clock at_ | wait clock at_ | skip clock at_ =>
    rw [at_] at h
    exact h
  | start clock at_ | rest clock at_ | retry answer now at_ =>
    rw [at_] at h
    rw [ofJournal_concat]
    exact h.still rfl
  | stop clock at_ =>
    rw [at_] at h
    rw [ofJournal_concat, ofJournal_concat]
    exact (h.still rfl).still rfl
  | assemble clock at_ =>
    rw [at_] at h
    exact h.regroup w.backlog.assemble_events (Backlog.prefix_grow _ _) (.inl rfl)
  | attempt clock at_ =>
    rw [at_] at h
    rw [ofJournal_concat]
    exact h.request clock.stamp _
  | deliver answer now at_ | giveUp answer now at_ =>
    rw [ofJournal_concat, ofJournal_concat]
    refine ((h.still rfl).settle _ _).regroup rfl (List.prefix_refl _) ?_
    cases w.backlog.handler <;> simp [Worker.toTell?]
  | tell clock at_ =>
    rw [at_] at h
    rw [ofJournal_concat]
    exact h.tell _ _
  | hear v at_ =>
    rw [at_] at h
    cases v with
    | ok => exact (List.append_nil w.journal).symm ▸ h
    | error reason => rw [Verdict.facts, ofJournal_concat]; exact h.still rfl
    | panic => rw [Verdict.facts, ofJournal_concat]; exact h.still rfl
  | endReport clock at_ => exact h.regroup rfl (List.prefix_refl _) (.inl rfl)

theorem of_reachable (h : Reachable plan w) : Tracked w :=
  h.invariant begun fun _ hr hstep => (call_or_turn hstep).elim hr.call hr.turn

end Tracked

variable {plan : Plan} {w w' : World η} {a : Action η}

theorem step_marks (h : w.step plan a = some w') :
    ∃ facts, w'.journal = w.journal ++ facts ∧
      facts.filterMap Fact.acceptance? = a.accepted?.toList ∧
      (a.isScrub = false → ∀ f ∈ facts, f.isScrub = false) := by
  rcases call_or_turn h with hc | ht
  · cases hc with
    | enqueue | flush | passWait | leaveWait =>
      exact ⟨[_], rfl, rfl, fun _ => by simp [Fact.isScrub]⟩
    | scrub actor => exact ⟨[_], rfl, rfl, fun hs => by cases hs⟩
    | setHandler | enterWait | stayWait | close =>
      exact ⟨[], (List.append_nil _).symm, rfl, fun _ => by simp⟩
  · obtain ⟨facts, hj, hw⟩ := ht.journal_append
    refine ⟨facts, hj, ?_, fun _ f hf => Fact.isScrub_of_isWorkers (hw f hf)⟩
    have none_accepted : facts.filterMap Fact.acceptance? = [] :=
      List.filterMap_eq_nil_iff.2 fun f hf => Fact.acceptance?_of_isWorkers (hw f hf)
    rw [none_accepted]
    cases ht <;> rfl

theorem run_accepted {actions : List (Action η)} (ran : w.run plan actions = some w') :
    w'.ledger.accepted = w.ledger.accepted ++ actions.filterMap Action.accepted? := by
  rw [ledger, ledger, accepted_ofJournal, accepted_ofJournal]
  refine run_filterMap (fun hstep => ?_) ran
  obtain ⟨facts, hj, ha, -⟩ := step_marks hstep
  exact ⟨facts, hj, ha⟩

theorem step_scrubbed (hr : Reachable plan w) (h : w.step plan a = some w') :
    w'.ledger.scrubbed =
      w.ledger.scrubbed ++ if a.isScrub then w.ledger.kept.rtake w.backlog.queue.length else [] := by
  obtain ⟨facts, hj, -, hs⟩ := step_marks h
  have tracks := Tracked.of_reachable hr
  cases a with
  | scrub actor =>
    have queued : w.backlog.queue.length ≤ w.ledger.waiting.length :=
      tracks.length_waiting ▸ Nat.le_add_left _ _
    have newest : w.ledger.kept.rtake w.backlog.queue.length =
        w.ledger.waiting.rtake w.backlog.queue.length := by
      rw [tracks.standing, List.rtake, List.rtake, List.length_append, Nat.add_sub_assoc queued,
        List.drop_length_add_append]
    rcases call_or_turn h with hc | ht
    · cases hc with
      | scrub =>
        rw [ledger, ofJournal_concat, scrubbed_enter]
        simp only [Action.isScrub, Fact.isScrub, if_true, newest]
        rfl
    · cases ht
  | _ =>
    rw [ledger, hj, scrubbed_ofJournal_append _ (hs rfl)]
    exact (List.append_nil _).symm

theorem finished_append_underReport (h : Reported w) :
    w.finished.flatten ++ w.underReport = w.settledBatches.flatten := by
  unfold finished underReport
  cases hw : w.worker.isReporting with
  | false => exact List.append_nil _
  | true =>
    have some_settled : w.settledBatches ≠ [] := by simpa [settledBatches] using (h.reporting hw).2
    simp only [if_true, List.getLast?_eq_some_getLast some_settled, Option.getD_some]
    rw [← List.flatten_concat, List.dropLast_concat_getLast some_settled]

/-- What is true of all events accepted in a run that led to a world. Numbers tell equal events apart;
the ledger finds them from the journal alone. -/
structure Conserved (plan : Plan) (actions : List (Action η)) (w : World η) : Prop where
  accepted : w.ledger.accepted = actions.filterMap Action.accepted?
  /-- What no scrub removed is settled, being reported, in the batch, or queued, in this order. -/
  conserved : (w.ledger.events w.ledger.kept).map (·.content) =
    (w.finished.flatten ++ w.underReport ++ w.backlog.batch ++ w.backlog.queue).map (·.content)
  settled : w.ledger.settled.flatten <+: w.ledger.kept
  underReport : w.underReport.length = w.backlog.settling
  /-- What a scrub removes is what is queued when it happens, and nothing else removes anything. -/
  scrubs : ∀ a w', w.step plan a = some w' → w'.ledger.scrubbed =
    w.ledger.scrubbed ++ if a.isScrub then w.ledger.kept.rtake w.backlog.queue.length else []
  emptied : ∀ actor w', w.step plan (.scrub actor) = some w' → w'.backlog = w.backlog.clearQueue
  unsent : ∀ n ∈ w.ledger.scrubbed, ∀ ns ∈ w.ledger.requested, n ∉ ns
  untold : ∀ n ∈ w.ledger.scrubbed, n ∉ w.ledger.told
  /-- The ledger is the journal, with the numbers of the events that each fact is about. -/
  entries : w.ledger.entries.map (·.1) = w.journal
  numbered : ∀ entry ∈ w.ledger.entries, List.Forall₂ w.ledger.Knows entry.2 entry.1.events
  requests : ∀ attempt ∈ Journal.attempts w.journal,
    attempt.2 = plan.target.request (plan.envelope.encode attempt.1)

theorem run_conserves {handler : Option η} {url : String} {actions : List (Action η)}
    (ran : (begun handler url).run plan actions = some w) : Conserved plan actions w := by
  have reachable : Reachable plan w := ⟨handler, url, actions, ran⟩
  have tracks := Tracked.of_reachable reachable
  have reported := Reported.of_reachable reachable
  have entries_eq : w.ledger.entries.map (·.1) = w.journal := entries_ofJournal w.journal
  have settled_known : List.Forall₂ w.ledger.Knows w.ledger.settled.flatten
      w.settledBatches.flatten := by
    have known := forall₂_settled tracks.entries
    rwa [entries_eq] at known
  constructor
  · exact run_accepted ran
  · rw [finished_append_underReport reported, List.append_assoc, tracks.standing]
    exact content_of_forall₂ (List.rel_append settled_known tracks.waiting)
  · exact tracks.standing ▸ List.prefix_append _ _
  · exact reported.settling.symm
  · intro a w' h
    exact step_scrubbed reachable h
  · intro actor w' h
    rcases call_or_turn h with hc | ht
    · cases hc; rfl
    · cases ht
  · intro n hn ns hns hmem
    refine tracks.not_mem_scrubbed (List.mem_append.2 ?_) hn
    exact (tracks.requested_mem ns hns n hmem).imp_right List.mem_of_mem_take
  · intro n hn htold
    have hsettled := tracks.told_sublist.subset (List.mem_append_left _ htold)
    exact tracks.not_mem_scrubbed (List.mem_append_left _ hsettled) hn
  · exact entries_eq
  · exact tracks.entries
  · intro attempt hm
    exact reachable.request_eq hm

/-- While two events are on their way a third is scrubbed, and the handler has heard of the first. -/
def scrubbedRun : List (Action Unit) := [.enqueue (.new "track" "") noon, .enqueue (.new "page" "") noon,
  .enqueue (.new "page" "") noon, .proceed noon, .proceed noon, .proceed noon, .proceed noon,
  .scrub .caller, .answer (.response ⟨200, ""⟩) 0, .proceed noon, .verdict .panic]

theorem run_conserves_scrubbedRun : ∃ w, (begun (some ()) "").run smallPlan scrubbedRun = some w ∧
    (w.ledger.scrubbed = [2] ∧ w.ledger.told = [0]) ∧ Conserved smallPlan scrubbedRun w := by
  have ends : ((begun (some ()) "").run smallPlan scrubbedRun).any
      (fun w => w.ledger.scrubbed = [2] ∧ w.ledger.told = [0]) = true := by decide +kernel
  obtain ⟨w, ran, hw⟩ := (Option.any_eq_true _ _).1 ends
  exact ⟨w, ran, of_decide_eq_true hw, run_conserves ran⟩

end World

end Courier
