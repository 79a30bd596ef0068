import Courier.Proofs.Engine.Batching
import Courier.Proofs.Engine.Flushing
import Courier.Proofs.Ledger.Attempts

/-! What is sent again. A batch is attempted until it is settled, with nothing else attempted meanwhile,
and from one of its attempts to the next only the stamps of its events change. -/
namespace Courier

variable {η : Type}

namespace Ledger

variable {l : Ledger η}

theorem Coheres.others {hand : List Nat} {facts : List (Fact η)} (h : Coheres l hand)
    (idle : ∀ f ∈ facts, f.isAttempt = false ∧ f.isSettlement = false) :
    Coheres (facts.foldl Ledger.enter l) hand := by
  induction facts generalizing l with
  | nil => exact h
  | cons f facts ih =>
    obtain ⟨⟨unattempted, unsettling⟩, idle⟩ := List.forall_mem_cons.1 idle
    exact ih (h.other unattempted unsettling) idle

theorem Quiet.settlements_eq_nil {entries : List (Fact η × List Nat)} (quiet : Quiet entries) :
    Journal.settlements (entries.map (·.1)) = [] := by
  refine Journal.settlements_eq_nil_iff.2 fun f hf => ?_
  obtain ⟨entry, hentry, rfl⟩ := List.mem_map.1 hf
  have unsettling := quiet entry hentry
  cases fact : entry.1 <;> first | rfl | (rw [fact] at unsettling; cases unsettling)

end Ledger

namespace World

open Journal Ledger

variable {plan : Plan} {w w' : World η} {a : Action η}

theorem journal_of_entries {front back : List (Fact η × List Nat)} {entry : Fact η × List Nat}
    (split : w.ledger.entries = front ++ entry :: back) :
    w.journal = front.map (·.1) ++ entry.1 :: back.map (·.1) := by
  rw [← entries_ofJournal w.journal, ← ledger, split, List.map_append, List.map_cons]

def Coherent (w : World η) : Prop := Coheres w.ledger w.inBatch

namespace Coherent

theorem begun (handler : Option η) (url : String) : Coherent (begun handler url) :=
  Coheres.begun.other (f := .opened url) rfl rfl

theorem keep (h : Coherent w) {facts : List (Fact η)} (hj : w'.journal = w.journal ++ facts)
    (idle : ∀ f ∈ facts, f.isAttempt = false ∧ f.isSettlement = false)
    (same : w'.inBatch = w.inBatch) : Coherent w' := by
  rw [Coherent, same, ledger, hj, ofJournal_append]
  exact h.others idle

theorem call (h : Coherent w) (tracked : Tracked w) (hc : Call plan w a w') : Coherent w' := by
  obtain ⟨facts, hj, callers⟩ := hc.untouched.journal
  refine h.keep hj (fun f hf => ?_) (hc.inBatch_eq tracked)
  have aside := callers f hf
  cases f <;> first | exact ⟨rfl, rfl⟩ | cases aside

private theorem settle (h : Coherent w) {f : Fact η} (still : f.isStill = true) {handler : Option η}
    {outcome : Outcome}
    (hj : w'.journal = w.journal ++ [f] ++ [.settled w.backlog.batch handler outcome]) :
    Coherent w' := by
  obtain ⟨-, unattempted, unsettling, -⟩ := Fact.kinds_of_still still
  have waiting : (w.ledger.enter f).waiting = w.ledger.waiting := by rw [enter_of_still still]
  rw [Coherent, ledger, hj, ofJournal_concat, ofJournal_concat]
  refine (Coheres.other h unattempted unsettling).settle rfl ?_ _
  exact congrArg (List.take w.backlog.batch.length) waiting

private theorem fresh (none_at_hand : attemptsAtHand w.journal = [])
    {front mid : List (Fact η × List Nat)} {entry : Fact η × List Nat}
    (split : w.ledger.entries = front ++ entry :: mid) (attempt : entry.1.isAttempt = true) :
    ¬Quiet mid := by
  intro quiet
  rw [journal_of_entries split, List.append_cons,
    attemptsAtHand_append quiet.settlements_eq_nil] at none_at_hand
  obtain ⟨none_at_hand, -⟩ := List.append_eq_nil_iff.1 none_at_hand
  cases fact : entry.1 with
  | attempted batch request =>
    rw [fact, attemptsAtHand_append rfl] at none_at_hand
    exact absurd (List.append_eq_nil_iff.1 none_at_hand).2 (List.cons_ne_nil _ _)
  | _ =>
    rw [fact] at attempt
    cases attempt

theorem turn (h : Coherent w) (tracked : Tracked w) (counted : Counted plan w)
    (ht : Turn plan w a w') : Coherent w' := by
  have still {facts : List (Fact η)} (hj : w'.journal = w.journal ++ facts)
      (idle : ∀ f ∈ facts, f.isMove = false ∧ f.isAttempt = false)
      (length : w'.backlog.batch.length = w.backlog.batch.length) : Coherent w' := by
    refine h.keep hj (fun f hf => ⟨(idle f hf).2, ?_⟩)
      (inBatch_congr hj (fun f hf => (idle f hf).1) length)
    have unmoved := (idle f hf).1
    cases f <;> first | rfl | cases unmoved
  cases ht with
  | rouse | wake | resume | drain | backOff | decide | wait | skip | endReport =>
    exact still (List.append_nil _).symm (by simp) rfl
  | start | rest | retry | tell => exact still rfl (by simp [Fact.isMove, Fact.isAttempt]) rfl
  | stop => exact still (List.append_assoc _ _ _) (by simp [Fact.isMove, Fact.isAttempt]) rfl
  | hear v => exact still rfl (by cases v <;> simp [Verdict.facts, Fact.isMove, Fact.isAttempt]) rfl
  | assemble clock at_ undrained retry =>
    have none_at_hand : attemptsAtHand w.journal = [] := by
      by_contra attempted
      have held := (counted.held attempted).2
      simp [at_, retry, Worker.isCalling] at held
    exact Coheres.regroup h (fun _ _ _ split attempt => fresh none_at_hand split attempt) _
  | attempt clock =>
    have numbers : w.ledger.numbers (.attempted (w.backlog.stampBatch clock.stamp).batch
        (plan.target.request (plan.envelope.encode (w.backlog.stampBatch clock.stamp).batch))) =
          w.inBatch :=
      congrArg w.ledger.waiting.take (List.length_map _)
    have batched : ∀ n ∈ w.inBatch, n ∉ w.ledger.settled.flatten := fun n hn settled =>
      List.disjoint_of_nodup_append tracked.nodup settled (List.mem_of_mem_take hn)
    have same : World.inBatch ⟨w.backlog.stampBatch clock.stamp,
        .calling (plan.target.request (plan.envelope.encode (w.backlog.stampBatch clock.stamp).batch)),
        w.callers, w.journal ++ [.attempted (w.backlog.stampBatch clock.stamp).batch
          (plan.target.request (plan.envelope.encode (w.backlog.stampBatch clock.stamp).batch))]⟩ =
            w.inBatch := by
      rw [inBatch, ledger, ofJournal_concat]
      exact numbers
    rw [Coherent, same, ledger, ofJournal_concat]
    exact Coheres.attempt h numbers batched
  | deliver answer now => exact h.settle (f := .delivered _) rfl rfl
  | giveUp answer now => exact h.settle (f := .gaveUp _ _) rfl rfl

theorem of_reachable (h : Reachable plan w) : Coherent w :=
  h.invariant begun fun hr hu hstep => (call_or_turn hstep).elim (hu.call (Tracked.of_reachable hr))
    (hu.turn (Tracked.of_reachable hr) (Counted.of_reachable hr))

end Coherent

/-- Number `n` is event `e`, as it was enqueued, whenever that was sent. -/
def IsOffered (actions : List (Action η)) (n : Nat) (e : Event) : Prop :=
  ∃ offered, (actions.filterMap Action.offered?)[n]? = some offered ∧ e.content = offered.content

/-- Two requests for batches that differ in their stamps alone, and whose bodies do. -/
structure Restamped (batch batch' : List Event) (request request' : Request) : Prop where
  content : batch.map (·.content) = batch'.map (·.content)
  masked : ∃ pieces time time', pieces.length = batch.length + 1 ∧
    (∀ e ∈ batch, e.sentAt = some time) ∧ (∀ e ∈ batch', e.sentAt = some time') ∧
      request.body = (Json.quote time).intercalate pieces ∧
        request'.body = (Json.quote time').intercalate pieces

/-- What is true of all attempts of a run that led to a world. The attempts of one batch are those that
the ledger knows by the same numbers. -/
structure Resends (plan : Plan) (start : World η) (actions : List (Action η)) (w : World η) : Prop where
  /-- Attempts that share an event, or with nothing settled between them, are of one batch, and all that
  is attempted between them is that batch. -/
  together : ∀ front first mid again rest,
    w.ledger.entries = front ++ first :: mid ++ again :: rest → first.1.isAttempt = true →
      again.1.isAttempt = true → (∃ n ∈ first.2, n ∈ again.2) ∨ Quiet mid →
        again.2 = first.2 ∧ Quiet mid ∧ ∀ entry ∈ mid, entry.1.isAttempt = true → entry.2 = first.2
  stamped : ∀ before batch request after, w.journal = before ++ .attempted batch request :: after →
    ∃ earlier clock later u, actions = earlier ++ .proceed clock :: later ∧
      start.run plan earlier = some u ∧ u.journal = before ∧
        batch = u.backlog.batch.map (Event.stamp clock.stamp) ∧
          request.body = plan.envelope.encode batch
  /-- Bodies of one batch are the same text around the stamps, and as long as each other if stamps are. -/
  restamped : ∀ ns batch batch' request request', (.attempted batch request, ns) ∈ w.ledger.entries →
    (.attempted batch' request', ns) ∈ w.ledger.entries → Restamped batch batch' request request' ∧
      ((∀ a ∈ actions, a.IsStamped) → request.body.utf8ByteSize = request'.body.utf8ByteSize)
  /-- Every event of a fact, a request's and a callback's among them, is as it was enqueued. -/
  unchanged : ∀ entry ∈ w.ledger.entries, List.Forall₂ (IsOffered actions) entry.2 entry.1.events
  entries : w.ledger.entries.map (·.1) = w.journal

variable {handler : Option η} {url : String} {actions : List (Action η)}

theorem isOffered_of_knows (ran : (begun handler url).run plan actions = some w) {n : Nat} {e : Event}
    (known : w.ledger.Knows n e) : IsOffered actions n e := by
  obtain ⟨a, ha, content⟩ := known
  have same : (actions.filterMap Action.accepted?).map (·.content) =
      (actions.filterMap Action.offered?).map (·.content) := by
    rw [List.map_filterMap, List.map_filterMap]
    refine congrArg (List.filterMap · actions) (funext fun a => ?_)
    cases a <;> rfl
  have accepted : w.ledger.accepted = actions.filterMap Action.accepted? := run_accepted ran
  rw [accepted] at ha
  have offered : ((actions.filterMap Action.offered?).map (·.content))[n]? = some e.content := by
    rw [← same, List.getElem?_map, ha, ← content]
    rfl
  rw [List.getElem?_map] at offered
  obtain ⟨o, ho, hc⟩ := Option.map_eq_some_iff.1 offered
  exact ⟨o, ho, hc.symm⟩

theorem exists_stamp (ran : (begun handler url).run plan actions = some w) {batch : List Event}
    {request : Request} (sent : .attempted batch request ∈ w.journal) :
    ∃ clock, .proceed clock ∈ actions ∧ batch ≠ [] ∧
      batch = (batch.map (·.content)).map (Event.stamp clock.stamp) ∧
        request.body = plan.envelope.encode batch := by
  obtain ⟨before, after, hj⟩ := List.append_of_mem sent
  obtain ⟨earlier, clock, later, u, u', rfl, -, -, attempt, -, rfl, rfl⟩ := exists_attempt ran hj
  refine ⟨clock, by simp, ?_, ?_, rfl⟩
  · rw [attempt.backlog]
    exact mt List.map_eq_nil_iff.1 attempt.nonempty
  · rw [attempt.backlog, Backlog.stampBatch, List.map_map, List.map_map]
    rfl

theorem sentAt_of_stamped {batch contents : List Event} {time : String}
    (stamped : batch = contents.map (Event.stamp time)) : ∀ e ∈ batch, e.sentAt = some time := by
  intro e he
  rw [stamped] at he
  obtain ⟨c, -, rfl⟩ := List.mem_map.1 he
  rfl

theorem run_resends (ran : (begun handler url).run plan actions = some w) :
    Resends plan (begun handler url) actions w := by
  have reachable : Reachable plan w := ⟨handler, url, actions, ran⟩
  have tracks := Tracked.of_reachable reachable
  have coherent := Coherent.of_reachable reachable
  have entries_eq : w.ledger.entries.map (·.1) = w.journal := entries_ofJournal w.journal
  constructor
  · intro front first mid again rest split attempt attempt' one
    exact coherent.together split attempt attempt' one
  · intro before batch request after hj
    obtain ⟨earlier, clock, later, u, u', rfl, hu, -, attempt, rfl, rfl, rfl⟩ := exists_attempt ran hj
    exact ⟨earlier, clock, later, u, rfl, hu, rfl, by rw [attempt.backlog]; rfl, rfl⟩
  · intro ns batch batch' request request' sent sent'
    have known := tracks.entries _ sent
    have known' := tracks.entries _ sent'
    have content : batch.map (·.content) = batch'.map (·.content) :=
      (content_of_forall₂ known).symm.trans (content_of_forall₂ known')
    obtain ⟨clock, taken, nonempty, stamped, body⟩ :=
      exists_stamp ran (entries_eq ▸ List.mem_map_of_mem sent)
    obtain ⟨clock', taken', -, stamped', body'⟩ :=
      exists_stamp ran (entries_eq ▸ List.mem_map_of_mem sent')
    rw [← content] at stamped'
    have some_contents : batch.map (·.content) ≠ [] := mt List.map_eq_nil_iff.1 nonempty
    obtain ⟨pieces, length, joined⟩ := plan.envelope.exists_pieces some_contents
    refine ⟨⟨content, pieces, clock.stamp, clock'.stamp, ?_, sentAt_of_stamped stamped,
      sentAt_of_stamped stamped', ?_, ?_⟩, fun stamps => ?_⟩
    · rw [length, List.length_map]
    · rw [body, stamped]
      exact joined clock.stamp
    · rw [body', stamped']
      exact joined clock'.stamp
    · rw [body, body', Envelope.utf8ByteSize_encode, Envelope.utf8ByteSize_encode]
      refine plan.envelope.encodedSize_eq_of_isStamped ?_ ?_ content
      · exact fun e he => ⟨_, sentAt_of_stamped stamped e he, stamps _ taken clock rfl⟩
      · exact fun e he => ⟨_, sentAt_of_stamped stamped' e he, stamps _ taken' clock' rfl⟩
  · intro entry hentry
    exact (tracks.entries entry hentry).imp fun _ _ known => isOffered_of_knows ran known
  · exact entries_eq

/-- While a batch is sent and while it waits for its retry, events come and go and a flush is asked for. -/
def meddledRun : List (Action Unit) :=
  [.enqueue (.new "track" "") noon, .enqueue (.new "page" "") noon, .enqueue (.new "page" "") noon,
    .proceed noon, .proceed noon, .proceed noon, .proceed noon, .scrub .caller,
    .enqueue (.new "group" "") noon, .answer .panicked 0, .proceed noon, .proceed noon, .flush,
    .enterWait 0, .scrub .caller, .proceed later, .proceed later, .proceed later, .proceed later,
    .answer (.response ⟨200, ""⟩) 0, .proceed later]

theorem run_resends_meddledRun : ∃ w, (begun (some ()) "").run smallPlan meddledRun = some w ∧
    (w.ledger.requested = [[0, 1], [0, 1]] ∧ w.ledger.scrubbed = [2, 3] ∧ w.ledger.told = [0]) ∧
      Resends smallPlan (begun (some ()) "") meddledRun w := by
  have ends : ((begun (some ()) "").run smallPlan meddledRun).any (fun w =>
      w.ledger.requested = [[0, 1], [0, 1]] ∧ w.ledger.scrubbed = [2, 3] ∧ w.ledger.told = [0]) =
        true := by decide +kernel
  obtain ⟨w, ran, hw⟩ := (Option.any_eq_true _ _).1 ends
  exact ⟨w, ran, of_decide_eq_true hw, run_resends ran⟩

end World

end Courier
