import Courier.Proofs.Engine.Run

/-! How often a batch is attempted. The count of failures is shared by all batches, so it is followed
through the journal: it is what the batches before left over and the failed attempts at hand. -/
namespace Courier

variable {η : Type}

def Worker.isCalling : Worker η → Bool
  | calling _ => true
  | _ => false

@[simp] theorem Worker.isCalling_notify (w : Worker η) : w.notify.isCalling = w.isCalling := by
  cases w <;> rfl

def Fact.isCounted : Fact η → Bool
  | attempted _ _ => true
  | settled _ _ _ => true
  | drained => true
  | _ => false

theorem Fact.isCounted_eq_false {f : Fact η} (h : f.isWorkers = false) : f.isCounted = false := by
  cases f <;> first | rfl | cases h

namespace Journal

def spentAfter (spent : Bool) : Fact η → Bool
  | .settled _ _ (.failure _) => true
  | .settled _ _ .success => false
  | .drained => false
  | _ => spent

/-- The batch settled last was given up on, and nothing has been drained since. -/
def spent (j : List (Fact η)) : Bool := j.foldl spentAfter false

/-- Failures that the batch at hand started with. -/
def carried (limit : Nat) (j : List (Fact η)) : Nat := if spent j then limit else 0

def AtHand (j : List (Fact η)) (batch : List Event) : Prop :=
  ∀ attempt ∈ attemptsAtHand j, attempt.1.map (·.content) = batch.map (·.content)

/-- What may come after a journal if at most `limit` failures are retried. -/
def Allowed (limit : Nat) (j : List (Fact η)) : Fact η → Prop
  | .attempted batch _ => carried limit j + (attemptsAtHand j).length ≤ limit ∧ AtHand j batch
  | .settled batch _ .success => AtHand j batch
  | .settled batch _ (.failure _) =>
    carried limit j + (attemptsAtHand j).length = limit + 1 ∧ AtHand j batch
  | .drained => attemptsAtHand j = []
  | _ => True

/-- Every fact of the journal was allowed after those before it. -/
def Lawful (limit : Nat) (j : List (Fact η)) : Prop :=
  ∀ before f after, j = before ++ f :: after → Allowed limit before f

variable {limit : Nat} {j facts : List (Fact η)} {f : Fact η}

@[simp] theorem spent_concat : spent (j ++ [f]) = spentAfter (spent j) f := List.foldl_append

theorem lawful_nil : Lawful limit ([] : List (Fact η)) := by
  intro before f after h
  simp at h

theorem Lawful.concat (h : Lawful limit j) (hf : Allowed limit j f) : Lawful limit (j ++ [f]) := by
  intro before g after hj
  rcases split_concat hj with ⟨rfl, rfl, -⟩ | ⟨after, -, hj⟩
  · exact hf
  · exact h before g after hj

theorem Lawful.of_append (h : Lawful limit (j ++ facts)) : Lawful limit j := by
  intro before f after hj
  exact h before f (after ++ facts) (by rw [hj, List.append_assoc, List.cons_append])

theorem of_uncounted (limit : Nat) (j : List (Fact η)) (h : ∀ f ∈ facts, f.isCounted = false) :
    spent (j ++ facts) = spent j ∧ attemptsAtHand (j ++ facts) = attemptsAtHand j ∧
      (Lawful limit j → Lawful limit (j ++ facts)) := by
  induction facts using List.reverseRecOn with
  | nil => simp
  | append_singleton facts f ih =>
    obtain ⟨hspent, hattempts, hlawful⟩ := ih fun g hg => h g (by simp [hg])
    have hf : f.isCounted = false := h f (by simp)
    have plain : (∀ b, spentAfter b f = b) ∧ settlements [f] = [] ∧ attempts [f] = [] ∧
        ∀ k, Allowed limit k f := by
      cases f <;> first | exact ⟨fun _ => rfl, rfl, rfl, fun _ => trivial⟩ | cases hf
    rw [← List.append_assoc, spent_concat, plain.1, attemptsAtHand_append plain.2.1, plain.2.2.1,
      List.append_nil]
    exact ⟨hspent, hattempts, fun hl => (hlawful hl).concat (plain.2.2.2 _)⟩

theorem Lawful.attempts_le (h : Lawful limit (j ++ facts)) (hs : settlements facts = [])
    (begun : attemptsAtHand j ≠ []) (hle : carried limit j + (attemptsAtHand j).length ≤ limit + 1) :
    spent (j ++ facts) = spent j ∧
      carried limit j + (attemptsAtHand (j ++ facts)).length ≤ limit + 1 := by
  induction facts using List.reverseRecOn with
  | nil => simpa using hle
  | append_singleton facts f ih =>
    rw [settlements_append, List.append_eq_nil_iff] at hs
    rw [← List.append_assoc] at h ⊢
    obtain ⟨hspent, hcount⟩ := ih h.of_append hs.1
    have hf : Allowed limit (j ++ facts) f := h _ f [] rfl
    rw [spent_concat, attemptsAtHand_append hs.2, ← hspent]
    cases f with
    | attempted batch request =>
      have room : carried limit (j ++ facts) + (attemptsAtHand (j ++ facts)).length ≤ limit := hf.1
      rw [carried, hspent, ← carried] at room
      refine ⟨rfl, ?_⟩
      rw [List.length_append]
      exact Nat.succ_le_succ room
    | drained =>
      -- The worker comes to rest only with no attempt at hand, and there is one.
      have none_at_hand : attemptsAtHand (j ++ facts) = [] := hf
      rw [attemptsAtHand_append hs.1] at none_at_hand
      exact absurd (List.append_eq_nil_iff.1 none_at_hand).1 begun
    | settled batch handler outcome => cases hs.2
    | _ => exact ⟨rfl, (List.append_nil (attemptsAtHand (j ++ facts))).symm ▸ hcount⟩

/-- How a batch fares that was first attempted with `failures` on the count: `tried` was noted next
and does not settle it, and `rest` after that. -/
structure Tried (limit failures : Nat) (batch : List Event) (tried rest : List (Fact η)) : Prop where
  bounded : failures = 0 → 1 + (attempts tried).length ≤ limit + 1
  once : failures = limit → attempts tried = []
  exhausted : ∀ f ∈ rest.head?, ∀ batch handler reason,
    f = .settled batch handler (.failure reason) → failures = 0 →
      1 + (attempts tried).length = limit + 1
  /-- Nothing else is attempted or settled meanwhile. -/
  same : ∀ f ∈ rest.head?, ∀ settled, f.batch? = some settled →
    settled.map (·.content) = batch.map (·.content)

theorem Lawful.counts {batch : List Event} {request : Request} {tried : List (Fact η)}
    (h : Lawful limit (j ++ [.attempted batch request] ++ tried)) (fresh : attemptsAtHand j = [])
    (hs : settlements tried = []) :
    carried limit (j ++ [.attempted batch request] ++ tried) = carried limit j ∧
      attemptsAtHand (j ++ [.attempted batch request] ++ tried) =
        (batch, request) :: attempts tried ∧
      carried limit j + (attempts tried).length ≤ limit := by
  have first : attemptsAtHand (j ++ [.attempted batch request]) = [(batch, request)] := by
    rw [attemptsAtHand_append rfl, fresh]
    rfl
  have attempts_eq : attemptsAtHand (j ++ [.attempted batch request] ++ tried) =
      (batch, request) :: attempts tried := by
    rw [attemptsAtHand_append hs, first]
    rfl
  have carried_eq : carried limit (j ++ [.attempted batch request]) = carried limit j := by
    rw [carried, spent_concat]
    rfl
  have room : carried limit j ≤ limit := by
    have allowed : Allowed limit j (.attempted batch request) := h j _ tried (by simp)
    exact Nat.le_trans (Nat.le_add_right _ _) allowed.1
  obtain ⟨hspent, hcount⟩ := h.attempts_le hs (by simp [first])
    (by rw [carried_eq, first]; exact Nat.succ_le_succ room)
  rw [carried_eq, attempts_eq, List.length_cons] at hcount
  exact ⟨by rw [carried, hspent, ← carried, carried_eq], attempts_eq, Nat.le_of_succ_le_succ hcount⟩

theorem Lawful.tried {batch : List Event} {request : Request} {tried rest : List (Fact η)}
    (h : Lawful limit (j ++ [.attempted batch request] ++ tried ++ rest))
    (fresh : attemptsAtHand j = []) (hs : settlements tried = []) :
    Tried limit (carried limit j) batch tried rest := by
  obtain ⟨carried_eq, attempts_eq, hcount⟩ := h.of_append.counts fresh hs
  have next {f : Fact η} (hf : f ∈ rest.head?) :
      Allowed limit (j ++ [.attempted batch request] ++ tried) f := by
    obtain ⟨rest, rfl⟩ := List.head?_eq_some_iff.1 hf
    exact h _ f rest rfl
  constructor
  · intro hz
    omega
  · intro hl
    exact List.length_eq_zero_iff.1 (by omega)
  · rintro f hf batch' handler reason rfl hz
    have allowed := (next hf).1
    rw [carried_eq, attempts_eq, List.length_cons] at allowed
    omega
  · intro f hf settled hb
    have atHand : AtHand (j ++ [.attempted batch request] ++ tried) settled := by
      have allowed := next hf
      cases f with
      | attempted => cases hb; exact allowed.2
      | settled _ _ outcome =>
        cases hb
        cases outcome with
        | success => exact allowed
        | failure reason => exact allowed.2
      | _ => cases hb
    exact (atHand (batch, request) (by rw [attempts_eq]; exact List.mem_cons_self)).symm

theorem Lawful.content_eq {first batch : List Event} {request request' : Request}
    {before front between after : List (Fact η)}
    (h : Lawful limit (before ++ .attempted batch request :: after))
    (split : before ++ [.attempted batch request] = front ++ [.attempted first request'] ++ between)
    (fresh : attemptsAtHand front = []) (hs : settlements between = []) :
    batch.map (·.content) = first.map (·.content) := by
  rw [List.append_assoc, List.singleton_append] at split
  rcases split_concat split with ⟨-, hfirst, -⟩ | ⟨between, rfl, hbefore⟩
  · cases hfirst
    rfl
  · rw [settlements_append, List.append_eq_nil_iff] at hs
    rw [hbefore, List.append_cons front] at h
    exact (h.tried fresh hs.1).same (.attempted batch request) rfl batch rfl

/-- The batch settled last was given up on, and the worker has not come to rest since. -/
def GaveUpLast (j : List (Fact η)) : Prop :=
  ∃ before batch handler reason after, j = before ++ .settled batch handler (.failure reason) :: after ∧
    settlements after = [] ∧ .drained ∉ after

theorem gaveUpLast_concat : GaveUpLast (j ++ [f]) ↔
    (∃ batch handler reason, f = .settled batch handler (.failure reason)) ∨
      GaveUpLast j ∧ settlements [f] = [] ∧ .drained ≠ f := by
  constructor
  · rintro ⟨before, batch, handler, reason, after, hj, hs, hd⟩
    rcases split_concat hj with ⟨-, rfl, -⟩ | ⟨after, rfl, hold⟩
    · exact .inl ⟨batch, handler, reason, rfl⟩
    · rw [settlements_append, List.append_eq_nil_iff] at hs
      rw [List.mem_append, not_or, List.mem_singleton] at hd
      exact .inr ⟨⟨before, batch, handler, reason, after, hold, hs.1, hd.1⟩, hs.2, hd.2⟩
  · rintro (⟨batch, handler, reason, rfl⟩ | ⟨⟨before, batch, handler, reason, after, rfl, hs, hd⟩, hf, hn⟩)
    · exact ⟨j, batch, handler, reason, [], rfl, rfl, List.not_mem_nil⟩
    · refine ⟨before, batch, handler, reason, after ++ [f], by simp, ?_, ?_⟩
      · rw [settlements_append, hs, hf, List.append_nil]
      · simpa [not_or] using ⟨hd, hn⟩

theorem spent_iff_gaveUpLast : spent j = true ↔ GaveUpLast j := by
  induction j using List.reverseRecOn with
  | nil => simp [spent, GaveUpLast]
  | append_singleton j f ih =>
    rw [spent_concat, gaveUpLast_concat, ← ih]
    cases f with
    | settled batch handler outcome => cases outcome <;> simp [spentAfter]
    | drained => simp [spentAfter]
    | _ => simp [spentAfter, settlements, Fact.settlement?]

end Journal

namespace World

open Journal

/-- The count of failures is what the journal says it is, and a batch is held as long as it has been
attempted without success. -/
structure Counted (plan : Plan) (w : World η) : Prop where
  failures_le : w.backlog.failures ≤ plan.policy.maxRetries
  calling : w.worker.isCalling = true → attemptsAtHand w.journal ≠ [] ∧
    w.backlog.failures + 1 =
      carried plan.policy.maxRetries w.journal + (attemptsAtHand w.journal).length
  apart : w.worker.isCalling = false → w.backlog.failures =
    carried plan.policy.maxRetries w.journal + (attemptsAtHand w.journal).length
  held : attemptsAtHand w.journal ≠ [] → w.backlog.batch ≠ [] ∧ (w.worker.isCalling = true ∨
    w.worker = .holding .sending ∨ w.backlog.schedule.retry.isSome = true)
  atHand : AtHand w.journal w.backlog.batch
  lawful : Lawful plan.policy.maxRetries w.journal

namespace Counted

variable {plan : Plan} {w w' : World η} {a : Action η}

theorem begun (handler : Option η) (url : String) : Counted plan (begun handler url) where
  failures_le := Nat.zero_le _
  calling := by simp [World.begun, World.new, note, Worker.isCalling]
  apart := fun _ => rfl
  held := fun h => (h rfl).elim
  atHand := fun _ hm => nomatch hm
  lawful := lawful_nil.concat trivial

theorem keep (h : Counted plan w) {facts : List (Fact η)} (hj : w'.journal = w.journal ++ facts)
    (hf : ∀ f ∈ facts, f.isCounted = false) (failures : w'.backlog.failures = w.backlog.failures)
    (isCalling : w'.worker.isCalling = w.worker.isCalling)
    (held : attemptsAtHand w.journal ≠ [] → w'.backlog.batch = w.backlog.batch ∧
      (w'.worker.isCalling = true ∨ w'.worker = .holding .sending ∨
        w'.backlog.schedule.retry.isSome = true)) : Counted plan w' := by
  obtain ⟨hspent, hattempts, hlawful⟩ := of_uncounted plan.policy.maxRetries w.journal hf
  rw [← hj] at hspent hattempts hlawful
  constructor
  · exact failures ▸ h.failures_le
  · rw [isCalling, failures, carried, hspent, hattempts]
    exact h.calling
  · rw [isCalling, failures, carried, hspent, hattempts]
    exact h.apart
  · rw [hattempts]
    intro hn
    exact ⟨(held hn).1 ▸ (h.held hn).1, (held hn).2⟩
  · intro attempt hm
    rw [hattempts] at hm
    rw [(held (List.ne_nil_of_mem hm)).1]
    exact h.atHand attempt hm
  · exact hlawful h.lawful

theorem call (h : Counted plan w) (hc : Call plan w a w') : Counted plan w' := by
  have same := hc.untouched
  obtain ⟨facts, hj, hf⟩ := same.journal
  refine h.keep hj (fun f hm => Fact.isCounted_eq_false (hf f hm)) same.failures ?_ fun hn => ?_
  · rcases same.worker with hw | hw <;> simp [hw]
  · refine ⟨same.batch, ?_⟩
    rw [same.retry]
    refine (h.held hn).2.imp (fun hw => ?_) (Or.imp (fun hw => ?_) id)
    · rcases same.worker with hw' | hw' <;> simpa [hw'] using hw
    · rcases same.worker with hw' | hw' <;> simp [hw', hw, Worker.notify]

private theorem fresh (hn : attemptsAtHand w'.journal = [])
    (isCalling : w'.worker.isCalling = false)
    (failures : w'.backlog.failures = carried plan.policy.maxRetries w'.journal)
    (lawful : Lawful plan.policy.maxRetries w'.journal) : Counted plan w' where
  failures_le := by
    rw [failures, carried]
    split
    · exact Nat.le_refl _
    · exact Nat.zero_le _
  calling := fun hc => absurd (isCalling.symm.trans hc) Bool.false_ne_true
  apart := fun _ => by rw [failures, hn]; rfl
  held := fun h => absurd hn h
  atHand := fun attempt hm => by rw [hn] at hm; cases hm
  lawful := lawful

theorem attempt (h : Counted plan w) {request : Request} {stamp : String} {batch : List Event}
    (batch_eq : batch = w.backlog.batch.map (Event.stamp stamp)) (nonempty : w.backlog.batch ≠ [])
    (isCalling : w.worker.isCalling = false) (callers : List Caller) :
    Counted plan ⟨w.backlog.stampBatch stamp, .calling request, callers,
      w.journal ++ [.attempted batch request]⟩ := by
  have same : batch.map (·.content) = w.backlog.batch.map (·.content) := by
    rw [batch_eq, List.map_map]
    rfl
  have atHand : AtHand w.journal batch := fun attempt hm => (h.atHand attempt hm).trans same.symm
  have attempts_eq : attemptsAtHand (w.journal ++ [.attempted batch request]) =
      attemptsAtHand w.journal ++ [(batch, request)] := attemptsAtHand_append rfl
  constructor
  · exact h.failures_le
  · intro _
    rw [attempts_eq, List.length_append, ← Nat.add_assoc]
    refine ⟨by simp, congrArg (· + 1) ?_⟩
    rw [carried, spent_concat]
    exact h.apart isCalling
  · intro hc
    cases hc
  · intro _
    exact ⟨by simpa [Backlog.stampBatch] using nonempty, .inl rfl⟩
  · intro attempt hm
    change attempt.1.map (·.content) = (w.backlog.batch.map (Event.stamp stamp)).map (·.content)
    rw [← batch_eq]
    rw [attempts_eq] at hm
    rcases List.mem_append.1 hm with hold | hnew
    · exact atHand attempt hold
    · rw [List.mem_singleton.1 hnew]
  · refine h.lawful.concat ⟨?_, atHand⟩
    rw [← h.apart isCalling]
    exact h.failures_le

theorem retry (h : Counted plan w) {f : Fact η} (hf : f.isCounted = false) (time : Nat)
    (calling : w.worker.isCalling = true) (more : w.backlog.failures < plan.policy.maxRetries) :
    Counted plan ⟨w.backlog.failUntil time, .holding .assembling, w.callers, w.journal ++ [f]⟩ := by
  obtain ⟨hspent, hattempts, hlawful⟩ := of_uncounted plan.policy.maxRetries w.journal
    (List.forall_mem_singleton.2 hf)
  have armed : (w.backlog.failUntil time).schedule.retry.isSome = true := by
    dsimp only [Backlog.failUntil, Schedule.armRetry, Schedule.earlier]
    split <;> rfl
  constructor
  · exact more
  · intro hc
    cases hc
  · rw [carried, hspent, hattempts]
    intro _
    exact (h.calling calling).2
  · rw [hattempts]
    intro hn
    exact ⟨(h.held hn).1, .inr (.inr armed)⟩
  · rw [AtHand, hattempts]
    exact h.atHand
  · exact hlawful h.lawful

theorem settle (h : Counted plan w) {f : Fact η} (hf : f.isCounted = false) {handler : Option η}
    {outcome : Outcome}
    (hj : w'.journal = w.journal ++ [f] ++ [.settled w.backlog.batch handler outcome])
    (exhausted : outcome = .success ∨ carried plan.policy.maxRetries w.journal +
      (attemptsAtHand w.journal).length = plan.policy.maxRetries + 1)
    (isCalling : w'.worker.isCalling = false)
    (failures : w'.backlog.failures = if outcome = .success then 0 else plan.policy.maxRetries) :
    Counted plan w' := by
  obtain ⟨hspent, hattempts, hlawful⟩ := of_uncounted plan.policy.maxRetries w.journal
    (List.forall_mem_singleton.2 hf)
  have atHand : AtHand (w.journal ++ [f]) w.backlog.batch := by
    rw [AtHand, hattempts]
    exact h.atHand
  have lawful : Lawful plan.policy.maxRetries w'.journal := by
    rw [hj]
    refine (hlawful h.lawful).concat ?_
    cases outcome with
    | success => exact atHand
    | failure reason =>
      refine ⟨?_, atHand⟩
      rw [carried, hspent, hattempts]
      exact exhausted.resolve_left nofun
  refine fresh ?_ isCalling ?_ lawful
  · rw [hj, attemptsAtHand_concat_settled]
  · rw [failures, hj, carried, spent_concat]
    cases outcome <;> simp [spentAfter]

theorem turn (h : Counted plan w) (ht : Turn plan w a w') : Counted plan w' := by
  have armed {p : Worker η} (at_ : w.worker = p) (hc : p.isCalling = false)
      (hs : p ≠ .holding .sending) (hn : attemptsAtHand w.journal ≠ []) :
      w.backlog.schedule.retry.isSome = true := by
    subst at_
    exact (h.held hn).2.resolve_left (by simp [hc]) |>.resolve_left hs
  have idle (drained : w.backlog.isDrained = true) : attemptsAtHand w.journal = [] := by
    by_contra hn
    exact (h.held hn).1 (by simp_all [Backlog.isDrained])
  cases ht with
  | rouse clock at_ | wake clock at_ | resume clock at_ | drain clock at_ | backOff clock at_
  | wait clock at_ | endReport clock at_ =>
    exact h.keep (List.append_nil _).symm (by simp) rfl (by simp [at_, Worker.isCalling]) fun hn =>
      ⟨rfl, .inr (.inr (armed at_ rfl nofun hn))⟩
  | start clock at_ | tell clock at_ =>
    exact h.keep rfl (by simp [Fact.isCounted]) rfl (by simp [at_, Worker.isCalling]) fun hn =>
      ⟨rfl, .inr (.inr (armed at_ rfl nofun hn))⟩
  | hear v at_ =>
    refine h.keep rfl ?_ rfl (by simp [at_, Worker.isCalling]) fun hn =>
      ⟨rfl, .inr (.inr (armed at_ rfl nofun hn))⟩
    cases v <;> simp [Verdict.facts, Fact.isCounted]
  | assemble clock at_ undrained retry =>
    refine h.keep (List.append_nil _).symm (by simp) rfl (by simp [at_, Worker.isCalling]) fun hn => ?_
    -- A batch that was attempted waits for its retry, and then no batch is assembled.
    have hsome := armed at_ rfl nofun hn
    rw [retry] at hsome
    cases hsome
  | decide clock at_ =>
    exact h.keep (List.append_nil _).symm (by simp) rfl (by simp [at_, Worker.isCalling]) fun _ =>
      ⟨rfl, .inr (.inl rfl)⟩
  | skip clock at_ empty =>
    exact h.keep (List.append_nil _).symm (by simp) rfl (by simp [at_, Worker.isCalling]) fun hn =>
      absurd empty (h.held hn).1
  | rest clock at_ drained =>
    have lawful : Lawful plan.policy.maxRetries (w.journal ++ [.drained]) :=
      h.lawful.concat (idle drained)
    refine fresh ?_ rfl ?_ lawful
    · exact (attemptsAtHand_append rfl).trans (by rw [idle drained]; rfl)
    · rw [carried, spent_concat]
      rfl
  | stop clock at_ drained =>
    have lawful : Lawful plan.policy.maxRetries (w.journal ++ [.drained]) :=
      h.lawful.concat (idle drained)
    refine fresh ?_ rfl ?_ (lawful.concat trivial)
    · rw [List.append_assoc, attemptsAtHand_append rfl, idle drained]
      rfl
    · rw [carried, spent_concat, spent_concat]
      rfl
  | attempt clock at_ nonempty => exact h.attempt rfl nonempty (by simp [at_, Worker.isCalling]) w.callers
  | deliver answer now at_ => exact h.settle (f := .delivered _) rfl rfl (.inl rfl) rfl rfl
  | retry answer now at_ failed more => exact h.retry rfl _ (by simp [at_, Worker.isCalling]) more
  | giveUp answer now at_ failed spent =>
    -- The count is never above the limit, so a count that is not below it is the limit.
    have called := (h.calling (by simp [at_, Worker.isCalling])).2
    have exact_ : w.backlog.failures = plan.policy.maxRetries := Nat.le_antisymm h.failures_le spent
    rw [exact_] at called
    exact h.settle (f := .gaveUp _ _) rfl rfl (.inr called.symm) rfl exact_

theorem of_reachable (h : Reachable plan w) : Counted plan w :=
  h.invariant begun fun _ hr hstep => (call_or_turn hstep).elim hr.call hr.turn

end Counted

variable {plan : Plan} {w w' : World η}

/-- What follows when the step from one world to another begins the first attempt of a batch. -/
structure Retried (plan : Plan) (w w' : World η) : Prop where
  start : w.backlog.failures = 0 ∨ w.backlog.failures = plan.policy.maxRetries
  carriedOver : 0 < plan.policy.maxRetries →
    (w.backlog.failures = plan.policy.maxRetries ↔ GaveUpLast w.journal)
  tried : ∀ u tried rest, Reaches plan w' u → u.journal = w'.journal ++ tried ++ rest →
    settlements tried = [] →
      Tried plan.policy.maxRetries w.backlog.failures w.backlog.batch tried rest
  /-- A batch that is not to be attempted again is given up on as soon as its attempt fails. -/
  final : ∀ u tried, Reaches plan w' u → u.journal = w'.journal ++ tried → settlements tried = [] →
    w.backlog.failures = plan.policy.maxRetries →
      ∀ answer now e v, answer.result = .error e → u.step plan (.answer answer now) = some v →
        v.journal = u.journal ++ [.gaveUp u.backlog.batch.length e] ++
          [.settled u.backlog.batch u.backlog.handler (.failure e.message)]

theorem turn_of_calling {clock : Clock} (h : w.step plan (.proceed clock) = some w')
    (calling : w'.worker.isCalling = true) :
    w.worker.isCalling = false ∧ w'.backlog.batch = w.backlog.batch.map (Event.stamp clock.stamp) ∧
      ∃ request, w'.journal = w.journal ++ [.attempted w'.backlog.batch request] := by
  rcases call_or_turn h with hc | ht
  · cases hc
  · cases ht with
    | attempt clock at_ => exact ⟨by rw [at_]; rfl, rfl, _, rfl⟩
    | _ => cases calling

theorem retries_exact (hr : Reachable plan w) :
    w.backlog.failures ≤ plan.policy.maxRetries ∧
    (∀ settings env, plan = Plan.ofSettings settings env → w.backlog.failures < UInt32.size) ∧
    ∀ clock w', w.step plan (.proceed clock) = some w' → w'.worker.isCalling = true →
      attemptsAtHand w.journal = [] → Retried plan w w' := by
  have counted := Counted.of_reachable hr
  refine ⟨counted.failures_le, ?_, ?_⟩
  · rintro settings env rfl
    exact Nat.lt_of_le_of_lt counted.failures_le settings.maxRetries.toNat_lt
  intro clock w' hstep hcalling fresh
  obtain ⟨hfree, hbatch, request, hj⟩ := turn_of_calling hstep hcalling
  have count : w.backlog.failures = carried plan.policy.maxRetries w.journal := by
    rw [counted.apart hfree, fresh]
    rfl
  have content_eq : w'.backlog.batch.map (·.content) = w.backlog.batch.map (·.content) := by
    rw [hbatch, List.map_map]
    rfl
  have fares {u : World η} {tried rest : List (Fact η)} (hu : Reaches plan w' u)
      (hju : u.journal = w'.journal ++ tried ++ rest) (hs : settlements tried = []) :
      Tried plan.policy.maxRetries w.backlog.failures w'.backlog.batch tried rest := by
    have lawful := (Counted.of_reachable ((hr.step hstep).trans hu)).lawful
    rw [hju, hj] at lawful
    exact count ▸ lawful.tried fresh hs
  constructor
  · rw [count, carried]
    split
    · exact .inr rfl
    · exact .inl rfl
  · intro positive
    rw [← spent_iff_gaveUpLast, count, carried]
    split
    next given => exact iff_of_true rfl given
    next kept => exact iff_of_false positive.ne kept
  · intro u tried rest hu hju hs
    have h := fares hu hju hs
    exact ⟨h.bounded, h.once, h.exhausted, fun f hf b hb => (h.same f hf b hb).trans content_eq⟩
  · intro u tried hu hju hs hlimit answer now e v failed hv
    have countedAfter := Counted.of_reachable ((hr.step hstep).trans hu)
    have lawful := countedAfter.lawful
    rw [hju, hj] at lawful
    obtain ⟨carried_eq, attempts_eq, hcount⟩ := lawful.counts fresh hs
    rcases call_or_turn hv with hc | ht
    · cases hc
    · cases ht with
      | deliver _ _ _ ok => cases ok.symm.trans failed
      | retry _ _ at_ _ more =>
        have called := (countedAfter.calling (by simp [at_, Worker.isCalling])).2
        rw [hju, hj, carried_eq, attempts_eq, List.length_cons, ← count, hlimit] at called
        omega
      | giveUp _ _ _ failed' => cases failed'.symm.trans failed; rfl

/-- Of three events the first two were given up on; the third is about to be attempted. -/
def givenUpRun : List (Action Unit) :=
  [.enqueue (.new "track" "") noon, .enqueue (.new "page" "") noon, .enqueue (.new "page" "") noon,
    .proceed noon, .proceed noon, .proceed noon, .proceed noon, .answer .panicked 0, .proceed later,
    .proceed later, .proceed later, .answer (.response ⟨500, ""⟩) 0, .proceed later, .proceed later,
    .proceed later]

theorem retries_exact_givenUpRun : ∃ w w' : World Unit, Reachable smallPlan w ∧
    w.step smallPlan (.proceed later) = some w' ∧ w.backlog.failures = 1 ∧
      (attemptsAtHand w'.journal).length = 1 ∧ Retried smallPlan w w' := by
  have ends : ((begun none "").run smallPlan givenUpRun).any (fun w =>
      (w.step smallPlan (.proceed later)).any fun w' => w'.worker.isCalling &&
        Decidable.decide (attemptsAtHand w.journal = [] ∧ w.backlog.failures = 1 ∧
          (attemptsAtHand w'.journal).length = 1)) = true := by decide +kernel
  obtain ⟨w, ran, hw⟩ := (Option.any_eq_true _ _).1 ends
  obtain ⟨w', hstep, hw'⟩ := (Option.any_eq_true _ _).1 hw
  obtain ⟨calling, found⟩ := (Bool.and_eq_true _ _).mp hw'
  obtain ⟨fresh, failures, once⟩ := of_decide_eq_true found
  have reachable : Reachable smallPlan w := ⟨none, "", givenUpRun, ran⟩
  exact ⟨w, w', reachable, hstep, failures, once,
    (retries_exact reachable).2.2 later w' hstep calling fresh⟩

end World

end Courier
