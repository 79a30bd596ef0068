import Courier.Proofs.Delivery.Batch
import Mathlib.Order.Bounds.Defs

/-! What one assembly takes from the queue: the longest run of events that keeps the batch within its
bounds. It makes no difference whether these events come at once or one after the other, with an assembly
after each of them. -/
namespace Courier.Backlog

variable {η : Type} {env : Envelope} {count size : Nat} {batch queue : List Event} {e : Event}

/-- The next `k` events may be taken into a batch. A batch of one event may be of any size. -/
def Admits (env : Envelope) (count size : Nat) (batch queue : List Event) (k : Nat) : Prop :=
  k = 0 ∨ batch.length + k ≤ count ∧
    (batch.length + k = 1 ∨ env.encodedSize (batch ++ queue.take k) < size)

/-- Why `batch` is to be sent when it has grown from `before` and `queue` is left: it has come to its
count, it leaves events behind, or it is one large event that was just taken. -/
def Ready (env : Envelope) (count size : Nat) (before batch queue : List Event) : Prop :=
  count ≤ batch.length ∨ queue ≠ [] ∨ before = [] ∧ ∃ e, batch = [e] ∧ size ≤ env.encodedSize [e]

/-- Events that came in the meantime, with their deadlines left aside. -/
def extend (more : List Event) (b : Backlog η) : Backlog η := { b with queue := b.queue ++ more }

/-- A backlog but for its deadlines. -/
def unscheduled (b : Backlog η) : Backlog η := { b with schedule := Schedule.never }

def enqueueAll (events : List (Event × Nat)) (b : Backlog η) : Backlog η :=
  events.foldl (fun b e => b.enqueue e.1 e.2) b

/-- Events come in chunks, and after each chunk the batch is assembled. -/
def feed (env : Envelope) (count size : Nat) (chunks : List (List (Event × Nat))) (b : Backlog η) :
    Backlog η :=
  chunks.foldl (fun b chunk => (b.enqueueAll chunk).assemble env count size) b

/-! ### The longest run -/

theorem admits_succ_iff {k : Nat} (room : batch.length < count)
    (small : env.encodedSize (batch ++ [e]) < size) :
    Admits env count size batch (e :: queue) (k + 1) ↔
      Admits env count size (batch ++ [e]) queue k := by
  unfold Admits
  rw [List.take_succ_cons, List.append_assoc, List.singleton_append, List.length_append,
    List.length_singleton]
  constructor
  · rintro (none_taken | ⟨within, fits⟩)
    · omega
    · exact .inr ⟨by omega, fits.imp_left (by omega)⟩
  · rintro (rfl | ⟨within, fits⟩)
    · exact .inr ⟨by omega, .inr (by simpa using small)⟩
    · exact .inr ⟨by omega, fits.imp_left (by omega)⟩

theorem not_admits_succ {k : Nat} (large : size ≤ env.encodedSize (batch ++ [e]))
    (several : batch.length + (k + 1) ≠ 1) : ¬Admits env count size batch (e :: queue) (k + 1) := by
  unfold Admits
  rw [List.take_succ_cons, List.append_cons]
  have more : env.encodedSize (batch ++ [e]) ≤ env.encodedSize (batch ++ [e] ++ queue.take k) :=
    env.encodedSize_le_append _ _
  omega

theorem exists_grow_eq (env : Envelope) (count size : Nat) (batch queue : List Event) :
    ∃ k, IsGreatest {k | k ≤ queue.length ∧ Admits env count size batch queue k} k ∧
      (grow env count size batch queue).1 = batch ++ queue.take k ∧
        (grow env count size batch queue).2.1 = queue.drop k := by
  -- Nothing is taken where no event is admitted.
  have nothing {batch queue : List Event}
      (refused : ∀ k < queue.length, ¬Admits env count size batch queue (k + 1)) :
      IsGreatest {k | k ≤ queue.length ∧ Admits env count size batch queue k} 0 := by
    refine ⟨⟨Nat.zero_le _, .inl rfl⟩, ?_⟩
    rintro n ⟨within, admitted⟩
    cases n with
    | zero => exact Nat.le_refl 0
    | succ k => exact absurd admitted (refused k within)
  fun_induction grow env count size batch queue with
  | case1 batch => exact ⟨0, nothing (by simp), by simp, rfl⟩
  | case2 batch e queue room small ih =>
    obtain ⟨k, ⟨⟨within, admitted⟩, greatest⟩, taken, left⟩ := ih
    refine ⟨k + 1, ⟨⟨Nat.succ_le_succ within, (admits_succ_iff room small).2 admitted⟩, ?_⟩, ?_, ?_⟩
    · rintro n ⟨within, admitted⟩
      cases n with
      | zero => exact Nat.zero_le _
      | succ n =>
        exact Nat.succ_le_succ
          (greatest ⟨Nat.le_of_succ_le_succ within, (admits_succ_iff room small).1 admitted⟩)
    · rw [taken, List.take_succ_cons, List.append_assoc, List.singleton_append]
    · rw [left, List.drop_succ_cons]
  | case3 batch e queue room large empty =>
    rw [List.isEmpty_iff.1 empty] at room large ⊢
    refine ⟨1, ⟨⟨by simp, .inr ⟨room, .inl rfl⟩⟩, ?_⟩, by simp, by simp⟩
    rintro n ⟨-, admitted⟩
    obtain _ | _ | k := n
    · exact Nat.zero_le 1
    · exact Nat.le_refl 1
    · exact absurd admitted (not_admits_succ (Nat.le_of_not_lt large) (by simp))
  | case4 batch e queue room large some_taken =>
    refine ⟨0, nothing fun k _ => not_admits_succ (Nat.le_of_not_lt large) ?_, by simp, rfl⟩
    have nonempty : 0 < batch.length := by simpa [List.length_pos_iff] using some_taken
    omega
  | case5 batch e queue reached =>
    refine ⟨0, nothing fun k _ => ?_, by simp, rfl⟩
    unfold Admits
    omega

/-! ### The flag -/

theorem grow_ready_iff (env : Envelope) (count size : Nat) (batch queue : List Event) :
    (grow env count size batch queue).2.2 = true ∨ count ≤ (grow env count size batch queue).1.length ↔
      Ready env count size batch (grow env count size batch queue).1
        (grow env count size batch queue).2.1 := by
  unfold Ready
  fun_induction grow env count size batch queue with
  | case1 batch =>
    refine ⟨fun stopped => .inl (stopped.resolve_left Bool.false_ne_true), ?_⟩
    rintro (reached | left | ⟨rfl, e, single, -⟩)
    · exact .inr reached
    · exact absurd rfl left
    · cases single
  | case2 batch e queue room small ih =>
    refine ih.trans (or_congr_right (or_congr_right (iff_of_false (by simp) ?_)))
    -- An event that was followed by others, or could have been, is no large one.
    rintro ⟨rfl, e', single, large⟩
    have first : [e] <+: [e'] := single ▸ prefix_grow [e] queue
    obtain rfl : e = e' := by simpa using first
    exact absurd small (Nat.not_lt.2 large)
  | case3 batch e queue room large empty =>
    rw [List.isEmpty_iff.1 empty] at large ⊢
    exact iff_of_true (.inl rfl) (.inr (.inr ⟨rfl, e, rfl, Nat.le_of_not_lt large⟩))
  | case4 batch e queue => simp
  | case5 batch e queue reached => simp [Nat.le_of_not_lt reached]

/-- An assembly takes the longest run of the next events that the batch admits, and leaves the others in
the queue. It asks for the batch to be sent if that is ready, and changes nothing else. -/
theorem assemble_longest_run (env : Envelope) (count size : Nat) (b : Backlog η) :
    (∃ k, IsGreatest {k | k ≤ b.queue.length ∧ Admits env count size b.batch b.queue k} k ∧
      (b.assemble env count size).batch = b.batch ++ b.queue.take k ∧
        (b.assemble env count size).queue = b.queue.drop k) ∧
    ((b.assemble env count size).needFlush = true ↔ b.needFlush = true ∨
      Ready env count size b.batch (b.assemble env count size).batch
        (b.assemble env count size).queue) ∧
    b.assemble env count size =
      { b with
        batch := (b.assemble env count size).batch
        queue := (b.assemble env count size).queue
        needFlush := (b.assemble env count size).needFlush } := by
  refine ⟨exists_grow_eq env count size b.batch b.queue, ?_, rfl⟩
  rw [assemble_needFlush, grow_ready_iff]
  rfl

/-! ### One assembly after the other -/

theorem Ready.append (h : Ready env count size batch (grow env count size batch queue).1
      (grow env count size batch queue).2.1) (more : List Event) :
    Ready env count size batch (grow env count size batch (queue ++ more)).1
      (grow env count size batch (queue ++ more)).2.1 := by
  obtain ⟨taken, left⟩ := @grow_grow env count size batch queue more
  have full := full_of_grow ((grow_ready_iff env count size batch queue).2 h)
  rw [← taken, ← left]
  by_cases none_taken : (grow env count size batch queue).1 = []
  · -- Only where no event may be taken does a batch stay empty with events behind it.
    refine .inl (Nat.le_trans (Nat.not_lt.1 fun room => ?_) (Nat.zero_le _))
    rcases h with reached | behind | ⟨-, e, single, -⟩
    · rw [none_taken] at reached
      exact absurd room (Nat.not_lt.2 reached)
    · refine grow_ne_nil room (fun empty => behind ?_) none_taken
      rw [← @grow_append env count size batch queue] at empty
      exact (List.append_eq_nil_iff.1 empty).2
    · cases none_taken.symm.trans single
  · obtain ⟨same, behind⟩ := full.grow_eq none_taken more
    rw [same, behind]
    exact h.imp_right (Or.imp_left fun some_left => by simp [some_left])

/-- A batch that grows in two steps is ready in the end if it was ready after one of them. -/
theorem ready_grow_iff (env : Envelope) (count size : Nat) (batch queue more : List Event) :
    Ready env count size batch (grow env count size batch (queue ++ more)).1
        (grow env count size batch (queue ++ more)).2.1 ↔
      Ready env count size batch (grow env count size batch queue).1
          (grow env count size batch queue).2.1 ∨
        Ready env count size (grow env count size batch queue).1
          (grow env count size batch (queue ++ more)).1
          (grow env count size batch (queue ++ more)).2.1 := by
  constructor
  · rintro (reached | behind | ⟨rfl, e, single, large⟩)
    · exact .inr (.inl reached)
    · exact .inr (.inr (.inl behind))
    · have grown : (grow env count size [] queue).1 <+: [e] := by
        rw [← single, ← (@grow_grow env count size [] queue more).1]
        exact prefix_grow _ _
      rcases List.prefix_cons_iff.1 grown with none_taken | ⟨others, taken, none_else⟩
      · exact .inr (.inr (.inr ⟨none_taken, e, single, large⟩))
      · rw [List.prefix_nil.1 none_else] at taken
        exact .inl (.inr (.inr ⟨rfl, e, taken, large⟩))
  · rintro (ready | reached | behind | ⟨none_taken, single⟩)
    · exact Ready.append ready more
    · exact .inl reached
    · exact .inr (.inl behind)
    · have kept : batch <+: (grow env count size batch queue).1 := prefix_grow batch queue
      rw [none_taken, List.prefix_nil] at kept
      exact .inr (.inr ⟨kept, single⟩)

/-- Events that come behind an assembly are taken as if they had been there before it. -/
theorem assemble_extend (env : Envelope) (count size : Nat) (b : Backlog η) (more : List Event) :
    ((b.assemble env count size).extend more).assemble env count size =
      (b.extend more).assemble env count size := by
  obtain ⟨taken, left⟩ := @grow_grow env count size b.batch b.queue more
  have ready := ready_grow_iff env count size b.batch b.queue more
  have batch : (((b.assemble env count size).extend more).assemble env count size).batch =
      ((b.extend more).assemble env count size).batch := taken
  have queue : (((b.assemble env count size).extend more).assemble env count size).queue =
      ((b.extend more).assemble env count size).queue := left
  have needFlush : (((b.assemble env count size).extend more).assemble env count size).needFlush =
      ((b.extend more).assemble env count size).needFlush := by
    rw [Bool.eq_iff_iff, assemble_needFlush, assemble_needFlush, grow_ready_iff, grow_ready_iff]
    unfold extend
    rw [assemble_needFlush, grow_ready_iff, ready, or_assoc]
    unfold assemble
    dsimp only
    rw [taken, left]
  calc ((b.assemble env count size).extend more).assemble env count size
      = { b with
          batch := (((b.assemble env count size).extend more).assemble env count size).batch
          queue := (((b.assemble env count size).extend more).assemble env count size).queue
          needFlush := (((b.assemble env count size).extend more).assemble env count size).needFlush } :=
        rfl
    _ = { b with
          batch := ((b.extend more).assemble env count size).batch
          queue := ((b.extend more).assemble env count size).queue
          needFlush := ((b.extend more).assemble env count size).needFlush } := by
        rw [batch, queue, needFlush]
    _ = (b.extend more).assemble env count size := rfl

@[simp] theorem unscheduled_assemble (b : Backlog η) :
    (b.assemble env count size).unscheduled = b.unscheduled.assemble env count size := rfl

theorem extend_nil (b : Backlog η) : b.extend [] = b := by
  unfold extend
  rw [List.append_nil]

theorem extend_extend (b : Backlog η) (first more : List Event) :
    (b.extend first).extend more = b.extend (first ++ more) := by
  unfold extend
  rw [List.append_assoc]

theorem unscheduled_enqueueAll (b : Backlog η) (events : List (Event × Nat)) :
    (b.enqueueAll events).unscheduled = b.unscheduled.extend (events.map Prod.fst) := by
  induction events generalizing b with
  | nil => exact (extend_nil _).symm
  | cons e events ih =>
    have queued : (b.enqueue e.1 e.2).unscheduled = b.unscheduled.extend [e.1] := rfl
    change ((b.enqueue e.1 e.2).enqueueAll events).unscheduled = _
    rw [ih, queued, extend_extend, List.map_cons, List.singleton_append]

/-- Events that come in chunks, with an assembly after each of these, end up as if they had come at once:
in the same batch, the same queue, and the same wish to have the batch sent. So an assembly that follows
another one changes nothing. -/
theorem feed_chunks_eq (env : Envelope) (count size : Nat) (b : Backlog η)
    (chunk : List (Event × Nat)) (chunks : List (List (Event × Nat))) :
    (b.feed env count size (chunk :: chunks)).unscheduled =
        ((b.enqueueAll (chunk :: chunks).flatten).assemble env count size).unscheduled ∧
      (b.assemble env count size).assemble env count size = b.assemble env count size := by
  constructor
  · induction chunks generalizing b chunk with
    | nil => rw [List.flatten_singleton]; rfl
    | cons next chunks ih =>
      change (((b.enqueueAll chunk).assemble env count size).feed env count size
        (next :: chunks)).unscheduled = _
      rw [ih, unscheduled_assemble, unscheduled_enqueueAll, unscheduled_assemble,
        unscheduled_enqueueAll, assemble_extend, extend_extend, ← List.map_append,
        ← List.flatten_cons, unscheduled_assemble, unscheduled_enqueueAll]
  · have again := assemble_extend env count size b []
    rwa [extend_nil, extend_nil] at again

end Courier.Backlog
