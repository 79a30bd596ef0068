import Courier.Delivery.Backlog
import Courier.Proofs.Event.Size

/-! How a batch grows: it takes events off the head of the queue without losing or turning around
any, and only ones that keep it within its bounds. What it leaves in the queue it leaves because it
is full, and a full batch stays as it is, whatever is queued behind it later. -/
namespace Courier

namespace Backlog

variable {η : Type} {env : Envelope} {count size : Nat}

theorem isDrained_iff {b : Backlog η} :
    b.isDrained = true ↔ b.queue = [] ∧ b.batch = [] ∧ b.settling = 0 := by
  simp only [isDrained, Bool.and_eq_true, List.isEmpty_iff, beq_iff_eq, and_assoc]

theorem undrained_of_batch {b : Backlog η} (nonempty : b.batch ≠ []) : b.isDrained = false :=
  Bool.eq_false_iff.2 fun drained => nonempty (isDrained_iff.1 drained).2.1

theorem grow_append (batch queue : List Event) :
    (grow env count size batch queue).1 ++ (grow env count size batch queue).2.1 = batch ++ queue := by
  fun_induction grow env count size batch queue with
  | case1 batch => rfl
  | case2 batch e queue _ _ ih => rw [ih, List.append_assoc, List.singleton_append]
  | case3 batch e queue _ _ empty => rw [List.isEmpty_iff.1 empty, List.singleton_append, List.nil_append]
  | case4 batch e queue => rfl
  | case5 batch e queue => rfl

theorem prefix_grow (batch queue : List Event) : batch <+: (grow env count size batch queue).1 := by
  fun_induction grow env count size batch queue with
  | case1 batch => exact List.prefix_refl _
  | case2 batch e queue _ _ ih => exact (List.prefix_append _ _).trans ih
  | case3 batch e queue _ _ empty => rw [List.isEmpty_iff.1 empty]; exact List.nil_prefix
  | case4 batch e queue => exact List.prefix_refl _
  | case5 batch e queue => exact List.prefix_refl _

theorem grow_ne_nil {batch queue : List Event} (room : 0 < count) (some_left : batch ++ queue ≠ []) :
    (grow env count size batch queue).1 ≠ [] := by
  intro empty
  have grown : batch <+: (grow env count size batch queue).1 := prefix_grow batch queue
  rw [empty, List.prefix_nil] at grown
  subst grown
  cases queue with
  | nil => exact some_left rfl
  | cons e queue =>
    rw [grow, if_pos (by exact room)] at empty
    split at empty
    · have taken : [] ++ [e] <+: (grow env count size ([] ++ [e]) queue).1 := prefix_grow _ queue
      rw [empty] at taken
      cases List.prefix_nil.1 taken
    · cases empty

theorem length_grow_le {batch queue : List Event} (h : batch.length ≤ count) :
    (grow env count size batch queue).1.length ≤ count := by
  fun_induction grow env count size batch queue with
  | case1 batch => exact h
  | case2 batch e queue room _ ih =>
    rw [List.length_append] at ih
    exact ih room
  | case3 batch e queue room => exact Nat.lt_of_le_of_lt (Nat.zero_le _) room
  | case4 batch e queue => exact h
  | case5 batch e queue => exact h

/-- A batch within its bounds: not too many events, and not too many bytes unless it is one event. -/
structure Fits (env : Envelope) (count size : Nat) (batch : List Event) : Prop where
  length_le : batch.length ≤ count
  size_lt : 1 < batch.length → env.encodedSize batch < size

theorem Fits.grow {batch queue : List Event} (h : Fits env count size batch) :
    Fits env count size (grow env count size batch queue).1 := by
  fun_induction Backlog.grow env count size batch queue with
  | case1 batch => exact h
  | case2 batch e queue room small ih =>
    refine ih ⟨?_, fun _ => small⟩
    rw [List.length_append]
    exact room
  | case3 batch e queue room _ empty =>
    rw [List.isEmpty_iff.1 empty] at room
    exact ⟨room, fun several => absurd several (Nat.lt_irrefl 1)⟩
  | case4 batch e queue => exact h
  | case5 batch e queue => exact h

/-- Why a batch takes no more of the queue behind it. -/
inductive Full (env : Envelope) (count size : Nat) (batch queue : List Event) : Prop where
  | count (reached : count ≤ batch.length)
  | next (e : Event) (isNext : e ∈ queue.head?) (tooLarge : size ≤ env.encodedSize (batch ++ [e]))
  | single (alone : batch.length = 1) (tooLarge : size ≤ env.encodedSize batch)

theorem full_of_grow {batch queue : List Event}
    (stopped : (grow env count size batch queue).2.2 = true ∨
      count ≤ (grow env count size batch queue).1.length) :
    Full env count size (grow env count size batch queue).1 (grow env count size batch queue).2.1 := by
  fun_induction grow env count size batch queue with
  | case1 batch => exact .count (stopped.resolve_left nofun)
  | case2 batch e queue _ _ ih => exact ih stopped
  | case3 batch e queue _ large empty =>
    rw [List.isEmpty_iff.1 empty] at large
    exact .single rfl (Nat.le_of_not_lt large)
  | case4 batch e queue _ large => exact .next e rfl (Nat.le_of_not_lt large)
  | case5 batch e queue reached => exact .count (Nat.le_of_not_lt reached)

theorem grow_stops (batch queue : List Event) :
    (grow env count size batch queue).2.1 = [] ∨ (grow env count size batch queue).2.2 = true ∨
      count ≤ (grow env count size batch queue).1.length := by
  fun_induction grow env count size batch queue with
  | case1 batch => exact .inl rfl
  | case2 batch e queue _ _ ih => exact ih
  | case3 batch e queue => exact .inr (.inl rfl)
  | case4 batch e queue => exact .inr (.inl rfl)
  | case5 batch e queue reached => exact .inr (.inr (Nat.le_of_not_lt reached))

theorem Full.grow_eq {batch queue : List Event} (h : Full env count size batch queue)
    (nonempty : batch ≠ []) (more : List Event) :
    (grow env count size batch (queue ++ more)).1 = batch ∧
      (grow env count size batch (queue ++ more)).2.1 = queue ++ more := by
  generalize hrest : queue ++ more = rest
  cases rest with
  | nil => exact ⟨rfl, rfl⟩
  | cons e rest =>
    have noRoom : count ≤ batch.length ∨ size ≤ env.encodedSize (batch ++ [e]) := by
      cases h with
      | count reached => exact .inl reached
      | next e' isNext tooLarge =>
        obtain ⟨queue, rfl⟩ := List.head?_eq_some_iff.1 isNext
        cases hrest
        exact .inr tooLarge
      | single _ tooLarge => exact .inr (Nat.le_trans tooLarge (env.encodedSize_le_append _ _))
    rw [grow]
    split
    next room =>
      rw [if_neg (Nat.not_lt.2 (noRoom.resolve_left (Nat.not_le.2 room))),
        if_neg (mt List.isEmpty_iff.1 nonempty)]
      exact ⟨rfl, rfl⟩
    next => exact ⟨rfl, rfl⟩

/-- A batch that has grown from a part of the queue grows on as if all had been there at once. -/
theorem grow_grow (batch queue more : List Event) :
    (grow env count size (grow env count size batch queue).1
        ((grow env count size batch queue).2.1 ++ more)).1 =
      (grow env count size batch (queue ++ more)).1 ∧
    (grow env count size (grow env count size batch queue).1
        ((grow env count size batch queue).2.1 ++ more)).2.1 =
      (grow env count size batch (queue ++ more)).2.1 := by
  fun_induction grow env count size batch queue with
  | case1 batch => exact ⟨rfl, rfl⟩
  | case2 batch e queue room small ih =>
    rw [List.cons_append, grow.eq_2 env count size batch e, if_pos room, if_pos small]
    exact ih
  | case3 batch e queue room large empty =>
    rw [List.cons_append, grow.eq_2 env count size batch e, if_pos room, if_neg large, if_pos empty]
    rw [List.isEmpty_iff.1 empty] at large
    exact (Full.single rfl (Nat.le_of_not_lt large)).grow_eq (List.cons_ne_nil _ _) more
  | case4 batch e queue => exact ⟨rfl, rfl⟩
  | case5 batch e queue => exact ⟨rfl, rfl⟩

variable (b : Backlog η)

theorem assemble_events :
    (b.assemble env count size).batch ++ (b.assemble env count size).queue = b.batch ++ b.queue :=
  grow_append b.batch b.queue

theorem assemble_needFlush : (b.assemble env count size).needFlush = true ↔ b.needFlush = true ∨
    (grow env count size b.batch b.queue).2.2 = true ∨
      count ≤ (grow env count size b.batch b.queue).1.length := by
  simp only [assemble, Bool.or_eq_true, decide_eq_true_eq, or_assoc]

theorem assemble_ready : (b.assemble env count size).queue = [] ∨
    (b.assemble env count size).needFlush = true ∧
      Full env count size (b.assemble env count size).batch (b.assemble env count size).queue := by
  rcases @grow_stops env count size b.batch b.queue with rest | stopped
  · exact .inl rest
  · exact .inr ⟨b.assemble_needFlush.2 (.inr stopped), full_of_grow stopped⟩

end Backlog

end Courier
