import Courier.Proofs.Delivery.Assembly
import Courier.Proofs.Event.Stamp
import Mathlib.Data.Nat.Find

/-! The greedy partition of a list of events. A batch that grows from the head of the queue comes to
the longest run that may be sent at once, however often it has to wait for more events on the way. -/
namespace Courier.Backlog

/-- How many of the next events may be sent with a batch. -/
def longestRun (env : Envelope) (count size : Nat) (batch queue : List Event) : Nat :=
  Nat.findGreatest (fun k => batch.length + k ≤ count ∧
    (env.encode (batch ++ queue.take k)).utf8ByteSize < size) queue.length

/-- Each batch is its first event and as many of the next events as may be sent with it. -/
def partition (env : Envelope) (count size : Nat) : List Event → List (List Event)
  | [] => []
  | e :: rest =>
    (e :: rest.take (longestRun env count size [e] rest)) ::
      partition env count size (rest.drop (longestRun env count size [e] rest))
termination_by events => events.length
decreasing_by simp only [List.length_drop, List.length_cons]; omega

/-- What a batch that may still grow and the queue behind it are sent as. -/
def batches (env : Envelope) (count size : Nat) (batch queue : List Event) : List (List Event) :=
  if batch.isEmpty then partition env count size queue
  else (grow env count size batch queue).1 ::
    partition env count size (grow env count size batch queue).2.1

variable {env : Envelope} {count size : Nat} {batch queue : List Event} {e : Event}

theorem admits_iff {k : Nat} (nonempty : batch ≠ []) (positive : k ≠ 0) :
    Admits env count size batch queue k ↔ batch.length + k ≤ count ∧
      (env.encode (batch ++ queue.take k)).utf8ByteSize < size := by
  have some_held : 0 < batch.length := List.length_pos_iff.2 nonempty
  unfold Admits
  rw [env.utf8ByteSize_encode]
  omega

theorem grow_eq_longestRun (nonempty : batch ≠ []) :
    (grow env count size batch queue).1 = batch ++ queue.take (longestRun env count size batch queue) ∧
      (grow env count size batch queue).2.1 = queue.drop (longestRun env count size batch queue) := by
  obtain ⟨k, ⟨⟨within, admitted⟩, greatest⟩, taken, left⟩ := exists_grow_eq env count size batch queue
  have run : longestRun env count size batch queue = k := by
    refine Nat.findGreatest_eq_iff.2
      ⟨within, fun positive => (admits_iff nonempty positive).1 admitted, ?_⟩
    intro n longer within fit
    exact absurd (greatest ⟨within, (admits_iff nonempty (Nat.ne_zero_of_lt longer)).2 fit⟩)
      (Nat.not_le.2 longer)
  rw [run]
  exact ⟨taken, left⟩

theorem grow_nil_cons (roomy : 0 < count) :
    (grow env count size [] (e :: queue)).1 = (grow env count size [e] queue).1 ∧
      (grow env count size [] (e :: queue)).2.1 = (grow env count size [e] queue).2.1 := by
  rw [grow.eq_2, if_pos (by exact roomy)]
  split
  next => exact ⟨rfl, rfl⟩
  next large =>
    -- An event that is too large by itself makes a batch that is full already.
    rw [List.nil_append] at large
    have single : Full env count size [e] queue := .single rfl (Nat.le_of_not_lt large)
    obtain ⟨same, left⟩ := single.grow_eq (List.cons_ne_nil _ _) []
    rw [List.append_nil] at same left
    exact ⟨same.symm, left.symm⟩

theorem partition_cons : partition env count size (e :: queue) = batches env count size [e] queue := by
  obtain ⟨taken, left⟩ := @grow_eq_longestRun env count size [e] queue (List.cons_ne_nil e [])
  rw [partition, batches, taken, left]
  rfl

theorem batches_nil : batches env count size [] queue = partition env count size queue := rfl

theorem batches_of_ne_nil (nonempty : batch ≠ []) :
    batches env count size batch queue = (grow env count size batch queue).1 ::
      partition env count size (grow env count size batch queue).2.1 :=
  if_neg (mt List.isEmpty_iff.1 nonempty)

theorem batches_of_none_queued (nonempty : batch ≠ []) : batches env count size batch [] = [batch] := by
  rw [batches_of_ne_nil nonempty, grow, partition]

/-- Growing a batch ahead of time does not change what is sent. -/
theorem batches_grow (roomy : 0 < count) (batch queue more : List Event) :
    batches env count size (grow env count size batch queue).1
        ((grow env count size batch queue).2.1 ++ more) =
      batches env count size batch (queue ++ more) := by
  have grown {batch queue : List Event} (nonempty : batch ≠ []) :
      batches env count size (grow env count size batch queue).1
          ((grow env count size batch queue).2.1 ++ more) =
        batches env count size batch (queue ++ more) := by
    have some_left : batch ++ queue ≠ [] := List.append_ne_nil_of_left_ne_nil nonempty _
    obtain ⟨same, left⟩ := @grow_grow env count size batch queue more
    rw [batches_of_ne_nil (grow_ne_nil roomy some_left), batches_of_ne_nil nonempty, same, left]
  by_cases empty : batch = []
  · subst empty
    cases queue with
    | nil => rfl
    | cons e queue =>
      obtain ⟨taken, left⟩ := @grow_nil_cons env count size queue e roomy
      rw [taken, left, grown (List.cons_ne_nil _ _), batches_nil, List.cons_append, partition_cons]
  · exact grown empty

theorem Full.batches_eq (h : Full env count size batch queue) (nonempty : batch ≠ [])
    (more : List Event) : batches env count size batch (queue ++ more) =
      batch :: partition env count size (queue ++ more) := by
  obtain ⟨same, left⟩ := h.grow_eq nonempty more
  rw [batches_of_ne_nil nonempty, same, left]

/-! ### Stamps -/

def contents (batches : List (List Event)) : List (List Event) :=
  batches.map fun batch => batch.map (·.content)

theorem longestRun_congr {queue' : List Event} {e' : Event}
    (stamped : ∀ x ∈ e :: queue, x.IsStamped) (stamped' : ∀ x ∈ e' :: queue', x.IsStamped)
    (same : (e :: queue).map (·.content) = (e' :: queue').map (·.content)) :
    longestRun env count size [e] queue = longestRun env count size [e'] queue' := by
  have length_eq : queue.length = queue'.length := by
    have lengths := congrArg List.length same
    simpa using lengths
  have size_eq (k : Nat) : env.encodedSize ([e] ++ queue.take k) =
      env.encodedSize ([e'] ++ queue'.take k) := by
    have heads := congrArg (List.take (k + 1)) same
    rw [← List.map_take, ← List.map_take] at heads
    change env.encodedSize ((e :: queue).take (k + 1)) = env.encodedSize ((e' :: queue').take (k + 1))
    exact env.encodedSize_eq_of_isStamped (fun x hx => stamped x (List.mem_of_mem_take hx))
      (fun x hx => stamped' x (List.mem_of_mem_take hx)) heads
  unfold longestRun
  simp only [env.utf8ByteSize_encode, size_eq, length_eq, List.length_singleton]

theorem contents_partition_congr {events events' : List Event}
    (stamped : ∀ e ∈ events, e.IsStamped) (stamped' : ∀ e ∈ events', e.IsStamped)
    (same : events.map (·.content) = events'.map (·.content)) :
    contents (partition env count size events) = contents (partition env count size events') := by
  fun_induction partition env count size events generalizing events' with
  | case1 =>
    rw [List.map_eq_nil_iff.1 same.symm, partition]
  | case2 e rest ih =>
    cases events' with
    | nil => cases same
    | cons e' rest' =>
      have run := @longestRun_congr env count size rest e rest' e' stamped stamped' same
      obtain ⟨first, others⟩ := List.cons.inj same
      have stampedRest := (List.forall_mem_cons.1 stamped).2
      have stampedRest' := (List.forall_mem_cons.1 stamped').2
      have tails := ih (fun x hx => stampedRest x (List.mem_of_mem_drop hx))
        (fun x hx => stampedRest' x (List.mem_of_mem_drop hx))
        (by rw [List.map_drop, List.map_drop, others])
      have heads : (e :: rest.take (longestRun env count size [e] rest)).map (·.content) =
          (e' :: rest'.take (longestRun env count size [e] rest)).map (·.content) := by
        rw [List.map_cons, List.map_cons, List.map_take, List.map_take, others]
        exact congrArg (· :: _) first
      rw [partition.eq_2 env count size e', ← run]
      exact List.cons_eq_cons.2 ⟨heads, tails⟩

end Courier.Backlog
