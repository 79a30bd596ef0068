import Courier.Proofs.Engine.Run
import Mathlib.Data.List.Nodup

/-! Callers that wait for everything to be delivered. Each of them is parked once, and they are as many
as the count that makes every batch urgent. -/
namespace Courier.World

variable {η : Type} {plan : Plan} {w w' : World η} {a : Action η}

/-- The count of those who wait is right. -/
structure Attended (w : World η) : Prop where
  distinct : (w.callers.map (·.id)).Nodup
  waiters : w.backlog.waiters = w.callers.length

theorem nodup_parked {callers : List Caller} {id : Nat} (distinct : (callers.map (·.id)).Nodup)
    (apart : ∀ c ∈ callers, c.id ≠ id) : ((callers ++ [(⟨id, false⟩ : Caller)]).map (·.id)).Nodup := by
  have isNew : id ∉ callers.map (·.id) := by simpa using apart
  rw [List.map_append, List.map_singleton, ← List.concat_eq_append]
  exact distinct.concat isNew

theorem length_unparked {callers : List Caller} {id : Nat} (distinct : (callers.map (·.id)).Nodup)
    (parked : callers.any (fun c => c.id = id) = true) :
    (callers.filter fun c => c.id != id).length = callers.length - 1 := by
  have mem : id ∈ callers.map (·.id) := by simpa using parked
  have ids : (callers.filter fun c => c.id != id).map (·.id) = (callers.map (·.id)).erase id := by
    rw [distinct.erase_eq_filter, List.filter_map]
    rfl
  rw [← List.length_map, ids, List.length_erase_of_mem mem, List.length_map]

namespace Attended

theorem begun (handler : Option η) (url : String) : Attended (begun handler url) where
  distinct := List.nodup_nil
  waiters := rfl

theorem keep (h : Attended w) (ids : w'.callers.map (·.id) = w.callers.map (·.id))
    (waiters : w'.backlog.waiters = w.backlog.waiters) : Attended w' where
  distinct := ids ▸ h.distinct
  waiters := by
    have length : w'.callers.length = w.callers.length := by
      rw [← List.length_map, ids, List.length_map]
    rw [waiters, h.waiters, length]

theorem call (h : Attended w) (hc : Call plan w a w') : Attended w' := by
  cases hc with
  | enqueue | flush | setHandler | passWait | close => exact h.keep rfl rfl
  | scrub => exact h.keep (List.map_map ..) rfl
  | enterWait id free isNew =>
    refine ⟨nodup_parked h.distinct (by simpa using isNew), ?_⟩
    rw [List.length_append]
    exact congrArg (· + 1) h.waiters
  | leaveWait id free parked =>
    refine ⟨(List.filter_sublist.map _).nodup h.distinct, ?_⟩
    rw [length_unparked h.distinct parked]
    exact congrArg (· - 1) h.waiters
  | stayWait id free parked =>
    have others : ((w.callers.filter fun c => c.id != id).map (·.id)).Nodup :=
      (List.filter_sublist.map _).nodup h.distinct
    have some_parked : 0 < w.callers.length := by
      obtain ⟨c, hc, -⟩ := List.any_eq_true.1 parked
      exact List.length_pos_of_mem hc
    refine ⟨nodup_parked others (by simp), ?_⟩
    rw [List.length_append, length_unparked h.distinct parked, List.length_singleton,
      Nat.sub_add_cancel some_parked]
    exact h.waiters

theorem turn (h : Attended w) (ht : Turn plan w a w') : Attended w' := by
  cases ht with
  | rest | stop => exact h.keep (List.map_map ..) rfl
  | _ => exact h.keep rfl rfl

theorem of_reachable (h : Reachable plan w) : Attended w :=
  h.invariant begun fun _ hr hstep => (call_or_turn hstep).elim hr.call hr.turn

theorem isUrgent (h : Attended w) (waits : w.callers ≠ []) : w.backlog.isUrgent = true := by
  have some_wait : 0 < w.backlog.waiters := h.waiters ▸ List.length_pos_iff.2 waits
  rw [Backlog.isUrgent, decide_eq_true some_wait, Bool.or_true]

end Attended

end Courier.World
