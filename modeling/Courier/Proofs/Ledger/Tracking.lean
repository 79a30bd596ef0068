import Courier.Proofs.Ledger.Basic
import Mathlib.Data.List.Nodup

/-! The ledger keeps track of a client: its waiting numbers are the batch and the queue, in this
order. There is one lemma for each fact that moves events; other facts move none. -/
namespace Courier.Ledger

variable {η : Type}

/-- The batch, the queue and, while a handler is told of a batch, what is left of it to tell, agree
with the ledger. -/
structure Tracks (l : Ledger η) (batch queue : List Event) (rest : Option (List Event)) : Prop where
  standing : l.kept = l.settled.flatten ++ l.waiting
  waiting : List.Forall₂ l.Knows l.waiting (batch ++ queue)
  untold : ∀ es, rest = some es → List.Forall₂ l.Knows l.untold es
  entries : ∀ entry ∈ l.entries, List.Forall₂ l.Knows entry.2 entry.1.events
  requested_mem : ∀ ns ∈ l.requested, ∀ n ∈ ns,
    n ∈ l.settled.flatten ∨ n ∈ l.waiting.take batch.length
  told_sublist : (l.told ++ l.untold).Sublist l.settled.flatten

namespace Tracks

variable {l : Ledger η} {batch queue : List Event} {rest : Option (List Event)}

theorem begun : Tracks (empty : Ledger η) [] [] none where
  standing := rfl
  waiting := .nil
  untold := by simp
  entries := by simp [empty]
  requested_mem := by simp [empty, requested, collect]
  told_sublist := by simp [empty, told, settled, collect]

theorem length_waiting (h : Tracks l batch queue rest) :
    l.waiting.length = batch.length + queue.length := by
  rw [h.waiting.length_eq, List.length_append]

theorem batch_known (h : Tracks l batch queue rest) :
    List.Forall₂ l.Knows (l.waiting.take batch.length) batch :=
  List.forall₂_take_append _ _ _ h.waiting

theorem queue_known (h : Tracks l batch queue rest) :
    List.Forall₂ l.Knows (l.waiting.drop batch.length) queue :=
  List.forall₂_drop_append _ _ _ h.waiting

theorem nodup (h : Tracks l batch queue rest) : (l.settled.flatten ++ l.waiting).Nodup :=
  h.standing ▸ nodup_kept

theorem not_mem_scrubbed (h : Tracks l batch queue rest) {n : Nat}
    (hn : n ∈ l.settled.flatten ++ l.waiting) : n ∉ l.scrubbed := by
  rw [← h.standing, kept, List.mem_filter] at hn
  exact of_decide_eq_true hn.2

theorem scrubbed_lt (h : Tracks l batch queue rest) : ∀ n ∈ l.scrubbed, n < l.accepted.length := by
  intro n hn
  simp only [scrubbed, collect, List.mem_flatten, List.mem_map, List.mem_filter] at hn
  obtain ⟨ns, ⟨entry, ⟨hentry, -⟩, rfl⟩, hn⟩ := hn
  exact lt_of_forall₂ (h.entries entry hentry) n hn

theorem entries_enter (h : Tracks l batch queue rest) {f : Fact η}
    (hf : List.Forall₂ (l.enter f).Knows (l.numbers f) f.events) :
    ∀ entry ∈ (l.enter f).entries, List.Forall₂ (l.enter f).Knows entry.2 entry.1.events := by
  intro entry hentry
  rw [Ledger.entries_enter] at hentry
  rcases List.mem_append.1 hentry with hold | hnew
  · exact forall₂_enter (h.entries entry hold)
  · cases List.mem_singleton.1 hnew
    exact hf

theorem accept (h : Tracks l batch queue rest) (e : Event) (time : Nat) :
    Tracks (l.enter (.accepted e time)) batch (queue ++ [e]) rest := by
  have known : (l.enter (.accepted e time)).Knows l.accepted.length e :=
    ⟨e, List.getElem?_concat_length, rfl⟩
  have settled_eq : (l.enter (.accepted e time)).settled = l.settled :=
    settled_enter_of_not rfl
  constructor
  · have fresh : l.accepted.length ∉ l.scrubbed := fun hn => Nat.lt_irrefl _ (h.scrubbed_lt _ hn)
    have kept_eq : (l.enter (.accepted e time)).kept = l.kept ++ [l.accepted.length] := by
      have scrubbed_eq : (l.enter (.accepted e time)).scrubbed = l.scrubbed :=
        scrubbed_enter_of_not rfl
      simp only [kept, scrubbed_eq]
      simp only [enter, List.length_append, List.length_singleton, List.range_succ,
        List.filter_append, List.filter_singleton, decide_eq_true fresh, cond_true]
    rw [kept_eq, h.standing, settled_eq, List.append_assoc]
    rfl
  · rw [← List.append_assoc]
    exact List.rel_append (forall₂_enter h.waiting) (.cons known .nil)
  · intro es hes
    exact forall₂_enter (h.untold es hes)
  · exact h.entries_enter (.cons known .nil)
  · have room : batch.length ≤ l.waiting.length := h.length_waiting ▸ Nat.le_add_right _ _
    intro ns hns n hn
    rw [requested_enter_of_not rfl] at hns
    rw [settled_eq, enter, List.take_append_of_le_length room]
    exact h.requested_mem ns hns n hn
  · rw [settled_eq, told_enter_of_not rfl]
    exact h.told_sublist

theorem scrub (h : Tracks l batch queue rest) (actor : Actor) :
    Tracks (l.enter (.scrubbed actor queue)) batch [] rest := by
  -- The queue has the newest of the waiting numbers, and the batch keeps the others.
  have waiting_eq : (l.enter (.scrubbed actor queue)).waiting = l.waiting.take batch.length := by
    rw [enter, List.rdrop, h.length_waiting, Nat.add_sub_cancel]
  have gone : l.waiting.rtake queue.length = l.waiting.drop batch.length := by
    rw [List.rtake, h.length_waiting, Nat.add_sub_cancel]
  have settled_eq : (l.enter (.scrubbed actor queue)).settled = l.settled :=
    settled_enter_of_not rfl
  have scrubbed_eq : (l.enter (.scrubbed actor queue)).scrubbed =
      l.scrubbed ++ l.waiting.drop batch.length := by
    rw [scrubbed_enter, ← gone]; rfl
  constructor
  · have split : l.kept = (l.settled.flatten ++ l.waiting.take batch.length) ++
        l.waiting.drop batch.length := by
      rw [h.standing, List.append_assoc, List.take_append_drop]
    have apart : ∀ n ∈ l.settled.flatten ++ l.waiting.take batch.length,
        n ∉ l.waiting.drop batch.length :=
      List.disjoint_of_nodup_append (split ▸ nodup_kept)
    have kept_eq : (l.enter (.scrubbed actor queue)).kept =
        l.kept.filter fun n => decide (n ∉ l.waiting.drop batch.length) := by
      simp only [kept, scrubbed_eq, List.filter_filter, List.mem_append, not_or, Bool.decide_and,
        Bool.and_comm]
      rfl
    have gone_nil : (l.waiting.drop batch.length).filter
        (fun n => decide (n ∉ l.waiting.drop batch.length)) = [] :=
      List.filter_eq_nil_iff.2 fun n hn => by simpa using hn
    rw [kept_eq, split, List.filter_append, gone_nil, List.append_nil,
      List.filter_eq_self.2 fun n hn => decide_eq_true (apart n hn), settled_eq, waiting_eq]
  · rw [List.append_nil, waiting_eq]
    exact forall₂_enter h.batch_known
  · intro es hes
    exact forall₂_enter (h.untold es hes)
  · refine h.entries_enter ?_
    rw [numbers, gone]
    exact forall₂_enter h.queue_known
  · intro ns hns n hn
    rw [requested_enter_of_not rfl] at hns
    rw [settled_eq, waiting_eq, List.take_take, Nat.min_self]
    exact h.requested_mem ns hns n hn
  · rw [settled_eq, told_enter_of_not rfl]
    exact h.told_sublist

theorem request (h : Tracks l batch queue rest) (time : String) (request : Request) :
    Tracks (l.enter (.attempted (batch.map (Event.stamp time)) request))
      (batch.map (Event.stamp time)) queue rest := by
  have settled_eq : (l.enter (.attempted (batch.map (Event.stamp time)) request)).settled =
      l.settled :=
    settled_enter_of_not rfl
  have scrubbed_eq : (l.enter (.attempted (batch.map (Event.stamp time)) request)).scrubbed =
      l.scrubbed :=
    scrubbed_enter_of_not rfl
  have stamped {ns : List Nat} {es : List Event} (hk : List.Forall₂ l.Knows ns es) :
      List.Forall₂ (l.enter (.attempted (batch.map (Event.stamp time)) request)).Knows ns
        (es.map (Event.stamp time)) :=
    List.forall₂_map_right_iff.2 (hk.imp fun _ _ hk => (hk.stamp time).enter)
  have split : l.waiting = l.waiting.take batch.length ++ l.waiting.drop batch.length :=
    (List.take_append_drop _ _).symm
  constructor
  · rw [settled_eq, kept, scrubbed_eq]
    exact h.standing
  · change List.Forall₂ _ l.waiting _
    rw [split]
    exact List.rel_append (stamped h.batch_known) (forall₂_enter h.queue_known)
  · intro es hes
    exact forall₂_enter (h.untold es hes)
  · refine h.entries_enter ?_
    rw [numbers, List.length_map]
    exact stamped h.batch_known
  · intro ns hns n hn
    rw [settled_eq, List.length_map]
    rw [requested_enter] at hns
    rcases List.mem_append.1 hns with hold | hnew
    · exact h.requested_mem ns hold n hn
    · rw [List.mem_singleton.1 hnew, numbers, List.length_map] at hn
      exact .inr hn
  · rw [settled_eq, told_enter_of_not rfl]
    exact h.told_sublist

theorem settle (h : Tracks l batch queue rest) (handler : Option η) (outcome : Outcome) :
    Tracks (l.enter (.settled batch handler outcome)) [] queue (some batch) := by
  have settled_eq : (l.enter (.settled batch handler outcome)).settled =
      l.settled ++ [l.waiting.take batch.length] := settled_enter
  have flat_eq : (l.enter (.settled batch handler outcome)).settled.flatten =
      l.settled.flatten ++ l.waiting.take batch.length := by
    rw [settled_eq, List.flatten_append, List.flatten_singleton]
  have scrubbed_eq : (l.enter (.settled batch handler outcome)).scrubbed = l.scrubbed :=
    scrubbed_enter_of_not rfl
  constructor
  · rw [kept, scrubbed_eq, flat_eq, List.append_assoc]
    exact h.standing.trans (by rw [enter, List.take_append_drop])
  · exact forall₂_enter h.queue_known
  · intro es hes
    cases hes
    exact forall₂_enter h.batch_known
  · exact h.entries_enter (forall₂_enter h.batch_known)
  · intro ns hns n hn
    rw [requested_enter_of_not rfl] at hns
    rw [flat_eq, List.mem_append]
    exact .inl (h.requested_mem ns hns n hn)
  · rw [told_enter_of_not rfl, flat_eq]
    exact ((List.sublist_append_left _ _).trans h.told_sublist).append (List.Sublist.refl _)

theorem tell {e : Event} {es : List Event} (h : Tracks l batch queue (some (e :: es)))
    (handler : η) (outcome : Outcome) :
    Tracks (l.enter (.told handler outcome e)) batch queue (some es) := by
  have settled_eq : (l.enter (.told handler outcome e)).settled = l.settled :=
    settled_enter_of_not rfl
  have scrubbed_eq : (l.enter (.told handler outcome e)).scrubbed = l.scrubbed :=
    scrubbed_enter_of_not rfl
  have told_eq : (l.enter (.told handler outcome e)).told = l.told ++ l.untold.take 1 := told_enter
  obtain ⟨n, ns, hn, hns, huntold⟩ := List.forall₂_cons_right_iff.1 (h.untold _ rfl)
  constructor
  · rw [settled_eq, kept, scrubbed_eq]
    exact h.standing
  · exact forall₂_enter h.waiting
  · intro es' hes
    cases hes
    change List.Forall₂ _ (l.untold.drop 1) _
    rw [huntold]
    exact forall₂_enter hns
  · refine h.entries_enter ?_
    rw [numbers, huntold]
    exact .cons hn.enter .nil
  · intro ns' hns' m hm
    rw [requested_enter_of_not rfl] at hns'
    rw [settled_eq]
    exact h.requested_mem ns' hns' m hm
  · rw [settled_eq, told_eq, enter, List.append_assoc, List.take_append_drop]
    exact h.told_sublist

theorem still (h : Tracks l batch queue rest) {f : Fact η} (hf : f.isStill = true) :
    Tracks (l.enter f) batch queue rest := by
  have enter_eq : l.enter f = { l with entries := l.entries ++ [(f, [])] } := enter_of_still hf
  obtain ⟨scrub, attempt, settlement, telling⟩ := Fact.kinds_of_still hf
  have settled_eq : (l.enter f).settled = l.settled := settled_enter_of_not settlement
  have accepted_eq : (l.enter f).accepted = l.accepted := by rw [enter_eq]
  have waiting_eq : (l.enter f).waiting = l.waiting := by rw [enter_eq]
  have untold_eq : (l.enter f).untold = l.untold := by rw [enter_eq]
  constructor
  · rw [settled_eq, waiting_eq, kept, scrubbed_enter_of_not scrub, accepted_eq]
    exact h.standing
  · rw [waiting_eq]
    exact forall₂_enter h.waiting
  · rw [untold_eq]
    intro es hes
    exact forall₂_enter (h.untold es hes)
  · refine h.entries_enter ?_
    rw [numbers_of_still hf, Fact.events_of_still hf]
    exact .nil
  · rw [requested_enter_of_not attempt, settled_eq, waiting_eq]
    exact h.requested_mem
  · rw [told_enter_of_not telling, untold_eq, settled_eq]
    exact h.told_sublist

theorem regroup (h : Tracks l batch queue rest) {batch' queue' : List Event}
    {rest' : Option (List Event)} (events : batch' ++ queue' = batch ++ queue)
    (grown : batch <+: batch') (less : rest' = none ∨ rest' = rest) :
    Tracks l batch' queue' rest' where
  standing := h.standing
  waiting := events ▸ h.waiting
  untold := fun es hes => by
    rcases less with rfl | rfl
    · cases hes
    · exact h.untold es hes
  entries := h.entries
  requested_mem := fun ns hns n hn =>
    (h.requested_mem ns hns n hn).imp_right fun hn =>
      List.take_subset_take_left _ grown.length_le hn
  told_sublist := h.told_sublist

end Tracks

end Courier.Ledger
