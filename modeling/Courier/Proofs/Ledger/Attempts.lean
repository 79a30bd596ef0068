import Courier.Proofs.Ledger.Callbacks

/-! Attempts in the ledger. Until a batch is settled all attempts are about its events, and what was
settled once is attempted no more; so the attempts of one batch stand together. -/
namespace Courier.Ledger

variable {η : Type}

/-- Attempts and settlements are about the batch `hand` until that is settled. -/
structure Coheres (l : Ledger η) (hand : List Nat) : Prop where
  atHand : ∀ front entry mid, l.entries = front ++ entry :: mid → entry.1.isAttempt = true →
    Quiet mid → entry.2 = hand
  past : ∀ front entry mid next rest, l.entries = front ++ entry :: mid ++ next :: rest →
    entry.1.isAttempt = true → Quiet mid →
      next.1.isAttempt = true ∨ next.1.isSettlement = true → next.2 = entry.2
  fresh : ∀ front entry rest, l.entries = front ++ entry :: rest → entry.1.isAttempt = true →
    ∀ before ∈ front, before.1.isSettlement = true → ∀ n ∈ entry.2, n ∉ before.2

namespace Coheres

variable {l : Ledger η} {f : Fact η} {hand hand' : List Nat}

theorem begun : Coheres (empty : Ledger η) [] where
  atHand := by simp [empty]
  past := by simp [empty]
  fresh := by simp [empty]

private theorem enter (h : Coheres l hand)
    (numbers : f.isAttempt = true ∨ f.isSettlement = true → l.numbers f = hand)
    (unsettled : f.isAttempt = true → ∀ entry ∈ l.entries, entry.1.isSettlement = true →
      ∀ n ∈ hand, n ∉ entry.2)
    (same : f.isSettlement = false → hand' = hand) : Coheres (l.enter f) hand' := by
  constructor
  · intro front entry mid split attempt quiet
    rcases split_concat split with ⟨-, rfl, -⟩ | ⟨mid, rfl, hold⟩
    · have unsettling : f.isSettlement = false := by
        cases f <;> first | rfl | cases attempt
      exact (numbers (.inl attempt)).trans (same unsettling).symm
    · obtain ⟨quiet, last⟩ := List.forall_mem_append.1 quiet
      rw [same (last (f, l.numbers f) (List.mem_singleton_self _))]
      exact h.atHand front entry mid hold attempt quiet
  · intro front entry mid next rest split attempt quiet kind
    rcases split_concat split with ⟨hold, rfl, -⟩ | ⟨rest, -, hold⟩
    · exact (numbers kind).trans (h.atHand front entry mid hold.symm attempt quiet).symm
    · exact h.past front entry mid next rest hold attempt quiet kind
  · intro front entry rest split attempt before hbefore settlement n hn
    rcases split_concat split with ⟨rfl, rfl, -⟩ | ⟨rest, -, hold⟩
    · exact unsettled attempt before hbefore settlement n (numbers (.inl attempt) ▸ hn)
    · exact h.fresh front entry rest hold attempt before hbefore settlement n hn

theorem other (h : Coheres l hand) (unattempted : f.isAttempt = false)
    (unsettling : f.isSettlement = false) : Coheres (l.enter f) hand :=
  h.enter (by simp [unattempted, unsettling]) (by simp [unattempted]) fun _ => rfl

theorem attempt (h : Coheres l hand) (numbers : l.numbers f = hand)
    (unsettled : ∀ n ∈ hand, n ∉ l.settled.flatten) : Coheres (l.enter f) hand := by
  refine h.enter (fun _ => numbers) (fun _ entry hentry settlement n hn hm => ?_) fun _ => rfl
  refine unsettled n hn (List.mem_flatten.2 ⟨entry.2, ?_, hm⟩)
  exact List.mem_map_of_mem (List.mem_filter.2 ⟨hentry, settlement⟩)

theorem settle (h : Coheres l hand) (settlement : f.isSettlement = true)
    (numbers : l.numbers f = hand) (hand' : List Nat) : Coheres (l.enter f) hand' := by
  have unattempted : f.isAttempt = false := by
    cases f <;> first | rfl | cases settlement
  exact h.enter (fun _ => numbers) (by simp [unattempted]) (by simp [settlement])

theorem regroup (h : Coheres l hand)
    (fresh : ∀ front entry mid, l.entries = front ++ entry :: mid → entry.1.isAttempt = true →
      ¬Quiet mid) (hand' : List Nat) : Coheres l hand' where
  atHand := fun front entry mid split attempt quiet => absurd quiet (fresh front entry mid split attempt)
  past := h.past
  fresh := h.fresh

/-- Two attempts that share an event, or between which nothing was settled, are about the same batch,
and so is every attempt between them. -/
theorem together (h : Coheres l hand) {front mid rest : List (Fact η × List Nat)}
    {first again : Fact η × List Nat} (split : l.entries = front ++ first :: mid ++ again :: rest)
    (attempt : first.1.isAttempt = true) (attempt' : again.1.isAttempt = true)
    (one : (∃ n ∈ first.2, n ∈ again.2) ∨ Quiet mid) :
    again.2 = first.2 ∧ Quiet mid ∧ ∀ entry ∈ mid, entry.1.isAttempt = true → entry.2 = first.2 := by
  have quiet : Quiet mid := by
    rcases one with ⟨n, hn, hn'⟩ | quiet
    · obtain ⟨more, others, rfl, quiet, ended⟩ := Tells.exists_quiet mid
      cases others with
      | nil => rwa [List.append_nil]
      | cons next others =>
        -- The first settlement after an attempt is of the batch attempted, so what it settles is not
        -- attempted again.
        have settlement := ended next rfl
        have settled : next.2 = first.2 := by
          refine h.past front first more next (others ++ again :: rest) ?_ attempt quiet (.inr settlement)
          rw [split]
          simp
        have later : next ∈ front ++ first :: (more ++ next :: others) := by simp
        exact absurd (settled ▸ hn) (h.fresh _ again rest split attempt' next later settlement n hn')
    · exact quiet
  refine ⟨h.past front first mid again rest split attempt quiet (.inl attempt'), quiet, ?_⟩
  intro entry hentry attempted
  obtain ⟨before, after, rfl⟩ := List.append_of_mem hentry
  have early : Quiet before := fun x hx => quiet x (List.mem_append_left _ hx)
  refine h.past front first before entry (after ++ again :: rest) ?_ attempt early (.inl attempted)
  rw [split]
  simp

end Coheres

end Courier.Ledger
