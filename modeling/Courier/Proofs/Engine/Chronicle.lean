import Courier.Engine.Journal
import Mathlib.Data.List.DropRight

/-! What can be read off a journal: its requests, its settled batches and what handlers were told,
each of the whole journal or of the part since a batch was last settled. -/
namespace Courier

variable {η : Type}

theorem split_concat {α : Type} {front rest l : List α} {x last : α}
    (h : l ++ [last] = front ++ x :: rest) :
    (front = l ∧ x = last ∧ rest = []) ∨ ∃ rest', rest = rest' ++ [last] ∧ l = front ++ x :: rest' := by
  rcases List.eq_nil_or_concat rest with rfl | ⟨rest, y, rfl⟩
  · obtain ⟨rfl, hx⟩ := List.append_inj' h rfl
    exact .inl ⟨rfl, (List.singleton_inj.1 hx).symm, rfl⟩
  · rw [List.concat_eq_append, ← List.cons_append, ← List.append_assoc] at h
    obtain ⟨hl, hy⟩ := List.append_inj' h rfl
    exact .inr ⟨rest, by rw [List.concat_eq_append, List.singleton_inj.1 hy], hl⟩

theorem rtakeWhile_append {α : Type} {p : α → Bool} {more : List α} (l : List α)
    (h : ∀ x ∈ more, p x = true) : (l ++ more).rtakeWhile p = l.rtakeWhile p ++ more := by
  rw [List.rtakeWhile, List.reverse_append,
    List.takeWhile_append_of_pos fun x hx => h x (List.mem_reverse.1 hx), List.reverse_append,
    List.reverse_reverse, List.rtakeWhile]

namespace Fact

def isWorkers : Fact η → Bool
  | opened _ => false
  | accepted _ _ => false
  | flushAsked => false
  | scrubbed _ _ => false
  | released _ => false
  | _ => true

def attempt? : Fact η → Option (List Event × Request)
  | attempted batch request => some (batch, request)
  | _ => none

def settlement? : Fact η → Option (List Event × Option η × Outcome)
  | settled batch handler outcome => some (batch, handler, outcome)
  | _ => none

def telling? : Fact η → Option (η × Outcome × Event)
  | told handler outcome event => some (handler, outcome, event)
  | _ => none

def batch? : Fact η → Option (List Event)
  | attempted batch _ => some batch
  | settled batch _ _ => some batch
  | _ => none

theorem attempt?_eq_none {f : Fact η} (h : f.isWorkers = false) : f.attempt? = none := by
  cases f <;> first | rfl | cases h

theorem settlement?_eq_none {f : Fact η} (h : f.isWorkers = false) : f.settlement? = none := by
  cases f <;> first | rfl | cases h

theorem telling?_eq_none {f : Fact η} (h : f.isWorkers = false) : f.telling? = none := by
  cases f <;> first | rfl | cases h

end Fact

namespace Journal

def attempts (j : List (Fact η)) : List (List Event × Request) := j.filterMap Fact.attempt?

def settlements (j : List (Fact η)) : List (List Event × Option η × Outcome) :=
  j.filterMap Fact.settlement?

def tellings (j : List (Fact η)) : List (η × Outcome × Event) := j.filterMap Fact.telling?

/-- The part after the batch settled last, or all of it. -/
def sinceSettled (j : List (Fact η)) : List (Fact η) := j.rtakeWhile (·.settlement?.isNone)

/-- The attempts of the batch at hand. -/
def attemptsAtHand (j : List (Fact η)) : List (List Event × Request) := attempts (sinceSettled j)

variable {j facts : List (Fact η)}

@[simp] theorem attempts_append : attempts (j ++ facts) = attempts j ++ attempts facts :=
  List.filterMap_append

@[simp] theorem settlements_append :
    settlements (j ++ facts) = settlements j ++ settlements facts :=
  List.filterMap_append

@[simp] theorem tellings_append : tellings (j ++ facts) = tellings j ++ tellings facts :=
  List.filterMap_append

@[simp] theorem settlements_settled (batch : List Event) (handler : Option η) (outcome : Outcome) :
    settlements [.settled batch handler outcome] = [(batch, handler, outcome)] := rfl

theorem attempts_eq_nil (h : ∀ f ∈ facts, f.isWorkers = false) : attempts facts = [] :=
  List.filterMap_eq_nil_iff.2 fun f hf => Fact.attempt?_eq_none (h f hf)

theorem settlements_eq_nil (h : ∀ f ∈ facts, f.isWorkers = false) : settlements facts = [] :=
  List.filterMap_eq_nil_iff.2 fun f hf => Fact.settlement?_eq_none (h f hf)

theorem tellings_eq_nil (h : ∀ f ∈ facts, f.isWorkers = false) : tellings facts = [] :=
  List.filterMap_eq_nil_iff.2 fun f hf => Fact.telling?_eq_none (h f hf)

theorem settlements_eq_nil_iff : settlements facts = [] ↔ ∀ f ∈ facts, f.settlement? = none :=
  List.filterMap_eq_nil_iff

theorem sinceSettled_concat_settled (batch : List Event) (handler : Option η) (outcome : Outcome) :
    sinceSettled (j ++ [.settled batch handler outcome]) = [] :=
  List.rtakeWhile_concat_neg _ _ _ (by simp [Fact.settlement?])

theorem sinceSettled_append (h : settlements facts = []) :
    sinceSettled (j ++ facts) = sinceSettled j ++ facts := by
  rw [settlements_eq_nil_iff] at h
  exact rtakeWhile_append j fun f hf => by rw [h f hf]; rfl

theorem attemptsAtHand_append (h : settlements facts = []) :
    attemptsAtHand (j ++ facts) = attemptsAtHand j ++ attempts facts := by
  rw [attemptsAtHand, sinceSettled_append h, attempts_append, attemptsAtHand]

@[simp] theorem attemptsAtHand_concat_settled (batch : List Event) (handler : Option η)
    (outcome : Outcome) : attemptsAtHand (j ++ [.settled batch handler outcome]) = [] := by
  rw [attemptsAtHand, sinceSettled_concat_settled]
  rfl

theorem attemptsAtHand_callers (h : ∀ f ∈ facts, f.isWorkers = false) :
    attemptsAtHand (j ++ facts) = attemptsAtHand j := by
  rw [attemptsAtHand_append (settlements_eq_nil h), attempts_eq_nil h, List.append_nil]

theorem exists_first_attempt (h : attemptsAtHand j ≠ []) :
    ∃ front batch request between, j = front ++ [.attempted batch request] ++ between ∧
      attemptsAtHand front = [] ∧ settlements between = [] := by
  induction j using List.reverseRecOn with
  | nil => exact absurd rfl h
  | append_singleton j f ih =>
    have open_ : settlements [f] = [] := by
      cases f with
      | settled => exact absurd (attemptsAtHand_concat_settled _ _ _) h
      | _ => rfl
    by_cases hj : attemptsAtHand j = []
    · rw [attemptsAtHand_append open_, hj] at h
      cases f with
      | attempted batch request => exact ⟨j, batch, request, [], by simp, hj, rfl⟩
      | _ => exact absurd rfl h
    · obtain ⟨front, batch, request, between, rfl, hfront, hbetween⟩ := ih hj
      refine ⟨front, batch, request, between ++ [f], by simp, hfront, ?_⟩
      rw [settlements_append, hbetween, open_, List.append_nil]

end Journal

end Courier
