import Courier.Delivery.Schedule
import Mathlib.Data.List.Induction
import Mathlib.Order.Bounds.Basic

/-! Schedules after any changes. A deadline is the earliest of the times that it was armed with and that
are not cleared yet, and a schedule is due as soon as any of these times has come. Neither the order in
which a deadline was armed nor how often it was armed with one time can be seen. -/
namespace Courier.Schedule

inductive Purpose where
  | flush
  | retry

inductive Change where
  | arm (p : Purpose) (time : Nat)
  | clearRetry
  | reset

def Change.Clears (p : Purpose) : Change → Prop
  | arm _ _ => False
  | clearRetry => p = .retry
  | reset => True

def Change.IsArming (c : Change) : Prop := ∃ p time, c = arm p time

def change (s : Schedule) : Change → Schedule
  | .arm .flush time => s.armFlush time
  | .arm .retry time => s.armRetry time
  | .clearRetry => s.clearRetry
  | .reset => never

def after (changes : List Change) : Schedule := changes.foldl change never

def deadline (s : Schedule) : Purpose → Option Nat
  | .flush => s.flush
  | .retry => s.retry

/-- The deadline was armed with this time, and has not been cleared since. -/
def Live (p : Purpose) (changes : List Change) (time : Nat) : Prop :=
  ∃ before since, changes = before ++ .arm p time :: since ∧ ∀ c ∈ since, ¬c.Clears p

/-- The earliest of some times, if there are any. -/
def Earliest (times : Set Nat) : Option Nat → Prop
  | some time => IsLeast times time
  | none => times = ∅

variable {s : Schedule} {p : Purpose} {changes : List Change} {time now : Nat}

/-! ### The earliest of some times -/

namespace Earliest

variable {times times' : Set Nat} {o o' : Option Nat}

theorem unique (h : Earliest times o) (h' : Earliest times o') : o = o' := by
  cases o with
  | some t =>
    cases o' with
    | some t' => exact congrArg some (IsLeast.unique h h')
    | none => exact absurd (h' ▸ h.1) (Set.notMem_empty t)
  | none =>
    cases o' with
    | some t' => exact absurd (h ▸ h'.1) (Set.notMem_empty t')
    | none => rfl

theorem exists_le_iff (h : Earliest times o) :
    (∃ t, o = some t ∧ t ≤ now) ↔ ∃ t ∈ times, t ≤ now := by
  cases o with
  | some t =>
    constructor
    · rintro ⟨t, ⟨⟩, reached⟩
      exact ⟨t, h.1, reached⟩
    · rintro ⟨t', mem, reached⟩
      exact ⟨t, rfl, Nat.le_trans (h.2 mem) reached⟩
  | none =>
    have no_times : times = ∅ := h
    simp [no_times]

theorem singleton (o : Option Nat) : Earliest {t | o = some t} o := by
  cases o with
  | some t => exact ⟨rfl, fun t' same => Nat.le_of_eq (Option.some.inj same)⟩
  | none => exact Set.eq_empty_of_forall_notMem fun t absent => nomatch absent

theorem insert (h : Earliest times o) (time : Nat) :
    Earliest (insert time times) (earlier o time) := by
  cases o with
  | some t =>
    change IsLeast (Insert.insert time times) (min t time)
    rw [min_comm]
    exact IsLeast.insert time h
  | none =>
    have no_times : times = ∅ := h
    rw [no_times, insert_empty_eq]
    exact isLeast_singleton

theorem next (flush : Earliest times s.flush) (retry : Earliest times' s.retry) :
    Earliest (times ∪ times') s.next := by
  obtain ⟨f, r⟩ := s
  cases f with
  | some f =>
    cases r with
    | some r => exact IsLeast.union flush retry
    | none =>
      have no_times : times' = ∅ := retry
      rw [no_times, Set.union_empty]
      exact flush
  | none =>
    have no_times : times = ∅ := flush
    rw [no_times, Set.empty_union]
    exact retry

end Earliest

/-! ### When a schedule is due -/

theorem earliest_next (s : Schedule) : Earliest {t | s.flush = some t ∨ s.retry = some t} s.next :=
  (Earliest.singleton s.flush).next (Earliest.singleton s.retry)

theorem isDue_iff_next : s.isDue now = true ↔ ∃ t, s.next = some t ∧ t ≤ now := by
  unfold isDue
  cases s.next <;> simp

theorem exists_le_next {flush : Nat} (h : s.flush = some flush) :
    ∃ deadline, s.next = some deadline ∧ deadline ≤ flush :=
  (earliest_next s).exists_le_iff.2 ⟨flush, .inl h, Nat.le_refl _⟩

theorem isDue_iff : s.isDue now = true ↔
    (∃ deadline, s.flush = some deadline ∧ deadline ≤ now) ∨
      ∃ deadline, s.retry = some deadline ∧ deadline ≤ now := by
  rw [isDue_iff_next, (earliest_next s).exists_le_iff]
  simp only [Set.mem_ofPred_eq, or_and_right, exists_or]

theorem isDue_of_unretried (unretried : s.retry = none) (ahead : s.flush.all (now < ·) = true) :
    s.isDue now = false := by
  rw [isDue, next, unretried]
  cases flush : s.flush with
  | none => rfl
  | some deadline =>
    rw [flush] at ahead
    exact decide_eq_false (Nat.not_le.2 (of_decide_eq_true ahead))

theorem isSome_armFlush (time : Nat) (s : Schedule) : (s.armFlush time).flush.isSome = true := by
  dsimp only [armFlush, earlier]
  split <;> rfl

theorem isSome_armRetry (time : Nat) (s : Schedule) : (s.armRetry time).retry.isSome = true := by
  dsimp only [armRetry, earlier]
  split <;> rfl

/-! ### Live times -/

theorem not_clears_of_isArming {c : Change} (h : c.IsArming) (p : Purpose) : ¬c.Clears p := by
  obtain ⟨p', time, rfl⟩ := h
  exact id

theorem live_append (more : List Change) : Live p (changes ++ more) time ↔
    Live p more time ∨ (∀ c ∈ more, ¬c.Clears p) ∧ Live p changes time := by
  constructor
  · rintro ⟨before, since, split, kept⟩
    rcases List.append_eq_append_iff.1 split with ⟨front, rfl, hmore⟩ | ⟨back, hchanges, hback⟩
    · exact .inl ⟨front, since, hmore, kept⟩
    · cases back with
      | nil => exact .inl ⟨[], since, hback.symm, kept⟩
      | cons c back =>
        obtain ⟨rfl, rfl⟩ := List.cons.inj hback
        exact .inr ⟨fun c hc => kept c (List.mem_append_right _ hc), before, back, hchanges,
          fun c hc => kept c (List.mem_append_left _ hc)⟩
  · rintro (⟨before, since, rfl, kept⟩ | ⟨keeping, before, since, rfl, kept⟩)
    · exact ⟨changes ++ before, since, (List.append_assoc _ _ _).symm, kept⟩
    · exact ⟨before, since ++ more, by simp, fun c hc => (List.mem_append.1 hc).elim (kept c) (keeping c)⟩

theorem live_singleton {c : Change} : Live p [c] time ↔ c = .arm p time := by
  constructor
  · rintro ⟨before, since, split, -⟩
    cases before with
    | nil => exact (List.cons.inj split).1
    | cons _ _ => exact absurd (List.cons.inj split).2.symm (by simp)
  · rintro rfl
    exact ⟨[], [], rfl, by simp⟩

theorem live_concat {c : Change} :
    Live p (changes ++ [c]) time ↔ c = .arm p time ∨ ¬c.Clears p ∧ Live p changes time := by
  rw [live_append, live_singleton, List.forall_mem_singleton]

theorem live_iff_mem (keeping : ∀ c ∈ changes, ¬c.Clears p) :
    Live p changes time ↔ .arm p time ∈ changes := by
  constructor
  · rintro ⟨before, since, rfl, -⟩
    simp
  · intro mem
    obtain ⟨before, since, rfl⟩ := List.append_of_mem mem
    exact ⟨before, since, rfl, fun c hc => keeping c (by simp [hc])⟩

/-! ### Deadlines -/

theorem deadline_arm (s : Schedule) (p : Purpose) (time : Nat) :
    (s.change (.arm p time)).deadline p = earlier (s.deadline p) time := by
  cases p <;> rfl

theorem deadline_of_clears {c : Change} (h : c.Clears p) (s : Schedule) :
    (s.change c).deadline p = none := by
  cases c with
  | arm _ _ => exact h.elim
  | clearRetry =>
    cases show p = .retry from h
    rfl
  | reset => cases p <;> rfl

theorem deadline_of_not_clears {c : Change} (keeping : ¬c.Clears p) (others : ∀ time, c ≠ .arm p time)
    (s : Schedule) : (s.change c).deadline p = s.deadline p := by
  cases c with
  | arm p' time =>
    cases p <;> cases p' <;> first | rfl | exact absurd rfl (others time)
  | clearRetry =>
    cases p with
    | flush => rfl
    | retry => exact absurd rfl keeping
  | reset => exact absurd trivial keeping

theorem earliest_change (h : Earliest {t | Live p changes t} (s.deadline p)) (c : Change) :
    Earliest {t | Live p (changes ++ [c]) t} ((s.change c).deadline p) := by
  simp only [live_concat]
  by_cases clears : c.Clears p
  · rw [deadline_of_clears clears]
    refine Set.eq_empty_of_forall_notMem fun t => ?_
    rintro (rfl | ⟨keeping, -⟩)
    · exact clears
    · exact keeping clears
  by_cases armed : ∃ time, c = .arm p time
  · obtain ⟨time, rfl⟩ := armed
    have times : {t | Change.arm p time = .arm p t ∨ ¬Change.Clears p (.arm p time) ∧ Live p changes t} =
        insert time {t | Live p changes t} := by
      ext t
      simp [Change.Clears, eq_comm]
    rw [times, deadline_arm]
    exact h.insert time
  · have others (time : Nat) : c ≠ .arm p time := fun same => armed ⟨time, same⟩
    rw [deadline_of_not_clears clears others]
    simpa [others, clears] using h

theorem after_concat (changes : List Change) (c : Change) :
    after (changes ++ [c]) = (after changes).change c := List.foldl_append

theorem earliest_live (p : Purpose) (changes : List Change) :
    Earliest {t | Live p changes t} ((after changes).deadline p) := by
  induction changes using List.reverseRecOn with
  | nil =>
    have no_times : {t | Live p [] t} = ∅ :=
      Set.eq_empty_of_forall_notMem fun t ⟨before, since, split, _⟩ => by simp at split
    rw [no_times]
    cases p <;> rfl
  | append_singleton changes c ih =>
    rw [after_concat]
    exact earliest_change ih c

theorem ext_deadline {s' : Schedule} (same : ∀ p, s.deadline p = s'.deadline p) : s = s' := by
  obtain ⟨flush, retry⟩ := s
  obtain ⟨flush', retry'⟩ := s'
  exact congrArg₂ mk (same .flush) (same .retry)

theorem deadline_congr {changes' : List Change}
    (same : ∀ t, Live p changes t ↔ Live p changes' t) :
    (after changes).deadline p = (after changes').deadline p :=
  (earliest_live p changes).unique (Set.ext same ▸ earliest_live p changes')

theorem isDue_after_iff :
    (after changes).isDue now = true ↔ ∃ t, (Live .flush changes t ∨ Live .retry changes t) ∧ t ≤ now :=
  isDue_iff_next.trans
    ((earliest_live .flush changes).next (earliest_live .retry changes)).exists_le_iff

/-- Between two clearings of a deadline it matters only with which times it is armed. -/
theorem deadline_rearmed {between between' : List Change} (later : List Change)
    (keeping : ∀ c ∈ between ++ between', ¬c.Clears p)
    (same : ∀ t, .arm p t ∈ between ↔ .arm p t ∈ between') :
    (after (changes ++ between ++ later)).deadline p =
      (after (changes ++ between' ++ later)).deadline p := by
  obtain ⟨first, second⟩ := List.forall_mem_append.1 keeping
  refine deadline_congr fun t => ?_
  rw [live_append, live_append, live_append, live_append, live_iff_mem first, live_iff_mem second, same,
    and_iff_right first, and_iff_right second]

structure KeepsEarliest (changes : List Change) (s : Schedule) : Prop where
  flush : Earliest {t | Live .flush changes t} s.flush
  retry : Earliest {t | Live .retry changes t} s.retry
  next : Earliest {t | s.flush = some t ∨ s.retry = some t} s.next
  due : ∀ now, s.isDue now = true ↔ ∃ t, s.next = some t ∧ t ≤ now

/-- Each deadline is the earliest live one. So to arm the deadlines in another order, or again with the
same times, changes nothing, whatever comes later; neither does it change a deadline if in between the
other one is cleared. And a schedule that is due stays due, also when it is armed again. -/
theorem keeps_earliest (changes : List Change) :
    KeepsEarliest changes (after changes) ∧
    (∀ arms arms' later, (∀ c ∈ arms ++ arms', c.IsArming) → (∀ c, c ∈ arms ↔ c ∈ arms') →
      after (changes ++ arms ++ later) = after (changes ++ arms' ++ later)) ∧
    (∀ p between between' later, (∀ c ∈ between ++ between', ¬c.Clears p) →
      (∀ t, .arm p t ∈ between ↔ .arm p t ∈ between') →
      (after (changes ++ between ++ later)).deadline p =
        (after (changes ++ between' ++ later)).deadline p) ∧
    ∀ arms now now', (∀ c ∈ arms, c.IsArming) → now ≤ now' → (after changes).isDue now = true →
      (after (changes ++ arms)).isDue now' = true := by
  refine ⟨⟨earliest_live .flush changes, earliest_live .retry changes, earliest_next _,
    fun _ => isDue_iff_next⟩, ?_, fun _ _ _ later => deadline_rearmed later, ?_⟩
  · intro arms arms' later arming same
    exact ext_deadline fun p => deadline_rearmed later
      (fun c hc => not_clears_of_isArming (arming c hc) p) fun t => same _
  · intro arms now now' arming le due
    obtain ⟨t, live, reached⟩ := isDue_after_iff.1 due
    have still (p : Purpose) (h : Live p changes t) : Live p (changes ++ arms) t :=
      (live_append arms).2 (.inr ⟨fun c hc => not_clears_of_isArming (arming c hc) p, h⟩)
    exact isDue_after_iff.2 ⟨t, live.imp (still .flush) (still .retry), Nat.le_trans reached le⟩

/-- A retry is awaited and made before the second arming of the flush deadline. -/
def armedTwice : List Change := [.arm .flush 9, .arm .retry 4, .clearRetry, .arm .flush 7]

def retryFirst : List Change := [.arm .retry 8, .arm .flush 5]

def flushTwice : List Change := [.arm .flush 5, .arm .retry 8, .arm .flush 5]

theorem keeps_earliest_armedTwice :
    KeepsEarliest armedTwice ⟨some 7, none⟩ ∧
    after (armedTwice ++ retryFirst ++ armedTwice) = after (armedTwice ++ flushTwice ++ armedTwice) ∧
    (after (armedTwice ++ armedTwice ++ retryFirst)).deadline .flush =
      (after (armedTwice ++ armedTwice.reverse ++ retryFirst)).deadline .flush ∧
    (after (armedTwice ++ flushTwice)).isDue 8 = true := by
  have arming (p : Purpose) (time : Nat) : (Change.arm p time).IsArming := ⟨p, time, rfl⟩
  obtain ⟨kept, rearmed, apart, due⟩ := keeps_earliest armedTwice
  refine ⟨kept, rearmed _ _ _ ?_ ?_, apart .flush _ _ _ ?_ ?_,
    due _ 7 8 (by simp [flushTwice, arming]) (by decide) (by decide)⟩
  · simp [retryFirst, flushTwice, arming]
  · intro c
    simp only [retryFirst, flushTwice, List.mem_cons, List.not_mem_nil, or_false]
    tauto
  · simp [armedTwice, Change.Clears]
  · simp

end Courier.Schedule
