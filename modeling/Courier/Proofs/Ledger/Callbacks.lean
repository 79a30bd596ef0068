import Courier.Proofs.Ledger.Tracking

/-! Callbacks in the ledger. Between two settlements stand the callbacks of the first of the two
batches and no others; while a batch is reported, what stands there and what is pending make up all
that is due. -/
namespace Courier.Ledger

variable {η : Type}

/-- What is due for a settled batch: one callback for each event, in order, if there is a handler. -/
def due (handler : Option η) (outcome : Outcome) (batch : List Event) (ns : List Nat) :
    List (Fact η × List Nat) :=
  match handler with
  | some h => List.zipWith (fun e n => (.told h outcome e, [n])) batch ns
  | none => []

def callbacks (entries : List (Fact η × List Nat)) : List (Fact η × List Nat) :=
  entries.filter fun entry => entry.1.isTelling

def Quiet (entries : List (Fact η × List Nat)) : Prop :=
  ∀ entry ∈ entries, entry.1.isSettlement = false

structure Tells (l : Ledger η) (pending : List (Fact η × List Nat)) : Prop where
  atHand : ∀ front batch handler outcome ns mid,
    l.entries = front ++ (.settled batch handler outcome, ns) :: mid → Quiet mid →
      callbacks mid ++ pending = due handler outcome batch ns
  past : ∀ front batch handler outcome ns mid next rest,
    l.entries = front ++ (.settled batch handler outcome, ns) :: mid ++ next :: rest → Quiet mid →
      next.1.isSettlement = true → callbacks mid = due handler outcome batch ns
  unheard : ∀ batch outcome ns, (.settled batch none outcome, ns) ∈ l.entries →
    ∀ n ∈ ns, n ∉ l.told ∧ ∀ entry ∈ pending, n ∉ entry.2

variable {l : Ledger η} {f : Fact η} {pending pending' : List (Fact η × List Nat)}

theorem callbacks_append (left right : List (Fact η × List Nat)) :
    callbacks (left ++ right) = callbacks left ++ callbacks right :=
  List.filter_append left right

theorem mem_of_mem_due {handler : Option η} {outcome : Outcome} {batch : List Event} {ns : List Nat}
    {entry : Fact η × List Nat} (h : entry ∈ due handler outcome batch ns) : ∀ n ∈ entry.2, n ∈ ns := by
  cases handler with
  | none => cases h
  | some handler =>
    intro n hn
    obtain ⟨i, hi, rfl⟩ := List.mem_iff_getElem.1 h
    simp only [due, List.getElem_zipWith, List.mem_singleton] at hn
    exact hn ▸ List.getElem_mem _

namespace Tells

theorem begun : Tells (empty : Ledger η) [] where
  atHand := by simp [empty]
  past := by simp [empty]
  unheard := by simp [empty]

theorem other (h : Tells l pending) (hf : f.isSettlement = false)
    (hp : callbacks [(f, l.numbers f)] ++ pending' = pending) : Tells (l.enter f) pending' := by
  constructor
  · intro front batch handler outcome ns mid hsplit quiet
    rcases split_concat hsplit with ⟨-, hlast, -⟩ | ⟨mid, rfl, hold⟩
    · rw [← (Prod.mk.inj hlast).1] at hf
      cases hf
    · rw [callbacks_append, List.append_assoc, hp]
      exact h.atHand front batch handler outcome ns mid hold fun x hx =>
        quiet x (List.mem_append_left _ hx)
  · intro front batch handler outcome ns mid next rest hsplit quiet hnext
    rcases split_concat hsplit with ⟨-, rfl, -⟩ | ⟨rest, rfl, hold⟩
    · exact absurd (hf.symm.trans hnext) Bool.false_ne_true
    · exact h.past front batch handler outcome ns mid next rest hold quiet hnext
  · intro batch outcome ns hm n hn
    rw [Ledger.entries_enter] at hm
    rcases List.mem_append.1 hm with hold | hnew
    · obtain ⟨htold, hpending⟩ := h.unheard batch outcome ns hold n hn
      rw [← hp] at hpending
      refine ⟨?_, fun entry he => hpending entry (List.mem_append_right _ he)⟩
      rw [told_enter, List.mem_append, not_or]
      refine ⟨htold, ?_⟩
      split
      next telling =>
        exact hpending (f, l.numbers f) (List.mem_append_left _ (by simp [callbacks, telling]))
      next => exact List.not_mem_nil
    · rw [← (Prod.mk.inj (List.mem_singleton.1 hnew)).1] at hf
      cases hf

theorem settle (h : Tells l []) {batch queue : List Event} {rest : Option (List Event)}
    (tracks : Tracks l batch queue rest) (handler : Option η) (outcome : Outcome) :
    Tells (l.enter (.settled batch handler outcome))
      (due handler outcome batch (l.waiting.take batch.length)) := by
  -- The numbers of this batch are in no settled batch, so no callback before was about them.
  have apart {n : Nat} (hn : n ∈ l.settled.flatten) : n ∉ l.waiting.take batch.length := fun hw =>
    List.disjoint_of_nodup_append tracks.nodup hn (List.mem_of_mem_take hw)
  constructor
  · intro front batch' handler' outcome' ns mid hsplit quiet
    rcases split_concat hsplit with ⟨-, hlast, rfl⟩ | ⟨mid, rfl, -⟩
    · cases hlast
      rfl
    · cases quiet _ (List.mem_append_right mid List.mem_cons_self)
  · intro front batch' handler' outcome' ns mid next rest hsplit quiet hnext
    rcases split_concat hsplit with ⟨hfront, -, -⟩ | ⟨rest, rfl, hold⟩
    · have done := h.atHand front batch' handler' outcome' ns mid hfront.symm quiet
      rwa [List.append_nil] at done
    · exact h.past front batch' handler' outcome' ns mid next rest hold quiet hnext
  · intro batch' outcome' ns hm n hn
    rw [told_enter_of_not rfl]
    rw [Ledger.entries_enter] at hm
    rcases List.mem_append.1 hm with hold | hnew
    · have settled : n ∈ l.settled.flatten := by
        refine List.mem_flatten.2 ⟨ns, List.mem_map.2 ⟨_, List.mem_filter.2 ⟨hold, rfl⟩, rfl⟩, hn⟩
      exact ⟨(h.unheard batch' outcome' ns hold n hn).1, fun entry he hmem =>
        apart settled (mem_of_mem_due he n hmem)⟩
    · cases List.mem_singleton.1 hnew
      refine ⟨fun htold => ?_, fun entry he => nomatch he⟩
      exact apart (tracks.told_sublist.subset (List.mem_append_left _ htold)) hn

theorem tell {batch queue : List Event} {e : Event} {es : List Event} {handler : η}
    {outcome : Outcome} (h : Tells l (due (some handler) outcome (e :: es) l.untold))
    (tracks : Tracks l batch queue (some (e :: es))) :
    Tells (l.enter (.told handler outcome e)) (due (some handler) outcome es (l.untold.drop 1)) := by
  obtain ⟨n, ns, -, -, huntold⟩ := List.forall₂_cons_right_iff.1 (tracks.untold _ rfl)
  refine h.other rfl ?_
  rw [numbers, huntold]
  rfl

theorem exists_quiet (entries : List (Fact η × List Nat)) : ∃ more rest, entries = more ++ rest ∧
    Quiet more ∧ ∀ next ∈ rest.head?, next.1.isSettlement = true := by
  induction entries with
  | nil => exact ⟨[], [], rfl, List.forall_mem_nil _, fun _ hx => nomatch hx⟩
  | cons entry entries ih =>
    cases hentry : entry.1.isSettlement with
    | true =>
      refine ⟨[], entry :: entries, rfl, List.forall_mem_nil _, fun next hn => ?_⟩
      cases hn
      exact hentry
    | false =>
      obtain ⟨more, rest, rfl, quiet, hrest⟩ := ih
      exact ⟨entry :: more, rest, rfl, List.forall_mem_cons.2 ⟨hentry, quiet⟩, hrest⟩

variable {front mid rest : List (Fact η × List Nat)} {batch : List Event} {handler : Option η}
  {outcome : Outcome} {ns : List Nat}

theorem callbacks_eq_due (h : Tells l pending)
    (split : l.entries = front ++ (.settled batch handler outcome, ns) :: mid ++ rest) (quiet : Quiet mid)
    (ended : ∀ next ∈ rest.head?, next.1.isSettlement = true) (done : rest = [] → pending = []) :
    callbacks mid = due handler outcome batch ns := by
  cases rest with
  | nil =>
    rw [List.append_nil] at split
    rw [← h.atHand front batch handler outcome ns mid split quiet, done rfl, List.append_nil]
  | cons next rest =>
    exact h.past front batch handler outcome ns mid next rest split quiet (ended next rfl)

theorem callbacks_prefix_due (h : Tells l pending)
    (split : l.entries = front ++ (.settled batch handler outcome, ns) :: mid ++ rest)
    (quiet : Quiet mid) : callbacks mid <+: due handler outcome batch ns := by
  obtain ⟨more, rest, rfl, quietMore, ended⟩ := exists_quiet rest
  have quietBoth : Quiet (mid ++ more) := List.forall_mem_append.2 ⟨quiet, quietMore⟩
  have split : l.entries = front ++ (.settled batch handler outcome, ns) :: (mid ++ more) ++ rest := by
    rw [split]
    simp
  cases rest with
  | nil =>
    rw [List.append_nil] at split
    rw [← h.atHand front batch handler outcome ns _ split quietBoth, callbacks_append,
      List.append_assoc]
    exact List.prefix_append _ _
  | cons next rest =>
    rw [← h.past front batch handler outcome ns _ next rest split quietBoth (ended next rfl),
      callbacks_append]
    exact List.prefix_append _ _

end Tells

end Courier.Ledger
