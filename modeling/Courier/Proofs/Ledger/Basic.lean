import Courier.Proofs.Engine.Chronicle
import Mathlib.Data.List.Forall2

/-! A ledger is a journal that names events by their numbers in the order of acceptance, so that equal
events are told apart. A journal is enough to keep the ledger, since events wait in that order. -/
namespace Courier

variable {η : Type}

namespace Fact

def events : Fact η → List Event
  | accepted e _ => [e]
  | scrubbed _ es => es
  | attempted batch _ => batch
  | settled batch _ _ => batch
  | told _ _ e => [e]
  | _ => []

def isScrub : Fact η → Bool
  | scrubbed _ _ => true
  | _ => false

def isAttempt : Fact η → Bool
  | attempted _ _ => true
  | _ => false

def isSettlement : Fact η → Bool
  | settled _ _ _ => true
  | _ => false

def isTelling : Fact η → Bool
  | told _ _ _ => true
  | _ => false

def isMove : Fact η → Bool
  | accepted _ _ => true
  | scrubbed _ _ => true
  | settled _ _ _ => true
  | _ => false

def isStill : Fact η → Bool
  | accepted _ _ => false
  | scrubbed _ _ => false
  | attempted _ _ => false
  | settled _ _ _ => false
  | told _ _ _ => false
  | _ => true

theorem events_of_still {f : Fact η} (h : f.isStill = true) : f.events = [] := by
  cases f <;> first | rfl | cases h

theorem kinds_of_still {f : Fact η} (h : f.isStill = true) :
    f.isScrub = false ∧ f.isAttempt = false ∧ f.isSettlement = false ∧ f.isTelling = false := by
  cases f <;> first | exact ⟨rfl, rfl, rfl, rfl⟩ | cases h

end Fact

structure Ledger (η : Type) where
  /-- Event number `n` stands at place `n`. -/
  accepted : List Event
  /-- The numbers that are neither scrubbed nor settled, the oldest first. -/
  waiting : List Nat
  /-- Those of the batch settled last that no handler was told of. -/
  untold : List Nat
  /-- The journal, each fact with the numbers of its events. -/
  entries : List (Fact η × List Nat)

namespace Ledger

def empty : Ledger η := ⟨[], [], [], []⟩

/-- A scrub takes the newest of those that wait; attempts and settlements are about the oldest. -/
def numbers (l : Ledger η) : Fact η → List Nat
  | .accepted _ _ => [l.accepted.length]
  | .scrubbed _ es => l.waiting.rtake es.length
  | .attempted batch _ => l.waiting.take batch.length
  | .settled batch _ _ => l.waiting.take batch.length
  | .told _ _ _ => l.untold.take 1
  | _ => []

def enter (l : Ledger η) (f : Fact η) : Ledger η where
  accepted := match f with
    | .accepted e _ => l.accepted ++ [e]
    | _ => l.accepted
  waiting := match f with
    | .accepted _ _ => l.waiting ++ [l.accepted.length]
    | .scrubbed _ es => l.waiting.rdrop es.length
    | .settled batch _ _ => l.waiting.drop batch.length
    | _ => l.waiting
  untold := match f with
    | .settled batch _ _ => l.waiting.take batch.length
    | .told _ _ _ => l.untold.drop 1
    | _ => l.untold
  entries := l.entries ++ [(f, l.numbers f)]

def ofJournal (j : List (Fact η)) : Ledger η := j.foldl enter empty

def collect (kind : Fact η → Bool) (l : Ledger η) : List (List Nat) :=
  (l.entries.filter fun entry => kind entry.1).map (·.2)

def scrubbed (l : Ledger η) : List Nat := (l.collect Fact.isScrub).flatten

def requested (l : Ledger η) : List (List Nat) := l.collect Fact.isAttempt

def settled (l : Ledger η) : List (List Nat) := l.collect Fact.isSettlement

def told (l : Ledger η) : List Nat := (l.collect Fact.isTelling).flatten

/-- The accepted events that no scrub removed. -/
def kept (l : Ledger η) : List Nat :=
  (List.range l.accepted.length).filter fun n => decide (n ∉ l.scrubbed)

/-- Number `n` is event `e`, whenever that was sent. -/
def Knows (l : Ledger η) (n : Nat) (e : Event) : Prop :=
  ∃ a, l.accepted[n]? = some a ∧ a.content = e.content

variable {l : Ledger η} {n : Nat} {e : Event} {f : Fact η}

theorem ofJournal_append (j facts : List (Fact η)) :
    ofJournal (j ++ facts) = facts.foldl enter (ofJournal j) :=
  List.foldl_append

@[simp] theorem ofJournal_concat (j : List (Fact η)) :
    ofJournal (j ++ [f]) = (ofJournal j).enter f :=
  ofJournal_append j [f]

@[simp] theorem entries_enter : (l.enter f).entries = l.entries ++ [(f, l.numbers f)] := rfl

theorem entries_ofJournal (j : List (Fact η)) : (ofJournal j).entries.map (·.1) = j := by
  induction j using List.reverseRecOn with
  | nil => rfl
  | append_singleton j f ih => rw [ofJournal_concat, entries_enter, List.map_append, ih]; rfl

theorem collect_enter (kind : Fact η → Bool) :
    (l.enter f).collect kind = l.collect kind ++ if kind f then [l.numbers f] else [] := by
  cases h : kind f <;> simp [collect, h]

theorem scrubbed_enter :
    (l.enter f).scrubbed = l.scrubbed ++ if f.isScrub then l.numbers f else [] := by
  rw [scrubbed, collect_enter, List.flatten_append, ← scrubbed]
  split <;> simp

theorem told_enter : (l.enter f).told = l.told ++ if f.isTelling then l.numbers f else [] := by
  rw [told, collect_enter, List.flatten_append, ← told]
  split <;> simp

theorem settled_enter :
    (l.enter f).settled = l.settled ++ if f.isSettlement then [l.numbers f] else [] :=
  collect_enter _

theorem requested_enter :
    (l.enter f).requested = l.requested ++ if f.isAttempt then [l.numbers f] else [] :=
  collect_enter _

theorem scrubbed_enter_of_not (h : f.isScrub = false) : (l.enter f).scrubbed = l.scrubbed := by
  rw [scrubbed_enter, h]
  exact List.append_nil _

theorem told_enter_of_not (h : f.isTelling = false) : (l.enter f).told = l.told := by
  rw [told_enter, h]
  exact List.append_nil _

theorem settled_enter_of_not (h : f.isSettlement = false) : (l.enter f).settled = l.settled := by
  rw [settled_enter, h]
  exact List.append_nil _

theorem requested_enter_of_not (h : f.isAttempt = false) : (l.enter f).requested = l.requested := by
  rw [requested_enter, h]
  exact List.append_nil _

theorem accepted_prefix_enter : l.accepted <+: (l.enter f).accepted := by
  cases f with
  | accepted e time => exact List.prefix_append _ _
  | _ => exact List.prefix_refl _

theorem waiting_enter_of_not_move (h : f.isMove = false) : (l.enter f).waiting = l.waiting := by
  cases f <;> first | rfl | cases h

theorem waiting_foldl_of_not_move {facts : List (Fact η)} (h : ∀ f ∈ facts, f.isMove = false) :
    (facts.foldl enter l).waiting = l.waiting := by
  induction facts generalizing l with
  | nil => rfl
  | cons f facts ih =>
    obtain ⟨hf, hfacts⟩ := List.forall_mem_cons.1 h
    rw [List.foldl_cons, ih hfacts, waiting_enter_of_not_move hf]

theorem mem_waiting_enter (accepted : n < l.accepted.length) (h : n ∈ (l.enter f).waiting) :
    n ∈ l.waiting := by
  cases f with
  | accepted e time =>
    rcases List.mem_append.1 h with hold | hnew
    · exact hold
    · exact absurd (List.mem_singleton.1 hnew) (Nat.ne_of_lt accepted)
  | scrubbed actor es => exact List.mem_of_mem_take h
  | settled batch handler outcome => exact List.mem_of_mem_drop h
  | _ => exact h

theorem mem_waiting_foldl {facts : List (Fact η)} (accepted : n < l.accepted.length)
    (h : n ∈ (facts.foldl enter l).waiting) : n ∈ l.waiting := by
  induction facts generalizing l with
  | nil => exact h
  | cons f facts ih =>
    have still : n < (l.enter f).accepted.length :=
      Nat.lt_of_lt_of_le accepted accepted_prefix_enter.length_le
    exact mem_waiting_enter accepted (ih still h)

theorem numbers_of_still (h : f.isStill = true) : l.numbers f = [] := by
  cases f <;> first | rfl | cases h

theorem enter_of_still (h : f.isStill = true) :
    l.enter f = { l with entries := l.entries ++ [(f, [])] } := by
  cases f <;> first | rfl | cases h

theorem Knows.lt (h : l.Knows n e) : n < l.accepted.length := by
  obtain ⟨a, ha, -⟩ := h
  exact (List.getElem?_eq_some_iff.1 ha).1

theorem Knows.enter (h : l.Knows n e) : (l.enter f).Knows n e := by
  have hlt := h.lt
  obtain ⟨a, ha, hc⟩ := h
  obtain ⟨more, hm⟩ := accepted_prefix_enter (l := l) (f := f)
  exact ⟨a, by rw [← hm, List.getElem?_append_left hlt, ha], hc⟩

theorem forall₂_enter {ns : List Nat} {es : List Event} (h : List.Forall₂ l.Knows ns es) :
    List.Forall₂ (l.enter f).Knows ns es := by
  apply h.imp
  intro n e known
  exact known.enter

theorem Knows.stamp (time : String) (h : l.Knows n e) : l.Knows n (e.stamp time) := h

theorem nodup_kept : l.kept.Nodup := List.nodup_range.filter _

theorem lt_of_forall₂ {ns : List Nat} {es : List Event} (h : List.Forall₂ l.Knows ns es) :
    ∀ n ∈ ns, n < l.accepted.length := by
  induction h with
  | nil => simp
  | cons hk _ ih => exact List.forall_mem_cons.2 ⟨hk.lt, ih⟩

end Ledger

end Courier
