import Courier.Command.Run
import Courier.Proofs.Text.Cutting
import Mathlib.Data.List.Forall2
import Mathlib.Data.List.TakeWhile

/-! The input of the command. Its lines are counted from one, blank ones among them, and they are read
up to the first that is neither blank nor an event. -/
namespace Courier

namespace Text

theorem linesOfBytes_toUTF8 (s : String) : linesOfBytes s.toUTF8 = (lines s).map some := by
  have decoded : String.fromUTF8? s.toUTF8 = some s := dif_pos s.isValidUTF8
  rw [linesOfBytes, decoded]

end Text

namespace Command

/-- The lines that are not blank. All lines are counted, beginning with `number`. -/
def numbered (number : Nat) (lines : List String) : List (String × Nat) :=
  (lines.zipIdx number).filter fun line => Text.trim line.1 ≠ ""

def reading (now : Nat → String) (line : String × Nat) : Except Failure Event :=
  readEvent (now line.2) line.2 line.1

/-- Lines are read as events, until there is none left or one is bad. -/
inductive Intake (now : Nat → String) :
    List (String × Nat) → List Event → Option Failure → Prop where
  | ended : Intake now [] [] none
  | event {line : String × Nat} {lines : List (String × Nat)} {e : Event} {events : List Event}
      {failure : Option Failure} (good : reading now line = .ok e)
      (rest : Intake now lines events failure) : Intake now (line :: lines) (e :: events) failure
  | broken {line : String × Nat} {lines : List (String × Nat)} {f : Failure}
      (bad : reading now line = .error f) : Intake now (line :: lines) [] (some f)

variable {now : Nat → String} {line : String × Nat} {lines : List (String × Nat)}
  {events : List Event} {f : Failure}

theorem Intake.all_read (h : Intake now lines events none) :
    List.Forall₂ (fun line e => reading now line = .ok e) lines events := by
  generalize unfailing : (none : Option Failure) = failure at h
  induction h with
  | ended => exact .nil
  | event good rest ih => exact .cons good (ih unfailing)
  | broken bad => cases unfailing

theorem Intake.first_bad (h : Intake now lines events (some f)) :
    ∃ good line rest, lines = good ++ line :: rest ∧
      List.Forall₂ (fun line e => reading now line = .ok e) good events ∧
        reading now line = .error f := by
  generalize failing : some f = failure at h
  induction h with
  | ended => cases failing
  | event read rest ih =>
    obtain ⟨good, line, more, rfl, reads, bad⟩ := ih failing
    exact ⟨_ :: good, line, more, rfl, .cons read reads, bad⟩
  | broken bad =>
    cases failing
    exact ⟨[], _, _, rfl, .nil, bad⟩

theorem exists_event_of_mem (reads : List.Forall₂ (fun line e => reading now line = .ok e) lines events) :
    ∀ line ∈ lines, ∃ e, reading now line = .ok e := by
  induction reads with
  | nil => nofun
  | cons read _ ih => exact List.forall_mem_cons.2 ⟨⟨_, read⟩, ih⟩

theorem find?_bad {good : List (String × Nat)}
    (reads : ∀ line ∈ good, ∃ e, reading now line = .ok e) (bad : reading now line = .error f)
    (rest : List (String × Nat)) :
    (good ++ line :: rest).find? (fun line => !(reading now line).isOk) = some line := by
  have none_bad : good.find? (fun line => !(reading now line).isOk) = none := by
    refine List.find?_eq_none.2 fun line hl => ?_
    obtain ⟨e, read⟩ := reads line hl
    simp [read, Except.isOk, Except.toBool]
  rw [List.find?_append, none_bad, Option.none_or, List.find?_cons_of_pos]
  simp [bad, Except.isOk, Except.toBool]

theorem intake_readEvents (stamp : String) (number : Nat) (lines : List String) :
    Intake (fun _ => stamp) (numbered number lines) (readEvents stamp number (lines.map some)).1
      (readEvents stamp number (lines.map some)).2 := by
  induction lines generalizing number with
  | nil => exact .ended
  | cons line lines ih =>
    rw [List.map_cons, readEvents, numbered, List.zipIdx_cons]
    by_cases blank : Text.isAllBlank line = true
    · rw [if_pos blank, List.filter_cons_of_neg (by simpa using Text.isAllBlank_iff.1 blank)]
      exact ih (number + 1)
    · rw [if_neg blank, List.filter_cons_of_pos (by simpa using mt Text.isAllBlank_iff.2 blank)]
      cases read : readEvent stamp number line with
      | error f => exact .broken read
      | ok e => exact .event read (ih (number + 1))

theorem message_of_reading (bad : reading now line = .error f) :
    ∃ what, (what = " is not valid JSON" ∨ what = " is not an event") ∧
      f.message = "Line " ++ toString line.2 ++ what := by
  unfold reading readEvent at bad
  split at bad
  · cases bad
    exact ⟨_, .inl rfl, rfl⟩
  · split at bad <;> cases bad
    exact ⟨_, .inr rfl, rfl⟩

end Command

end Courier
