import Courier.Proofs.Text.Cutting
import Courier.Settings.Basic

/-! Where accepted settings send batches to. The host is looked at without the white space around it, and
is used without the slashes at its end. So what is used can be blank although what was looked at is not:
of white space with slashes behind it, the slashes are what was seen and the white space is what is left. -/
namespace Courier.Settings

open Text

variable {s : Settings}

theorem check_eq_ok_iff :
    s.check = .ok () ↔ isAllBlank s.host = false ∧ s.flushCount ≠ 0 ∧ s.flushSize ≠ 0 := by
  rw [← Bool.not_eq_true, isAllBlank_iff]
  unfold check
  by_cases blank : trim s.host = ""
  · simp [blank]
  by_cases count : s.flushCount = 0
  · simp [blank, count]
  by_cases size : s.flushSize = 0
  · simp [blank, count, size]
  · simp [blank, count, size]

def slashes (n : Nat) : String := String.ofList (List.replicate n '/')

theorem base_eq_iff {base : String} :
    s.base = base ↔ (∃ n, s.host = base ++ slashes n) ∧ base.toList.getLast? ≠ some '/' := by
  rw [← String.toList_inj, Settings.base, String.toList_ofList, dropEnd_eq_iff]
  refine and_congr ⟨?_, ?_⟩ ?_
  · rintro ⟨dropped, all, host⟩
    have replicated : dropped = List.replicate dropped.length '/' :=
      List.eq_replicate_iff.2 ⟨rfl, fun c hc => of_decide_eq_true (all c hc)⟩
    refine ⟨dropped.length, String.toList_inj.1 ?_⟩
    rw [host, String.toList_append, slashes, String.toList_ofList, ← replicated]
  · rintro ⟨n, host⟩
    refine ⟨List.replicate n '/', fun c hc => decide_eq_true (List.eq_of_mem_replicate hc), ?_⟩
    rw [host, String.toList_append, slashes, String.toList_ofList]
  · constructor
    · intro last slash
      cases last '/' slash
    · intro last c hc
      exact decide_eq_false fun slash => last (slash ▸ hc)

theorem isAllBlank_base_iff (visible : isAllBlank s.host = false) : isAllBlank s.base = true ↔
    ∃ blanks n, isAllBlank blanks = true ∧ s.host = blanks ++ slashes (n + 1) := by
  constructor
  · intro blank
    obtain ⟨⟨n, host⟩, -⟩ := base_eq_iff.1 (rfl : s.base = s.base)
    cases n with
    | zero =>
      have whole : s.host = s.base := by simpa [slashes] using host
      rw [whole, blank] at visible
      cases visible
    | succ n => exact ⟨s.base, n, blank, host⟩
  · rintro ⟨blanks, n, blank, host⟩
    have unslashed : blanks.toList.getLast? ≠ some '/' := by
      intro slash
      have slash_blank := List.all_eq_true.1 blank '/' (List.mem_of_getLast? slash)
      cases slash_blank
    rw [base_eq_iff.2 ⟨⟨n + 1, host⟩, unslashed⟩]
    exact blank

theorem base_eq_empty_iff (visible : isAllBlank s.host = false) :
    s.base = "" ↔ ∃ n, s.host = slashes (n + 1) := by
  constructor
  · intro empty
    obtain ⟨⟨n, host⟩, -⟩ := base_eq_iff.1 empty
    rw [String.empty_append] at host
    cases n with
    | zero =>
      rw [host] at visible
      cases visible
    | succ n => exact ⟨n, host⟩
  · rintro ⟨n, host⟩
    exact base_eq_iff.2 ⟨⟨n + 1, by rw [host, String.empty_append]⟩, by simp⟩

/-- Batches are sent to the host without its trailing slashes. Of an accepted host that leaves a character
that is not white space, unless the host is white space, or nothing, with slashes behind it; and it leaves
nothing at all if the host is made of slashes. -/
theorem accepted_base (accepted : s.check = .ok ()) : ∃ base n,
    s.batchUrl = base ++ "/v1/batch" ∧ s.host = base ++ slashes n ∧
      base.toList.getLast? ≠ some '/' ∧
      ((∃ c ∈ base.toList, isBlank c = false) ↔
        ¬∃ blanks m, isAllBlank blanks = true ∧ s.host = blanks ++ slashes (m + 1)) ∧
      (s.batchUrl = "/v1/batch" ↔ ∃ m, s.host = slashes (m + 1)) := by
  obtain ⟨visible, -⟩ := check_eq_ok_iff.1 accepted
  obtain ⟨⟨n, host⟩, unslashed⟩ := base_eq_iff.1 (rfl : s.base = s.base)
  refine ⟨s.base, n, rfl, host, unslashed, ?_, ?_⟩
  · rw [← isAllBlank_base_iff visible, isAllBlank, List.all_eq_true]
    simp
  · rw [← base_eq_empty_iff visible]
    constructor
    · intro bare
      have nothing_before : s.base ++ "/v1/batch" = "" ++ "/v1/batch" := bare
      exact (String.append_left_inj _).1 nothing_before
    · intro empty
      rw [batchUrl, empty]
      rfl

theorem accepted_base_blankAndSlashes :
    ({ host := " //" } : Settings).check = .ok () ∧ ∃ base n,
      ({ host := " //" } : Settings).batchUrl = base ++ "/v1/batch" ∧ " //" = base ++ slashes n ∧
      ¬∃ c ∈ base.toList, isBlank c = false := by
  have accepted : ({ host := " //" } : Settings).check = .ok () := rfl
  obtain ⟨base, n, url, host, -, visible, -⟩ := accepted_base accepted
  exact ⟨accepted, base, n, url, host, fun some_visible =>
    visible.1 some_visible ⟨" ", 1, rfl, rfl⟩⟩

/-- A host of one slash passes the check, and nothing is left of it. -/
theorem not_visible_base_slash :
    ¬∀ s : Settings, s.check = .ok () → ∃ c ∈ s.base.toList, isBlank c = false := by
  intro visible
  obtain ⟨c, hc, -⟩ := visible { host := "/" } rfl
  have nothing_left : ({ host := "/" } : Settings).base = "" := rfl
  rw [nothing_left] at hc
  simp at hc

end Courier.Settings
