import Courier.Text.Cutting
import Mathlib.Data.List.DropRight

/-! What trimming takes away, and what the lines of a text are. Items are dropped from the end of a list up
to the last one that does not pass, and a text is blank if nothing is left of it. The lines of a text are
the only ones that it can be put together from. -/
namespace Courier.Text

variable {α : Type} {p : α → Bool} {xs ys dropped : List α}

theorem dropEnd_eq_rdropWhile (p : α → Bool) (xs : List α) : dropEnd p xs = xs.rdropWhile p := rfl

theorem dropEnd_eq_nil_iff : dropEnd p xs = [] ↔ ∀ x ∈ xs, p x = true := by
  rw [dropEnd_eq_rdropWhile, List.rdropWhile_eq_nil_iff]

/-- What is left of a list ends where the dropped part begins. -/
theorem dropEnd_eq_iff : dropEnd p xs = ys ↔
    (∃ dropped, (∀ x ∈ dropped, p x = true) ∧ xs = ys ++ dropped) ∧
      ∀ x ∈ ys.getLast?, p x = false := by
  rw [dropEnd_eq_rdropWhile]
  constructor
  · rintro rfl
    refine ⟨⟨xs.rtakeWhile p, fun x hx => List.mem_rtakeWhile_imp hx,
      (List.rdropWhile_append_rtakeWhile).symm⟩, fun x hx => ?_⟩
    obtain ⟨some_left, rfl⟩ := List.mem_getLast?_eq_getLast hx
    exact Bool.eq_false_iff.2 (List.rdropWhile_last_not p xs some_left)
  · rintro ⟨⟨dropped, all, rfl⟩, last⟩
    induction dropped using List.reverseRecOn with
    | nil =>
      rw [List.append_nil, List.rdropWhile_eq_self_iff]
      exact fun some_left => Bool.eq_false_iff.1 (last _ (List.getLast?_eq_some_getLast some_left))
    | append_singleton dropped x ih =>
      rw [← List.append_assoc, List.rdropWhile_concat_pos _ _ _ (all x (by simp))]
      exact ih fun y hy => all y (by simp [hy])

theorem isAllBlank_iff {s : String} : isAllBlank s = true ↔ trim s = "" := by
  have trim_iff : trim s = "" ↔ dropEnd isBlank (s.toList.dropWhile isBlank) = [] := by
    simp [trim]
  rw [trim_iff, dropEnd_eq_nil_iff, isAllBlank, List.all_eq_true]
  constructor
  · intro h c hc
    exact h c ((List.dropWhile_suffix isBlank).subset hc)
  · intro h
    rw [← List.dropWhile_eq_nil_iff]
    by_contra some_left
    have blank := h _ (List.head_mem some_left)
    exact Bool.false_ne_true ((List.head_dropWhile_not isBlank some_left).symm.trans blank)

/-! ### Lines -/

/-- A text is put together from these lines. None has a line feed in it; behind each stands one, or a
carriage return and one, but a last line that is not empty may have nothing behind it. -/
inductive Cut : String → List String → Prop where
  | none : Cut "" []
  | last {line : String} (nonempty : line ≠ "") (whole : '\n' ∉ line.toList) : Cut line [line]
  | feed {line rest : String} {lines : List String} (whole : '\n' ∉ line.toList)
      (bare : line.toList.getLast? ≠ some '\r') (behind : Cut rest lines) :
      Cut (line ++ "\n" ++ rest) (line :: lines)
  | returned {line rest : String} {lines : List String} (whole : '\n' ∉ line.toList)
      (behind : Cut rest lines) : Cut (line ++ "\r\n" ++ rest) (line :: lines)

theorem cutLines_append {xs : List Char} (whole : '\n' ∉ xs) (line ys : List Char) :
    cutLines '\n' '\r' line (xs ++ ys) = cutLines '\n' '\r' (xs.reverse ++ line) ys := by
  induction xs generalizing line with
  | nil => rfl
  | cons x xs ih =>
    obtain ⟨apart, whole⟩ := not_or.1 (mt List.mem_cons.2 whole)
    rw [List.cons_append, cutLines, if_neg (Ne.symm apart), ih whole, List.reverse_cons, List.append_assoc,
      List.singleton_append]

theorem lines_append {line : List Char} (whole : '\n' ∉ line) (rest : String) :
    lines (String.ofList (line ++ '\n' :: rest.toList)) =
      String.ofList (dropFirst '\r' line.reverse).reverse :: lines rest := by
  rw [lines, String.toList_ofList, cutLines_append whole, List.append_nil, cutLines, if_pos rfl]
  rfl

theorem dropFirst_of_head {a : Char} {xs : List Char} (apart : xs.head? ≠ some a) : dropFirst a xs = xs := by
  cases xs with
  | nil => rfl
  | cons x xs => exact if_neg fun heq => apart (congrArg some heq)

theorem Cut.lines_eq {s : String} {ls : List String} (h : Cut s ls) : lines s = ls := by
  induction h with
  | none => rfl
  | @last line nonempty whole =>
    have nonempty : line.toList.reverse ≠ [] := by simpa using nonempty
    have cut := cutLines_append whole [] []
    rw [List.append_nil, List.append_nil] at cut
    rw [lines, cut, cutLines, if_neg (by simpa using nonempty), List.reverse_reverse]
    exact congrArg ([·]) String.ofList_toList
  | @feed line rest lines whole bare behind ih =>
    have text : line ++ "\n" ++ rest = String.ofList (line.toList ++ '\n' :: rest.toList) :=
      String.toList_inj.1 (by simp [String.toList_append])
    have unreturned : dropFirst '\r' line.toList.reverse = line.toList.reverse :=
      dropFirst_of_head (by rwa [List.head?_reverse])
    rw [text, lines_append whole, ih, unreturned, List.reverse_reverse, String.ofList_toList]
  | @returned line rest lines whole behind ih =>
    have text : line ++ "\r\n" ++ rest = String.ofList ((line.toList ++ ['\r']) ++ '\n' :: rest.toList) :=
      String.toList_inj.1 (by simp [String.toList_append])
    have unreturned : dropFirst '\r' (line.toList ++ ['\r']).reverse = line.toList.reverse := by
      rw [List.reverse_append, List.reverse_singleton, List.singleton_append, dropFirst, if_pos rfl]
    rw [text, lines_append (by simpa using whole), ih, unreturned, List.reverse_reverse, String.ofList_toList]

theorem Cut.close {line cs : List Char} {ls : List String} (whole : '\n' ∉ line)
    (behind : Cut (String.ofList cs) ls) :
    Cut (String.ofList (line.reverse ++ '\n' :: cs)) (String.ofList (dropFirst '\r' line).reverse :: ls) := by
  by_cases returns : line.head? = some '\r'
  · obtain ⟨xs, rfl⟩ := List.head?_eq_some_iff.1 returns
    have text : String.ofList (('\r' :: xs).reverse ++ '\n' :: cs) =
        String.ofList xs.reverse ++ "\r\n" ++ String.ofList cs := String.toList_inj.1 (by simp)
    rw [text, dropFirst, if_pos rfl]
    exact .returned (by simpa using mt List.mem_cons.2 whole) behind
  · have text : String.ofList (line.reverse ++ '\n' :: cs) =
        String.ofList line.reverse ++ "\n" ++ String.ofList cs := String.toList_inj.1 (by simp)
    rw [text, dropFirst_of_head returns]
    exact .feed (by simpa using whole) (by simpa using returns) behind

theorem cut_cutLines {line : List Char} (whole : '\n' ∉ line) (cs : List Char) :
    Cut (String.ofList (line.reverse ++ cs)) ((cutLines '\n' '\r' line cs).map String.ofList) := by
  induction cs generalizing line with
  | nil =>
    rw [cutLines, List.append_nil]
    cases line with
    | nil => exact .none
    | cons x xs => exact .last (by simp) (by simpa [and_comm] using whole)
  | cons c cs ih =>
    rw [cutLines]
    split
    next feed =>
      subst feed
      exact .close whole (ih List.not_mem_nil)
    next plain =>
      have whole : '\n' ∉ c :: line := mt List.mem_cons.1 (not_or.2 ⟨Ne.symm plain, whole⟩)
      have more := ih whole
      rwa [List.reverse_cons, List.append_assoc, List.singleton_append] at more

theorem cut_iff {s : String} {ls : List String} : Cut s ls ↔ lines s = ls := by
  refine ⟨Cut.lines_eq, ?_⟩
  rintro rfl
  have cut := cut_cutLines List.not_mem_nil s.toList
  rwa [List.reverse_nil, List.nil_append, String.ofList_toList] at cut

end Courier.Text
