import Courier.Json.Reader
import Mathlib.Data.List.Basic
import Mathlib.Data.List.TakeDrop
import Mathlib.Data.List.TakeWhile

/-! Texts and numbers are read back as they were written. A text ends at its closing quote; a number
ends where nothing follows that could belong to it, and is the same whatever follows then. -/
namespace Courier.Json

theorem hexValue?_hexDigit {n : Nat} (h : n < 16) : Text.hexValue? (hexDigit n) = some n := by
  have all_digits : ∀ m < 16, Text.hexValue? (hexDigit m) = some m := by decide
  exact all_digits n h

theorem readText_escape (c : Char) (acc cs : List Char) :
    readText false .plain acc (escape c ++ cs) = readText false .plain (c :: acc) cs := by
  by_cases named : c = '"' ∨ c = '\\' ∨ c = '\x08' ∨ c = '\t' ∨ c = '\n' ∨ c = '\x0c' ∨ c = '\r'
  · rcases named with rfl | rfl | rfl | rfl | rfl | rfl | rfl <;> rfl
  · simp only [not_or] at named
    obtain ⟨quote, backslash, back, tab, line, page, carriage⟩ := named
    simp only [escape, if_neg quote, if_neg backslash, if_neg back, if_neg tab, if_neg line,
      if_neg page, if_neg carriage]
    by_cases control : c.toNat < 32
    · have high := hexValue?_hexDigit (n := c.toNat / 16) (by omega)
      have low := hexValue?_hexDigit (n := c.toNat % 16) (Nat.mod_lt _ (by decide))
      have zero : Text.hexValue? '0' = some 0 := by decide
      have enough (h l : Char) : hasFourBytes ('0' :: '0' :: h :: l :: cs) = true := by
        have hh := Char.utf8Size_pos h
        have hl := Char.utf8Size_pos l
        have zero : '0'.utf8Size = 1 := rfl
        simp only [hasFourBytes, List.take_succ_cons, List.take_zero, List.foldr_cons, List.foldr_nil, zero,
          decide_eq_true_eq]
        omega
      have plain : ¬isTrailing c.toNat ∧ ¬isLeading c.toNat := by
        simp only [isTrailing, isLeading, Bool.and_eq_true, decide_eq_true_eq]
        omega
      have value : 16 * (c.toNat / 16) + c.toNat % 16 = c.toNat := Nat.div_add_mod _ _
      simp [if_pos control, readText, enough, zero, high, low, value, closeHex, plain]
    · simp only [if_neg control, List.singleton_append, readText, if_neg quote, if_neg backslash]

theorem readText_escaped (cs acc rest : List Char) :
    readText false .plain acc (cs.flatMap escape ++ '"' :: rest) =
      .ok (String.ofList (acc.reverse ++ cs), rest) := by
  induction cs generalizing acc with
  | nil => simp [readText]
  | cons c cs ih =>
    rw [List.flatMap_cons, List.append_assoc, readText_escape, ih, List.reverse_cons,
      List.append_assoc, List.singleton_append]

theorem toList_quote (s : String) :
    (quote s).toList = '"' :: (s.toList.flatMap escape ++ ['"']) := by
  rw [quote, String.toList_ofList]

theorem text_quote (s : String) (rest : List Char) :
    strict.text (s.toList.flatMap escape ++ '"' :: rest) = .ok (s, rest) := by
  rw [show strict.text = readText false .plain [] from rfl, readText_escaped, List.reverse_nil,
    List.nil_append, String.ofList_toList]

/-! ### Numbers -/

/-- What may follow a value: nothing, or a mark that ends it. -/
def Delimited (rest : List Char) : Prop := ∀ c ∈ rest.head?, c = ',' ∨ c = ']' ∨ c = '\x7d'

theorem delimited_nil : Delimited [] := fun _ hc => nomatch hc

theorem delimited_cons {c : Char} (cs : List Char) (h : c = ',' ∨ c = ']' ∨ c = '\x7d') :
    Delimited (c :: cs) := fun d hd => by
  cases hd
  exact h

section

variable {rest : List Char} (hr : Delimited rest)

include hr

theorem Delimited.dropWhile_isDigit : rest.dropWhile Char.isDigit = rest := by
  cases rest with
  | nil => rfl
  | cons c cs =>
    rcases hr c rfl with rfl | rfl | rfl <;> rfl

theorem Delimited.takeWhile_isDigit : rest.takeWhile Char.isDigit = [] := by
  cases rest with
  | nil => rfl
  | cons c cs =>
    rcases hr c rfl with rfl | rfl | rfl <;> rfl

theorem Delimited.span_isDigit_append (cs : List Char) : (cs ++ rest).span Char.isDigit =
    (cs.takeWhile Char.isDigit, cs.dropWhile Char.isDigit ++ rest) := by
  rw [List.span_eq_takeWhile_dropWhile]
  induction cs with
  | nil => simp [hr.dropWhile_isDigit, hr.takeWhile_isDigit]
  | cons c cs ih =>
    obtain ⟨taken, dropped⟩ := Prod.mk.inj ih
    cases digit : c.isDigit <;> simp [digit, taken, dropped]

end

/-- What the reader takes is the same when a text goes on with the end of a value. -/
def Extends {α : Type} (read : List Char → Except Fault (α × List Char)) : Prop :=
  ∀ cs a left, read cs = .ok (a, left) →
    ∀ rest, Delimited rest → read (cs ++ rest) = .ok (a, left ++ rest)

namespace Extends

variable {α β : Type}

theorem ok (a : α) : Extends fun cs => .ok (a, cs) := by
  intro cs a' left h rest _
  cases h
  rfl

theorem error (f : Fault) : Extends (α := α) fun _ => .error f := by
  intro cs a left h
  cases h

theorem bind {read : List Char → Except Fault (α × List Char)}
    {next : α × List Char → Except Fault (β × List Char)} (hread : Extends read)
    (hnext : ∀ a, Extends fun cs => next (a, cs)) : Extends fun cs => read cs >>= next := by
  intro cs b left h rest hr
  obtain ⟨⟨a, cs'⟩, hcs, h⟩ := bind_eq_ok_iff.1 h
  exact bind_eq_ok_iff.2 ⟨(a, cs' ++ rest), hread cs a cs' hcs rest hr, hnext a cs' b left h rest hr⟩

theorem someDigits : Extends someDigits := by
  intro cs ds left h rest hr
  cases cs with
  | nil => cases h
  | cons c cs =>
    simp only [Json.someDigits, List.cons_append] at h ⊢
    split at h
    next digit =>
      rw [List.span_eq_takeWhile_dropWhile] at h
      cases h
      rw [if_pos digit, ← List.cons_append, hr.span_isDigit_append]
    · cases h

theorem readWhole : Extends readWhole :=
  someDigits.bind fun ds => by
    dsimp only
    split
    · exact error _
    · exact ok ds

theorem readFraction : Extends readFraction := by
  have point : Extends fun cs => Json.readFraction ('.' :: cs) :=
    someDigits.bind fun ds => ok (some ds)
  intro cs f left h rest hr
  cases cs with
  | nil =>
    cases h
    cases rest with
    | nil => rfl
    | cons c cs => rcases hr c rfl with rfl | rfl | rfl <;> rfl
  | cons c cs =>
    by_cases dot : c = '.'
    · subst dot
      exact point cs f left h rest hr
    · have plain (cs : List Char) : Json.readFraction (c :: cs) = .ok (none, c :: cs) := by
        unfold Json.readFraction
        split
        next heq => exact absurd (List.cons.inj heq).1 dot
        · rfl
      rw [plain] at h
      cases h
      exact plain _

theorem readExponent : Extends readExponent := by
  have signed (isNegative : Bool) : Extends (fun cs => Json.someDigits cs >>= fun digits =>
      .ok (some (isNegative, digits.1), digits.2)) :=
    someDigits.bind fun ds => ok (some (isNegative, ds))
  intro cs e left h rest hr
  cases cs with
  | nil =>
    cases h
    cases rest with
    | nil => rfl
    | cons c cs => rcases hr c rfl with rfl | rfl | rfl <;> rfl
  | cons c cs =>
    by_cases marked : c = 'e' ∨ c = 'E'
    · simp only [Json.readExponent, List.cons_append, if_pos marked] at h ⊢
      cases cs with
      | nil => cases h
      | cons sign cs =>
        split at h
        next cs' plus =>
          cases plus
          exact signed false cs e left h rest hr
        next cs' minus =>
          cases minus
          exact signed true cs e left h rest hr
        next plus minus =>
          split
          next heq => cases heq; exact absurd rfl (plus _)
          next heq => cases heq; exact absurd rfl (minus _)
          next => exact signed false (sign :: cs) e left h rest hr
    · simp only [Json.readExponent, List.cons_append, if_neg marked] at h ⊢
      cases h
      rfl

theorem readLiteral : Extends readLiteral := by
  have parts (isNegative : Bool) : Extends (fun cs => Json.readWhole cs >>= fun whole =>
      Json.readFraction whole.2 >>= fun fraction => Json.readExponent fraction.2 >>= fun exponent =>
        .ok ((⟨isNegative, whole.1, fraction.1, exponent.1⟩ : Literal), exponent.2)) := by
    refine readWhole.bind fun whole => ?_
    dsimp only
    refine readFraction.bind fun fraction => ?_
    dsimp only
    exact readExponent.bind fun exponent => ok (⟨isNegative, whole, fraction, exponent⟩ : Literal)
  intro cs l left h rest hr
  cases cs with
  | nil => cases h
  | cons sign cs =>
    simp only [Json.readLiteral, List.cons_append] at h ⊢
    split at h
    next cs' minus =>
      cases minus
      exact parts true cs l left h rest hr
    next minus =>
      split
      next heq => cases heq; exact absurd rfl (minus _)
      next => exact parts false (sign :: cs) l left h rest hr

theorem number : Extends strict.number :=
  readLiteral.bind fun l => by
    dsimp only
    split
    next v _ => exact ok v
    · exact error _

end Extends

theorem absorb_digits {ds : List Char} {n : Nat} (fits : Nat.ofDigitChars 10 ds n < UInt64.size) :
    absorb n ds = (Nat.ofDigitChars 10 ds n, []) := by
  induction ds generalizing n with
  | nil => simp [absorb]
  | cons d ds ih =>
    rw [Nat.ofDigitChars_cons] at fits ⊢
    have below : 10 * n + digitValue d ≤ Nat.ofDigitChars 10 ds (10 * n + digitValue d) := by
      rw [Nat.ofDigitChars_eq_ofDigitChars_zero]
      exact Nat.le_trans (Nat.le_mul_of_pos_left _ (Nat.pow_pos (by decide))) (Nat.le_add_right _ _)
    rw [absorb, if_pos (Nat.lt_of_le_of_lt below fits)]
    exact ih fits

theorem head?_toDigits {n : Nat} (positive : 0 < n) : (Nat.toDigits 10 n).head? ≠ some '0' := by
  induction n using Nat.base_induction 10 (by decide) with
  | single m hm =>
    rw [Nat.toDigits_of_lt_base hm, List.head?_cons, ne_eq, Option.some.injEq, Nat.digitChar_eq_zero]
    exact Nat.pos_iff_ne_zero.1 positive
  | digit m k hk hm ih =>
    rw [← Nat.toDigits_append_toDigits (by decide) hm hk,
      List.head?_append_of_ne_nil _ Nat.toDigits_ne_nil]
    exact ih hm

theorem readWhole_toDigits (n : Nat) : readWhole (Nat.toDigits 10 n) = .ok (Nat.toDigits 10 n, []) := by
  have all_digits : ∀ c ∈ Nat.toDigits 10 n, c.isDigit = true := fun c hc =>
    Nat.isDigit_of_mem_toDigits (by decide) (by decide) hc
  have taken : someDigits (Nat.toDigits 10 n) = .ok (Nat.toDigits 10 n, []) := by
    cases digits : Nat.toDigits 10 n with
    | nil => exact absurd digits Nat.toDigits_ne_nil
    | cons d ds =>
      rw [digits] at all_digits
      rw [someDigits, if_pos (all_digits d List.mem_cons_self), List.span_eq_takeWhile_dropWhile,
        List.takeWhile_eq_self_iff.2 all_digits, List.dropWhile_eq_nil_iff.2 all_digits]
  have unpadded : ¬(1 < (Nat.toDigits 10 n).length ∧ (Nat.toDigits 10 n).head? = some '0') := by
    rintro ⟨long, zero⟩
    refine head?_toDigits (Nat.pos_of_ne_zero fun hn => ?_) zero
    rw [hn] at long
    exact absurd long (by decide)
  rw [readWhole, taken]
  exact if_neg unpadded

theorem number_of_toInt? {cs : List Char} {l : Literal} {n : Int} (h : Whole n)
    (read : readLiteral cs = .ok (l, [])) (whole : l.toInt? = some n) :
    strict.number cs = .ok (Value.int n h, []) := by
  have value : l.toValue? = some (Value.int n h) := by
    rw [Literal.toValue?, whole]
    exact dif_pos h
  refine bind_eq_ok_iff.2 ⟨(l, []), read, ?_⟩
  dsimp only
  rw [value]

theorem number_int {n : Int} (h : Whole n) :
    strict.number (toString n).toList = .ok (Value.int n h, []) := by
  have fits {m : Nat} (hm : m < UInt64.size) : absorb 0 (Nat.toDigits 10 m) = (m, []) := by
    have value : Nat.ofDigitChars 10 (Nat.toDigits 10 m) 0 = m := Nat.ofDigitChars_ten_toDigits
    rw [absorb_digits (value.symm ▸ hm), value]
  have size : UInt64.size = 18446744073709551616 := rfl
  rw [Int.toString_eq_repr, Int.repr_eq_if]
  split
  next nonneg =>
    have value : Int.ofNat n.toNat = n := Int.toNat_of_nonneg nonneg
    have whole : (⟨false, Nat.toDigits 10 n.toNat, none, none⟩ : Literal).toInt? = some n := by
      rw [Literal.toInt?, fits (by have := h.2; omega)]
      exact congrArg some value
    refine number_of_toInt? h ?_ whole
    rw [Nat.toList_repr]
    have first : ∀ cs, Nat.toDigits 10 n.toNat ≠ '-' :: cs := by
      intro cs hcs
      have digit : Char.isDigit '-' = true :=
        Nat.isDigit_of_mem_toDigits (by decide) (by decide) (hcs ▸ List.mem_cons_self)
      cases digit
    simp only [readLiteral]
    rw [readWhole_toDigits]
    rfl
  next negative =>
    have value : -Int.ofNat (-n).toNat = n := by
      rw [Int.ofNat_eq_natCast]
      omega
    have whole : (⟨true, Nat.toDigits 10 (-n).toNat, none, none⟩ : Literal).toInt? = some n := by
      rw [Literal.toInt?, fits (by have := h.1; omega)]
      exact (if_pos rfl).trans ((if_neg (by omega)).trans (congrArg some value))
    refine number_of_toInt? h ?_ whole
    rw [String.toList_append, Nat.toList_repr]
    change (readWhole (Nat.toDigits 10 (-n).toNat) >>= fun p => _) = _
    rw [readWhole_toDigits]
    rfl

end Courier.Json
