import Courier.Proofs.Json.Grammar
import Courier.Proofs.Json.Leaves

/-! The leaves of the grammar are read as far as they go: white space, numbers, and texts. Numbers end
where what may follow a value begins. A text is read as what it spells; read leniently it is read at least
to its end. -/
namespace Courier.Json

/-! ### White space -/

theorem isBlank_iff {c : Char} : isBlank c = true ↔ c = ' ' ∨ c = '\t' ∨ c = '\n' ∨ c = '\r' := by
  simp [isBlank, or_assoc]

theorem Blank.skip {cs : List Char} (h : Blank cs) (rest : List Char) :
    skipBlank (cs ++ rest) = skipBlank rest :=
  List.dropWhile_append_of_pos fun c hc => isBlank_iff.2 (h c hc)

/-- What may follow a value: nothing, white space, or a mark that ends it. -/
def Stops (rest : List Char) : Prop :=
  ∀ c ∈ rest.head?, isBlank c = true ∨ c = ',' ∨ c = ']' ∨ c = '\x7d'

theorem stops_nil : Stops [] := fun _ hc => nomatch hc

theorem stops_cons {c : Char} (cs : List Char) (h : c = ',' ∨ c = ']' ∨ c = '\x7d') :
    Stops (c :: cs) := fun d hd => by
  cases hd
  exact .inr h

theorem Blank.stops {cs rest : List Char} (h : Blank cs) (hr : Stops rest) : Stops (cs ++ rest) := by
  cases cs with
  | nil => exact hr
  | cons c cs =>
    intro d hd
    cases hd
    exact .inl (isBlank_iff.2 (h c List.mem_cons_self))

/-! ### Numbers -/

def NoDigit (rest : List Char) : Prop := ∀ c ∈ rest.head?, c.isDigit = false

section

variable {digits rest : List Char}

theorem Stops.mark {c : Char} (hr : Stops rest) (hc : c ∈ rest.head?) :
    c.isDigit = false ∧ c ≠ '.' ∧ c ≠ 'e' ∧ c ≠ 'E' := by
  rcases hr c hc with blank | rfl | rfl | rfl
  · rcases isBlank_iff.1 blank with rfl | rfl | rfl | rfl <;> decide
  all_goals decide

theorem Digits.exists_first (h : Digits digits) :
    ∃ c cs, digits = c :: cs ∧ c.isDigit = true := by
  obtain ⟨c, cs, rfl⟩ := List.exists_cons_of_ne_nil h.nonempty
  exact ⟨c, cs, rfl, h.all c List.mem_cons_self⟩

theorem Digits.read (h : Digits digits) (ends : NoDigit rest) :
    someDigits (digits ++ rest) = .ok (digits, rest) := by
  have taken : (digits ++ rest).span Char.isDigit = (digits, rest) := by
    have none_more : rest.takeWhile Char.isDigit = [] ∧ rest.dropWhile Char.isDigit = rest := by
      cases rest with
      | nil => exact ⟨rfl, rfl⟩
      | cons c cs => simp [ends c rfl]
    rw [List.span_eq_takeWhile_dropWhile, List.takeWhile_append_of_pos h.all,
      List.dropWhile_append_of_pos h.all, none_more.1, none_more.2, List.append_nil]
  obtain ⟨c, cs, rfl, digit⟩ := h.exists_first
  rw [List.cons_append] at taken ⊢
  rw [someDigits, if_pos digit, taken]

theorem Digits.readWhole (h : Digits digits) (unpadded : digits.head? = some '0' → digits = ['0'])
    (ends : NoDigit rest) : readWhole (digits ++ rest) = .ok (digits, rest) := by
  have proper : ¬(1 < digits.length ∧ digits.head? = some '0') := by
    rintro ⟨long, zero⟩
    rw [unpadded zero] at long
    exact absurd long (by decide)
  rw [Json.readWhole, h.read ends]
  exact if_neg proper

theorem Fraction.read {f : Option (List Char)} {cs : List Char} (h : Fraction f cs)
    (ends : NoDigit rest) (noPoint : ∀ c ∈ rest.head?, c ≠ '.') :
    readFraction (cs ++ rest) = .ok (f, rest) := by
  cases h with
  | absent =>
    unfold readFraction
    split
    next heq => exact absurd rfl (noPoint '.' (by rw [show rest = _ from heq]; rfl))
    next => rfl
  | present digits =>
    change (someDigits (_ ++ rest) >>= fun p => _) = _
    rw [digits.read ends]
    rfl

theorem Fraction.noDigit {f : Option (List Char)} {cs : List Char} (h : Fraction f cs)
    (ends : NoDigit rest) : NoDigit (cs ++ rest) := by
  cases h with
  | absent => exact ends
  | present => exact fun c hc => by cases hc; rfl

theorem Exponent.read {e : Option (Bool × List Char)} {cs : List Char} (h : Exponent e cs)
    (hr : Stops rest) : readExponent (cs ++ rest) = .ok (e, rest) := by
  have ends : NoDigit rest := fun c hc => (hr.mark hc).1
  cases h with
  | absent =>
    cases rest with
    | nil => rfl
    | cons c cs =>
      obtain ⟨-, -, small, large⟩ := hr.mark (c := c) rfl
      exact if_neg (not_or.2 ⟨small, large⟩)
  | @present mark isNegative sign digits marked signed h =>
    have read := h.read ends
    cases signed with
    | plus | minus =>
      exact (if_pos marked).trans (bind_eq_ok_iff.2 ⟨_, read, rfl⟩)
    | implied =>
      obtain ⟨c, cs, rfl, digit⟩ := h.exists_first
      change (if mark = 'e' ∨ mark = 'E' then _ else _) = _
      rw [if_pos marked]
      split
      next heq => cases heq; cases digit
      next heq => cases heq; cases digit
      next => exact bind_eq_ok_iff.2 ⟨_, read, rfl⟩

theorem Exponent.mark {e : Option (Bool × List Char)} {cs : List Char} (h : Exponent e cs)
    (hr : Stops rest) {c : Char} (hc : c ∈ (cs ++ rest).head?) : c.isDigit = false ∧ c ≠ '.' := by
  cases h with
  | absent => exact ⟨(hr.mark hc).1, (hr.mark hc).2.1⟩
  | present marked =>
    cases hc
    rcases marked with rfl | rfl <;> decide

theorem Numeral.read {l : Literal} {cs : List Char} (h : Numeral l cs) (hr : Stops rest) :
    readLiteral (cs ++ rest) = .ok (l, rest) := by
  obtain ⟨fraction, exponent, hf, he, rfl⟩ := h.parts
  obtain ⟨isNegative, whole, f, e⟩ := l
  have ends : NoDigit (exponent ++ rest) := fun c hc => (he.mark hr hc).1
  have unsigned : (readWhole (whole ++ (fraction ++ (exponent ++ rest))) >>= fun whole =>
      readFraction whole.2 >>= fun fraction => readExponent fraction.2 >>= fun exponent =>
        .ok ((⟨isNegative, whole.1, fraction.1, exponent.1⟩ : Literal), exponent.2)) =
          (.ok (⟨isNegative, whole, f, e⟩, rest) : Except Fault (Literal × List Char)) := by
    refine bind_eq_ok_iff.2 ⟨_, h.whole.readWhole h.unpadded (hf.noDigit ends), ?_⟩
    refine bind_eq_ok_iff.2 ⟨_, hf.read ends fun c hc => (he.mark hr hc).2, ?_⟩
    exact bind_eq_ok_iff.2 ⟨_, he.read hr, rfl⟩
  rw [List.append_assoc, List.append_assoc, List.append_assoc]
  cases isNegative with
  | true => exact unsigned
  | false =>
    obtain ⟨c, cs, hwhole, digit⟩ := h.whole.exists_first
    rw [if_neg Bool.false_ne_true, List.nil_append]
    unfold readLiteral
    split
    next heq =>
      split at heq
      next minus =>
        rw [show whole = c :: cs from hwhole] at minus
        cases minus
        cases digit
      next =>
        cases heq
        exact unsigned

theorem Numeral.skip {l : Literal} {cs : List Char} (h : Numeral l cs) (hr : Stops rest) :
    lenient.number (cs ++ rest) = .ok (Value.null, rest) := by
  simp only [lenient, h.read hr]

end

theorem numeral_toDigits (n : Nat) :
    Numeral ⟨false, Nat.toDigits 10 n, none, none⟩ (Nat.toDigits 10 n) where
  whole := ⟨Nat.toDigits_ne_nil, fun _ hc => Nat.isDigit_of_mem_toDigits (by decide) (by decide) hc⟩
  unpadded := by
    intro zero
    rcases Nat.eq_zero_or_pos n with rfl | positive
    · rfl
    · exact absurd zero (head?_toDigits positive)
  parts := ⟨[], [], .absent, .absent, by simp⟩

theorem number_toDigits {n : Nat} (h : Whole n) {rest : List Char} (hr : Stops rest) :
    strict.number (Nat.toDigits 10 n ++ rest) = .ok (Value.int n h, rest) := by
  -- The value of the digits alone is known.
  have alone := number_int h
  rw [show (toString (n : Int)).toList = Nat.toDigits 10 n from Nat.toList_repr] at alone
  obtain ⟨⟨l, left⟩, read, value⟩ := bind_eq_ok_iff.1 alone
  have digits := (numeral_toDigits n).read stops_nil
  rw [List.append_nil, read] at digits
  cases digits
  refine bind_eq_ok_iff.2 ⟨_, (numeral_toDigits n).read hr, ?_⟩
  dsimp only at value ⊢
  split at value
  next heq =>
    cases value
    rfl
  next => cases value

/-! ### Texts -/

theorem Hex.value {n : Nat} {c : Char} (h : Hex n c) : Text.hexValue? c = some n := by
  have all_digits : ∀ m < 16, Text.hexValue? (Nat.digitChar m) = some m ∧
      Text.hexValue? (Nat.digitChar m).toUpper = some m := by decide
  obtain ⟨small, rfl | rfl⟩ := h
  · exact (all_digits n small).1
  · exact (all_digits n small).2

section

variable {lenient : Bool} {n : Nat} {c : Char} {quad : List Char}

theorem Quad.hasFourBytes (h : Quad n quad) (cs : List Char) : hasFourBytes (quad ++ cs) = true := by
  cases h with
  | @mk k l m n a b c d =>
    have ha := a.utf8Size_pos
    have hb := b.utf8Size_pos
    have hc := c.utf8Size_pos
    have hd := d.utf8Size_pos
    refine decide_eq_true (p := 4 ≤ a.utf8Size + (b.utf8Size + (c.utf8Size + (d.utf8Size + 0)))) ?_
    omega

theorem Quad.exists_last (h : Quad n quad) : ∃ sofar d digit, n = 16 * sofar + d ∧
    Text.hexValue? digit = some d ∧ ∀ lenient high acc cs, readText lenient (.hex 3 0 high) acc
      (quad ++ cs) = readText lenient (.hex 0 sofar high) acc (digit :: cs) := by
  cases h with
  | mk first second third fourth =>
    refine ⟨_, _, _, rfl, fourth.value, fun lenient high acc cs => ?_⟩
    rw [List.cons_append, readText, first.value]
    dsimp only
    rw [List.cons_append, readText, second.value]
    dsimp only
    rw [List.cons_append, readText, third.value, Nat.mul_zero, Nat.zero_add]
    rfl

theorem Quad.ends (h : Quad n quad) {high : Option Nat} (closes : closeHex n high = some (.inl c))
    (acc cs : List Char) : readText false (.hex 3 0 high) acc (quad ++ cs) =
      readText false .plain (c :: acc) cs := by
  obtain ⟨sofar, d, digit, rfl, value, read⟩ := h.exists_last
  simp only [read, readText, value, closes, Bool.false_eq_true, if_false]

theorem Quad.begins (h : Quad n quad) {half : Nat} (opens : closeHex n none = some (.inr half))
    (acc cs : List Char) : readText false (.hex 3 0 none) acc (quad ++ cs) =
      readText false (.backslash half) acc cs := by
  obtain ⟨sofar, d, digit, rfl, value, read⟩ := h.exists_last
  simp only [read, readText, value, opens, Bool.false_eq_true, if_false]

theorem readText_quad (h : Quad n quad) (acc cs : List Char) :
    readText lenient .plain acc ('\\' :: 'u' :: (quad ++ cs)) =
      readText lenient (.hex 3 0 none) acc (quad ++ cs) :=
  if_pos (h.hasFourBytes cs)

theorem readText_named {letter : Char} (h : Named letter c) (acc cs : List Char) :
    readText lenient .plain acc ('\\' :: letter :: cs) = readText lenient .plain (c :: acc) cs := by
  cases h <;> rfl

theorem readText_plain (shown : 32 ≤ c.toNat) (noQuote : c ≠ '"') (noBackslash : c ≠ '\\')
    (acc cs : List Char) :
    readText lenient .plain acc (c :: cs) = readText lenient .plain (c :: acc) cs := by
  rw [readText, if_neg noQuote, if_neg noBackslash, if_neg (Nat.not_lt.2 shown)]

theorem closeHex_toNat (c : Char) : closeHex c.toNat none = some (.inl c) := by
  have apart : isTrailing c.toNat = false ∧ isLeading c.toNat = false := by
    have valid : c.toNat < 0xd800 ∨ 0xdfff < c.toNat ∧ c.toNat < 0x110000 := c.valid
    simp only [isTrailing, isLeading, Bool.and_eq_false_iff, decide_eq_false_iff_not]
    omega
  rw [closeHex, apart.1, apart.2, Char.ofNat_toNat]
  rfl

/-- A character is read as itself, however it is written. -/
theorem Spelling.read {part : List Char} (h : Spelling c part) (acc cs : List Char) :
    readText false .plain acc (part ++ cs) = readText false .plain (c :: acc) cs := by
  cases h with
  | plain shown noQuote noBackslash => exact readText_plain shown noQuote noBackslash acc cs
  | named h => exact readText_named h acc cs
  | numbered h => exact (readText_quad h acc cs).trans (h.ends (closeHex_toNat c) acc cs)
  | @paired _ m n high low hm hn value leading trailing =>
    have opens : closeHex (0xd800 + m) none = some (.inr (0xd800 + m)) := by
      have half : isTrailing (0xd800 + m) = false ∧ isLeading (0xd800 + m) = true := by
        simp only [isTrailing, isLeading, Bool.and_eq_false_iff, Bool.and_eq_true,
          decide_eq_false_iff_not, decide_eq_true_eq]
        omega
      rw [closeHex, half.1, half.2]
      rfl
    have closes : closeHex (0xdc00 + n) (some (0xd800 + m)) = some (.inl c) := by
      have half : isTrailing (0xdc00 + n) = true := by
        simp only [isTrailing, Bool.and_eq_true, decide_eq_true_eq]
        omega
      have joined : joinSurrogates (0xd800 + m) (0xdc00 + n) = c := by
        rw [joinSurrogates, Nat.add_sub_cancel_left, Nat.add_sub_cancel_left, Nat.mul_comm,
          Nat.add_comm, ← Nat.add_assoc, ← value, Char.ofNat_toNat]
      rw [closeHex, half, joined]
      rfl
    have second : readText false (.backslash (0xd800 + m)) acc ('\\' :: 'u' :: (low ++ cs)) =
        readText false .plain (c :: acc) cs :=
      (if_pos (trailing.hasFourBytes cs)).trans (trailing.ends closes acc cs)
    rw [List.cons_append, List.cons_append, List.append_assoc]
    exact (readText_quad leading acc _).trans ((leading.begins opens acc _).trans second)

theorem Quad.skip (h : Quad n quad) (acc cs : List Char) :
    readText true .plain acc ('\\' :: 'u' :: (quad ++ cs)) = readText true .plain acc cs := by
  obtain ⟨sofar, d, digit, rfl, value, read⟩ := h.exists_last
  refine (readText_quad h acc cs).trans ?_
  simp only [read, readText, value, if_true]

theorem Mark.read {mark : List Char} (h : Mark mark) (acc : List Char) :
    ∃ acc', ∀ cs, readText true .plain acc (mark ++ cs) = readText true .plain acc' cs := by
  cases h with
  | half h => exact ⟨acc, h.skip acc⟩
  | @whole c _ h =>
    cases h with
    | plain shown noQuote noBackslash => exact ⟨c :: acc, readText_plain shown noQuote noBackslash acc⟩
    | named h => exact ⟨c :: acc, readText_named h acc⟩
    | numbered h => exact ⟨acc, h.skip acc⟩
    | paired _ _ _ leading trailing =>
      refine ⟨acc, fun cs => ?_⟩
      rw [List.cons_append, List.cons_append, List.append_assoc]
      exact (leading.skip acc _).trans (trailing.skip acc cs)

end

theorem readText_parts {cs : List Char} {parts : List (List Char)}
    (spelled : List.Forall₂ Spelling cs parts) (acc rest : List Char) :
    readText false .plain acc (parts.flatten ++ '"' :: rest) =
      .ok (String.ofList (acc.reverse ++ cs), rest) := by
  induction spelled generalizing acc with
  | nil =>
    rw [List.append_nil]
    rfl
  | cons first _ ih =>
    rw [List.flatten_cons, List.append_assoc, first.read, ih, List.reverse_cons, List.append_assoc,
      List.singleton_append]

theorem readText_marks {marks : List (List Char)} (h : ∀ m ∈ marks, Mark m) (acc : List Char) :
    ∃ s, ∀ rest, readText true .plain acc (marks.flatten ++ '"' :: rest) = .ok (s, rest) := by
  induction marks generalizing acc with
  | nil => exact ⟨_, fun _ => rfl⟩
  | cons mark marks ih =>
    obtain ⟨first, others⟩ := List.forall_mem_cons.1 h
    obtain ⟨acc', read⟩ := first.read acc
    obtain ⟨s, more⟩ := ih others acc'
    refine ⟨s, fun rest => ?_⟩
    rw [List.flatten_cons, List.append_assoc, read, more]

theorem Spelled.read {s : String} {cs : List Char} (h : Spelled s cs) :
    ∃ body, cs = '"' :: body ∧ ∀ rest, strict.text (body ++ rest) = .ok (s, rest) := by
  obtain ⟨parts, spelled, rfl⟩ := h
  refine ⟨_, rfl, fun rest => ?_⟩
  have read := readText_parts spelled [] rest
  rwa [List.reverse_nil, List.nil_append, String.ofList_toList, ← List.singleton_append,
    ← List.append_assoc] at read

theorem Quoted.read {cs : List Char} (h : Quoted cs) :
    ∃ s body, cs = '"' :: body ∧ ∀ rest, lenient.text (body ++ rest) = .ok (s, rest) := by
  obtain ⟨marks, marked, rfl⟩ := h
  obtain ⟨s, read⟩ := readText_marks marked []
  refine ⟨s, _, rfl, fun rest => ?_⟩
  have read := read rest
  rwa [← List.singleton_append, ← List.append_assoc] at read

end Courier.Json
