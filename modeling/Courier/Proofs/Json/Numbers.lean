import Courier.Proofs.Decimal.Shortest
import Courier.Proofs.Json.Scanning

/-! Floats as they are written. Whichever layout it has, the text of a finite float is a number with a
point or an exponent, and such a number is read as a float. Digits are read in float arithmetic, which
rounds, so that this need not be the float that was written. -/
namespace Courier.Json

open Decimal (Layout)

/-! ### Values -/

theorem absorb_fst_lt {cs : List Char} {n : Nat} (fits : n < UInt64.size) : (absorb n cs).1 < UInt64.size := by
  induction cs generalizing n with
  | nil => exact fits
  | cons c cs ih =>
    unfold absorb
    split
    next more => exact ih more
    · exact fits

theorem length_absorb_snd_le (cs : List Char) (n : Nat) : (absorb n cs).2.length ≤ cs.length := by
  induction cs generalizing n with
  | nil => exact le_refl _
  | cons c cs ih =>
    unfold absorb
    split
    · exact (ih _).trans (Nat.le_succ _)
    · exact le_refl _

theorem digitValue_le {c : Char} (digit : c.isDigit = true) : digitValue c ≤ 9 := by
  have bounds : c.toNat ≤ 57 := (Char.isDigit_iff_toNat.1 digit).2
  unfold digitValue
  omega

theorem Literal.exists_sign {l : Literal} {o : Option Float}
    (h : ∃ y, o = some y ∧ y.isFinite = true) : ∃ y, o.map l.sign = some y ∧ y.isFinite = true := by
  obtain ⟨y, rfl, finite⟩ := h
  refine ⟨_, rfl, ?_⟩
  unfold sign
  split
  · exact Decimal.isFinite_neg finite
  · exact finite

theorem Literal.exists_toFloat_of_fraction {l : Literal} {c : Char} {cs : List Char}
    (small : Nat.ofDigitChars 10 l.whole 0 < 10 ^ 17) (fraction : l.fraction = some (c :: cs))
    (digit : c.isDigit = true) (plain : l.exponent = none) :
    ∃ y, l.toFloat? = some y ∧ y.isFinite = true := by
  have whole := @absorb_digits l.whole 0 (small.trans (by decide))
  have first := digitValue_le digit
  have size : UInt64.size = 18446744073709551616 := rfl
  have more : 10 * Nat.ofDigitChars 10 l.whole 0 + digitValue c < UInt64.size := by omega
  unfold toFloat?
  rw [whole, fraction, plain]
  simp only [Option.getD_some, absorb, if_pos more]
  have fits := @absorb_fst_lt cs _ more
  have unread := length_absorb_snd_le cs (10 * Nat.ofDigitChars 10 l.whole 0 + digitValue c)
  generalize absorb _ cs = read at fits unread ⊢
  refine exists_sign (Decimal.exists_scale fits fun nonneg => absurd nonneg ?_)
  rw [List.length_cons]
  simp only [List.length_nil, Int.ofNat_eq_natCast]
  omega

theorem Literal.exists_toFloat_of_exponent {l : Literal} {isNegative : Bool} {ds : List Char}
    (fits : Nat.ofDigitChars 10 (l.whole ++ l.fraction.getD []) 0 < UInt64.size)
    (exponent : l.exponent = some (isNegative, ds))
    (scaled : ∃ y, scale? (Nat.ofDigitChars 10 (l.whole ++ l.fraction.getD []) 0)
      ((if isNegative then -(Nat.ofDigitChars 10 ds 0 : Int) else Nat.ofDigitChars 10 ds 0) -
        (l.fraction.getD []).length) = some y ∧ y.isFinite = true) :
    ∃ y, l.toFloat? = some y ∧ y.isFinite = true := by
  rw [Nat.ofDigitChars_append] at fits scaled
  have whole : Nat.ofDigitChars 10 l.whole 0 < UInt64.size := by
    refine Nat.lt_of_le_of_lt ?_ fits
    rw [Nat.ofDigitChars_eq_ofDigitChars_zero (l := l.fraction.getD [])]
    exact Nat.le_trans (Nat.le_mul_of_pos_left _ (Nat.pow_pos (by decide))) (Nat.le_add_right _ _)
  have shift : (ds.foldl (fun e d => 10 * e + digitValue d) 0 : Nat) = Nat.ofDigitChars 10 ds 0 :=
    Nat.ofDigitChars_eq_foldl.symm
  unfold toFloat?
  rw [absorb_digits whole]
  dsimp only
  rw [absorb_digits fits, exponent]
  dsimp only
  rw [shift]
  refine exists_sign ?_
  rwa [List.length_nil, Nat.sub_zero, Int.ofNat_eq_natCast, Int.ofNat_eq_natCast, Nat.cast_zero, zero_sub,
    neg_add_eq_sub]

def ReadsAsFloat (cs : List Char) : Prop :=
  ∃ y : Float, y.isFinite = true ∧ strict.number cs = .ok (Value.float y, [])

theorem Literal.toInt?_eq_none {l : Literal} (pointed : l.fraction ≠ none ∨ l.exponent ≠ none) :
    l.toInt? = none := by
  unfold toInt?
  split
  next fraction exponent _ => exact absurd pointed (by simp [fraction, exponent])
  · rfl

theorem Numeral.readsAsFloat {l : Literal} {cs : List Char} (h : Numeral l cs)
    (pointed : l.fraction ≠ none ∨ l.exponent ≠ none)
    (scaled : ∃ y, l.toFloat? = some y ∧ y.isFinite = true) : ReadsAsFloat cs := by
  obtain ⟨y, scaled, finite⟩ := scaled
  have read := h.read stops_nil
  rw [List.append_nil] at read
  refine ⟨y, finite, bind_eq_ok_iff.2 ⟨_, read, ?_⟩⟩
  dsimp only
  rw [Literal.toValue?, Literal.toInt?_eq_none pointed, scaled]
  rfl

/-! ### Layouts -/

theorem ofDigitChars_lt {cs : List Char} (digits : ∀ c ∈ cs, c.isDigit = true) :
    Nat.ofDigitChars 10 cs 0 < 10 ^ cs.length := by
  induction cs with
  | nil => exact Nat.one_pos
  | cons c cs ih =>
    have first : c.toNat - '0'.toNat ≤ 9 := digitValue_le (digits c List.mem_cons_self)
    have behind := ih fun d hd => digits d (List.mem_cons_of_mem _ hd)
    rw [Nat.ofDigitChars_cons, Nat.ofDigitChars_eq_ofDigitChars_zero, List.length_cons, Nat.pow_succ,
      Nat.mul_zero, Nat.zero_add]
    have := Nat.mul_le_mul_left (10 ^ cs.length) first
    omega

theorem digits_toDigits (n : Nat) : Digits (Nat.toDigits 10 n) :=
  ⟨Nat.toDigits_ne_nil, fun _ hc => Nat.isDigit_of_mem_toDigits (by decide) (by decide) hc⟩

theorem isDigit_of_mem_zeros {n : Nat} : ∀ c ∈ List.replicate n '0', c.isDigit = true := fun c hc => by
  rw [(List.mem_replicate.1 hc).2]
  rfl

variable {isNegative : Bool} {d : Decimal.Digits}

def signText (isNegative : Bool) : List Char := if isNegative then ['-'] else []

theorem readsAsFloat_of_point {whole fraction : List Char} (digits : Digits whole)
    (unpadded : whole.head? = some '0' → whole = ['0']) (short : whole.length ≤ 16)
    (fractional : Digits fraction) :
    ReadsAsFloat (signText isNegative ++ (whole ++ '.' :: fraction)) := by
  obtain ⟨c, cs, rfl, digit⟩ := fractional.exists_first
  have numeral : Numeral ⟨isNegative, whole, some (c :: cs), none⟩
      (signText isNegative ++ (whole ++ '.' :: c :: cs)) :=
    ⟨digits, unpadded, _, _, .present fractional, .absent, by rw [List.append_nil, signText]⟩
  have small : Nat.ofDigitChars 10 whole 0 < 10 ^ 17 :=
    (ofDigitChars_lt digits.all).trans_le (Nat.pow_le_pow_right (by decide) (by omega))
  exact numeral.readsAsFloat (.inl (Option.some_ne_none _))
    (Literal.exists_toFloat_of_fraction small rfl digit rfl)

theorem toList_toString (n : Nat) : (toString n).toList = Nat.toDigits 10 n := Nat.toList_repr

theorem length_toString (n : Nat) : (toString n).length = (Nat.toDigits 10 n).length := by
  rw [← toList_toString, String.length_toList]

theorem head?_toDigits_append {n : Nat} (positive : 0 < n) (cs : List Char) :
    (Nat.toDigits 10 n ++ cs).head? ≠ some '0' := by
  rw [List.head?_append_of_ne_nil _ Nat.toDigits_ne_nil]
  exact head?_toDigits positive

theorem readsAsFloat_positional (some_digit : 0 < d.value ∨ d.exponent ≤ 0)
    (short : Int.ofNat (toString d.value).length + d.exponent ≤ 16) :
    ReadsAsFloat (signText isNegative ++ (Layout.positional (toString d.value) d.exponent).toList) := by
  have digits := digits_toDigits d.value
  rw [length_toString, Int.ofNat_eq_natCast] at short
  unfold Layout.positional Layout.zeros
  rw [length_toString, Int.ofNat_eq_natCast]
  dsimp only
  split
  next whole =>
    have text : (toString d.value ++ String.ofList (List.replicate d.exponent.toNat '0') ++ ".0").toList =
        (Nat.toDigits 10 d.value ++ List.replicate d.exponent.toNat '0') ++ '.' :: ['0'] := by
      simp only [String.toList_append, String.toList_ofList, toList_toString]
      rfl
    rw [text]
    refine readsAsFloat_of_point ?_ (fun padded => ?_) ?_ (by decide)
    · exact ⟨List.append_ne_nil_of_left_ne_nil digits.nonempty _,
        List.forall_mem_append.2 ⟨digits.all, isDigit_of_mem_zeros⟩⟩
    · rcases Nat.eq_zero_or_pos d.value with zero | positive
      · have none : d.exponent = 0 := by omega
        rw [zero, none]
        rfl
      · exact absurd padded (head?_toDigits_append positive _)
    · rw [List.length_append, List.length_replicate]
      omega
  split
  next inside =>
    generalize hp : ((Nat.toDigits 10 d.value).length + d.exponent).toNat = p
    have front : Digits ((Nat.toDigits 10 d.value).take p) :=
      ⟨List.ne_nil_of_length_pos (by rw [List.length_take]; omega),
        fun c hc => digits.all c (List.mem_of_mem_take hc)⟩
    have behind : Digits ((Nat.toDigits 10 d.value).drop p) :=
      ⟨List.ne_nil_of_length_pos (by rw [List.length_drop]; omega),
        fun c hc => digits.all c (List.mem_of_mem_drop hc)⟩
    have text : (String.ofList ((toString d.value).toList.take p) ++ "." ++
        String.ofList ((toString d.value).toList.drop p)).toList =
          (Nat.toDigits 10 d.value).take p ++ '.' :: (Nat.toDigits 10 d.value).drop p := by
      simp only [String.toList_append, String.toList_ofList, toList_toString, List.append_assoc]
      rfl
    rw [text]
    refine readsAsFloat_of_point front (fun padded => ?_) ?_ behind
    · have positive : 0 < d.value := by
        refine Nat.pos_of_ne_zero fun zero => ?_
        rw [zero, Nat.toDigits_zero, List.length_singleton] at inside
        omega
      rw [List.head?_take, if_neg (by omega)] at padded
      exact absurd padded (head?_toDigits positive)
    · rw [List.length_take]
      omega
  next outside =>
    generalize (-((Nat.toDigits 10 d.value).length + d.exponent)).toNat = n
    have text : ("0." ++ String.ofList (List.replicate n '0') ++ toString d.value).toList =
        ['0'] ++ '.' :: (List.replicate n '0' ++ Nat.toDigits 10 d.value) := by
      simp only [String.toList_append, String.toList_ofList, toList_toString, List.append_assoc]
      rfl
    rw [text]
    exact readsAsFloat_of_point (by decide) (fun _ => rfl) (by decide)
      ⟨List.append_ne_nil_of_right_ne_nil _ digits.nonempty,
        List.forall_mem_append.2 ⟨isDigit_of_mem_zeros, digits.all⟩⟩

theorem readsAsFloat_scientific {leading : Int} (few : d.value < 2 ^ 64)
    (place : leading = Int.ofNat (toString d.value).length - 1 + d.exponent)
    (scaled : ∃ y, scale? d.value d.exponent = some y ∧ y.isFinite = true) :
    ReadsAsFloat (signText isNegative ++ (Layout.scientific (toString d.value) leading).toList) := by
  obtain ⟨c, rest, written, first⟩ := (digits_toDigits d.value).exists_first
  have digits : ∀ d ∈ rest, d.isDigit = true := fun e he =>
    (digits_toDigits d.value).all e (written ▸ List.mem_cons_of_mem _ he)
  have value : Nat.ofDigitChars 10 ([c] ++ rest) 0 = d.value := by
    rw [List.singleton_append, ← written]
    exact Nat.ofDigitChars_ten_toDigits
  have length : Int.ofNat (toString d.value).length = rest.length + 1 := by
    rw [length_toString, written]
    rfl
  obtain ⟨fraction, text, mantissa, same⟩ : ∃ fraction text, Fraction fraction text ∧
      fraction.getD [] = rest ∧ (Layout.scientific (toString d.value) leading).toList =
        [c] ++ (text ++ 'e' :: ([if leading < 0 then '-' else '+'] ++ Nat.toDigits 10 leading.natAbs)) := by
    have sign : (if leading < 0 then "-" else "+").toList = [if leading < 0 then '-' else '+'] := by
      split <;> rfl
    have mark : "e".toList = ['e'] := rfl
    unfold Layout.scientific
    simp only [toList_toString, written, String.toList_append, sign, mark]
    cases rest with
    | nil => exact ⟨none, [], .absent, rfl, by simp [written]⟩
    | cons c' rest => exact ⟨some (c' :: rest), _, .present ⟨List.cons_ne_nil _ _, digits⟩, rfl, by simp⟩
  have signed : Sign (decide (leading < 0)) [if leading < 0 then '-' else '+'] := by
    by_cases negative : leading < 0
    · rw [if_pos negative, decide_eq_true negative]
      exact .minus
    · rw [if_neg negative, decide_eq_false negative]
      exact .plus
  have numeral : Numeral ⟨isNegative, [c], fraction, some (decide (leading < 0), Nat.toDigits 10 leading.natAbs)⟩
      (signText isNegative ++ (Layout.scientific (toString d.value) leading).toList) :=
    ⟨⟨List.cons_ne_nil _ _, List.forall_mem_singleton.2 first⟩, fun padded => congrArg ([·]) (Option.some.inj padded),
      text, _, mantissa, .present (.inl rfl) signed (digits_toDigits _), by rw [same.2, signText]⟩
  have exponent : (if decide (leading < 0) = true then -(leading.natAbs : Int) else leading.natAbs) - rest.length =
      d.exponent := by
    simp only [decide_eq_true_eq]
    split <;> omega
  refine numeral.readsAsFloat (.inr (Option.some_ne_none _)) (Literal.exists_toFloat_of_exponent ?_ rfl ?_)
  · dsimp only
    rw [same.1, value]
    exact few
  · dsimp only
    rw [same.1, value, Nat.ofDigitChars_ten_toDigits, exponent]
    exact scaled

theorem readsAsFloat_magnitude {x : Float} (finite : x.isFinite = true) :
    ReadsAsFloat (signText isNegative ++ (floatLayout.magnitude x).toList) := by
  obtain ⟨some_digit, few, scaled⟩ := Decimal.shortest_of_isFinite finite
  change ReadsAsFloat (signText isNegative ++ (let d := (Decimal.Binary.ofBits x.toBits).shortest .toEven
    if floatLayout.isPositional (Int.ofNat (toString d.value).length - 1 + d.exponent) then
      Layout.positional (toString d.value) d.exponent
    else Layout.scientific (toString d.value)
      (Int.ofNat (toString d.value).length - 1 + d.exponent)).toList)
  generalize (Decimal.Binary.ofBits x.toBits).shortest .toEven = d at some_digit few scaled
  dsimp only
  split
  next positional =>
    have bounds := Bool.and_eq_true_iff.1 positional
    have high : Int.ofNat (toString d.value).length - 1 + d.exponent < 16 := of_decide_eq_true bounds.2
    exact readsAsFloat_positional some_digit (by omega)
  next => exact readsAsFloat_scientific few rfl scaled

/-- The text of every finite float is read as a finite float. -/
theorem readsAsFloat_render {x : Float} (finite : x.isFinite = true) :
    ReadsAsFloat (floatLayout.render x).toList := by
  have number : x.isNaN = false := by
    change x.toModel.unpack.isFinite = true at finite
    change x.toModel.unpack.isNaN = false
    cases unpacked : x.toModel.unpack <;> rw [unpacked] at finite <;> first | rfl | cases finite
  have sign : (if x.toBits >>> 63 = 0 then "" else "-").toList =
      signText (decide ¬x.toBits >>> 63 = 0) := by
    unfold signText
    split <;> simp [*]
  unfold Layout.render
  rw [number, if_neg Bool.false_ne_true, Decimal.isInf_eq_false finite]
  dsimp only
  rw [if_neg Bool.false_ne_true, String.toList_append, sign]
  split
  · have text : "0.0".toList = ['0'] ++ '.' :: ['0'] := rfl
    rw [text]
    exact readsAsFloat_of_point (by decide) (fun _ => rfl) (by decide) (by decide)
  · exact readsAsFloat_magnitude finite

end Courier.Json
