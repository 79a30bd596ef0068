import Courier.Json.Leaves
import Mathlib.Algebra.Order.Field.Power
import Mathlib.Tactic.Linarith
import Mathlib.Tactic.NormNum
import Mathlib.Tactic.Positivity
import Mathlib.Tactic.Ring

/-! Arithmetic on floats that are far enough from the limit. Products and quotients are rounded to one
of the two mantissas around them, so that a product exceeds the product of bounds by little, and what is
scaled by powers of ten stays finite. -/
namespace Courier.Decimal

open Float.Model Float.Model.UnpackedFloat

/-! ### Rounding -/

theorem mantissa_shiftRight (em : ExtendedMantissa) (k : Nat) :
    (em >>> k).mantissa = em.mantissa / 2 ^ k := by
  change (k.repeat ExtendedMantissa.shiftRightOne em).mantissa = _
  induction k with
  | zero => rw [Nat.repeat, pow_zero, Nat.div_one]
  | succ k ih =>
    rw [pow_succ, ← Nat.div_div_eq_div_mul, ← ih]
    rfl

theorem roundedMantissa_bounds (em : ExtendedMantissa) :
    em.mantissa ≤ em.roundedMantissa ∧ em.roundedMantissa ≤ em.mantissa + 1 := by
  obtain ⟨m, round, sticky⟩ := em
  cases round <;> cases sticky <;>
    simp only [ExtendedMantissa.roundedMantissa, ExtendedMantissa.accuracy,
      Accuracy.roundToNearestEven] <;> omega

def target (m : Nat) (e : Int) : Int := max (m.log2 + e - 52) (-1074)

theorem targetExponent_eq_max (total : Int) :
    Format.binary64.targetExponent total = max (total - 53) (-1074) := rfl

theorem targetExponent_eq (m : Nat) (e : Int) :
    Format.binary64.targetExponent (totalExponent m e) = target m e := by
  rw [targetExponent_eq_max, totalExponent, target]
  omega

theorem shiftToTargetExponent_eq (m : Nat) (e : Int) (accuracy : Accuracy) :
    shiftToTargetExponent Format.binary64 m e accuracy =
      (ExtendedMantissa.ofMantissaAndAccuracy m accuracy >>> (target m e - e).toNat,
        e + (target m e - e).toNat) := by
  rw [shiftToTargetExponent, targetExponent_eq]
  rfl

theorem mantissa_ofMantissaAndAccuracy (m : Nat) (accuracy : Accuracy) :
    (ExtendedMantissa.ofMantissaAndAccuracy m accuracy).mantissa = m := by
  unfold ExtendedMantissa.ofMantissaAndAccuracy
  split <;> rfl

theorem shiftToTargetExponent_rounded {r : Nat} {e : Int} (short : r ≤ 2 ^ 53) (least : -1074 ≤ e) :
    let final := shiftToTargetExponent Format.binary64 r e .exact
    (final.1.mantissa = r ∧ final.2 = e ∧ r < 2 ^ 53) ∨
      (final.1.mantissa = 2 ^ 52 ∧ final.2 = e + 1 ∧ r = 2 ^ 53) := by
  rw [shiftToTargetExponent_eq]
  dsimp only
  rw [mantissa_shiftRight, mantissa_ofMantissaAndAccuracy]
  rcases Nat.lt_or_eq_of_le short with below | rfl
  · have log : r.log2 ≤ 52 := by
      by_cases zero : r = 0
      · rw [zero]
        decide
      · have := (Nat.log2_lt zero).2 below
        omega
    have none : (target r e - e).toNat = 0 := by
      unfold target
      omega
    rw [none]
    exact .inl ⟨Nat.div_one r, by simp, below⟩
  · have one : (target (2 ^ 53) e - e).toNat = 1 := by
      unfold target
      rw [Nat.log2_two_pow]
      omega
    rw [one]
    exact .inr ⟨rfl, rfl, rfl⟩

theorem log2_le_of_shift (m : Nat) (e : Int) : m.log2 ≤ 52 + (target m e - e).toNat := by
  unfold target
  omega

theorem div_lt_of_log2_le {m k : Nat} (log : m.log2 ≤ 52 + k) : m / 2 ^ k < 2 ^ 53 := by
  rw [Nat.div_lt_iff_lt_mul (Nat.two_pow_pos k), ← Nat.pow_add]
  exact Nat.lt_of_lt_of_le Nat.lt_log2_self (Nat.pow_le_pow_right (by decide) (by omega))

/-- A mantissa is rounded to one of the two whole numbers around it. -/
theorem roundWithAccuracy_cases (s : Sign) (m : Nat) (e : Int) (accuracy : Accuracy) :
    ∃ r k, k = (target m e - e).toNat ∧ m / 2 ^ k ≤ r ∧ r ≤ m / 2 ^ k + 1 ∧
      ((r = 0 ∧ roundWithAccuracy Format.binary64 s m e accuracy = .zero s) ∨
        (∃ positive, r < 2 ^ 53 ∧
          roundWithAccuracy Format.binary64 s m e accuracy = .finite s r (e + k) positive) ∨
        (∃ positive, r = 2 ^ 53 ∧
          roundWithAccuracy Format.binary64 s m e accuracy = .finite s (2 ^ 52) (e + k + 1) positive)) := by
  have bounds := roundedMantissa_bounds
    (ExtendedMantissa.ofMantissaAndAccuracy m accuracy >>> (target m e - e).toNat)
  rw [mantissa_shiftRight, mantissa_ofMantissaAndAccuracy] at bounds
  have below := div_lt_of_log2_le (log2_le_of_shift m e)
  have least : -1074 ≤ e + (target m e - e).toNat := by
    unfold target
    omega
  unfold roundWithAccuracy
  rw [shiftToTargetExponent_eq m e accuracy]
  dsimp only
  generalize (ExtendedMantissa.ofMantissaAndAccuracy m accuracy >>> (target m e - e).toNat).roundedMantissa = r
    at bounds ⊢
  refine ⟨r, _, rfl, bounds.1, bounds.2, ?_⟩
  rcases shiftToTargetExponent_rounded (r := r) (by omega) least with
    ⟨mantissa, exponent, short⟩ | ⟨mantissa, exponent, long⟩
  · by_cases zero : r = 0
    · exact .inl ⟨zero, dif_pos (mantissa.trans zero)⟩
    · refine .inr (.inl ⟨Nat.pos_of_ne_zero zero, short, ?_⟩)
      rw [dif_neg (fun h => zero (mantissa.symm.trans h)), finite.injEq]
      exact ⟨rfl, mantissa, exponent⟩
  · refine .inr (.inr ⟨by decide, long, ?_⟩)
    rw [dif_neg (fun h => absurd (mantissa.symm.trans h) (by decide)), finite.injEq]
    exact ⟨rfl, mantissa, exponent⟩

/-! ### Packing -/

/-- The mantissa of a float has 53 bits at most, and its exponent is not too great. -/
theorem bounds_of_unpack {x : Float.Model} {s : Sign} {m : Nat} {e : Int} {positive : 0 < m}
    (unpacked : x.unpack = .finite s m e positive) : m < 2 ^ 53 ∧ e ≤ 971 := by
  have fraction := (@unpackMantissa Format.binary64 x.toBits.toBitVec).isLt
  have exponent := (@unpackExponent Format.binary64 x.toBits.toBitVec).isLt
  unfold Float.Model.unpack UnpackedFloat.unpack at unpacked
  dsimp only at unpacked
  by_cases special : @unpackExponent Format.binary64 x.toBits.toBitVec = -1#_
  · rw [if_pos special] at unpacked
    by_cases none : @unpackMantissa Format.binary64 x.toBits.toBitVec = 0#_
    · rw [if_pos none] at unpacked
      cases unpacked
    · rw [if_neg none] at unpacked
      cases unpacked
  · have below : (@unpackExponent Format.binary64 x.toBits.toBitVec).toNat ≠ 2047 :=
      fun h => special (BitVec.eq_of_toNat_eq h)
    rw [if_neg special] at unpacked
    by_cases least : @unpackExponent Format.binary64 x.toBits.toBitVec = 0#_
    · rw [if_pos least] at unpacked
      by_cases none : @unpackMantissa Format.binary64 x.toBits.toBitVec = 0#_
      · rw [dif_pos none] at unpacked
        cases unpacked
      · rw [dif_neg none] at unpacked
        cases unpacked
        refine ⟨Nat.lt_trans fraction (by decide), ?_⟩
        rw [least]
        decide
    · rw [if_neg least] at unpacked
      cases unpacked
      constructor
      · rw [BitVec.toNat_append, ← Nat.shiftLeft_add_eq_or_of_lt fraction]
        change 2 ^ 52 + _ < 2 ^ 52 + 2 ^ 52
        exact Nat.add_lt_add_left fraction _
      · change _ - (1023 + 52 : Int) ≤ 971
        change _ < 2048 at exponent
        omega

theorem isFinite_of_unpack {x : Float} {u : UnpackedFloat} (unpacked : x.toModel.unpack = u)
    (finite : u.isFinite = true) : x.isFinite = true := by
  change x.toModel.unpack.isFinite = true
  rw [unpacked, finite]

theorem isFinite_pack_zero (s : Sign) : (Float.ofModel (.pack (.zero s))).isFinite = true := by
  cases s <;> decide +kernel

theorem isFinite_unpack_iff {b : BitVec Format.binary64.numBits} :
    (UnpackedFloat.unpack Format.binary64 b).isFinite = true ↔ unpackExponent b ≠ -1#_ := by
  unfold UnpackedFloat.unpack
  dsimp only
  by_cases special : unpackExponent b = -1#_
  · rw [if_pos special]
    refine iff_of_false ?_ (not_not.2 special)
    by_cases none : unpackMantissa b = 0#_
    · rw [if_pos none]
      exact Bool.false_ne_true
    · rw [if_neg none]
      exact Bool.false_ne_true
  · rw [if_neg special]
    refine iff_of_true ?_ special
    by_cases least : unpackExponent b = 0#_
    · rw [if_pos least]
      by_cases none : unpackMantissa b = 0#_
      · rw [dif_pos none]
        rfl
      · rw [dif_neg none]
        rfl
    · rw [if_neg least]
      rfl

theorem isFinite_pack {s : Sign} {m : Nat} {e : Int} {positive : 0 < m} (small : e ≤ 971) :
    (Float.ofModel (.pack (.finite s m e positive))).isFinite = true := by
  refine (isFinite_unpack_iff (b := UnpackedFloat.pack Format.binary64 (.finite s m e positive))).2 ?_
  have fits : ¬2 ^ Format.binary64.exponentBits ≤
      (e + Format.binary64.exponentBias + Format.binary64.mantissaBitsWithoutImplicit).toNat + 1 := by
    change ¬2048 ≤ (e + 1023 + 52).toNat + 1
    omega
  unfold UnpackedFloat.pack
  simp only [if_neg fits]
  split <;> rw [unpackExponent_packComponents]
  · intro h
    have := congrArg BitVec.toNat h
    change (e + 1023 + 52).toNat % 2048 = 2047 at this
    omega
  · decide

theorem ofBitVec_unpackSign (s : Sign) (e : BitVec 11) (m : BitVec 52) :
    Sign.ofBitVec (unpackSign (packComponents Format.binary64 s e m)) = s := by
  change Sign.ofBitVec ((s.toBitVec ++ e ++ m).extractLsb' 63 1) = s
  rw [BitVec.extractLsb'_append_eq_of_le (by decide), BitVec.extractLsb'_append_eq_of_le (by decide)]
  cases s <;> rfl

/-- What bits mean whose exponent is neither the least nor the greatest. -/
theorem exists_unpack {b : BitVec Format.binary64.numBits} (special : unpackExponent b ≠ -1#_)
    (least : unpackExponent b ≠ 0#_) : ∃ positive, UnpackedFloat.unpack Format.binary64 b =
      .finite (.ofBitVec (unpackSign b)) (1#1 ++ unpackMantissa b).toNat
        ((unpackExponent b).toNat - (1023 + 52)) positive := by
  have positive : 0 < (1#1 ++ unpackMantissa b).toNat := by
    rw [BitVec.toNat_append, ← Nat.shiftLeft_add_eq_or_of_lt (BitVec.isLt _)]
    exact Nat.add_pos_left (by decide) _
  refine ⟨positive, ?_⟩
  unfold UnpackedFloat.unpack
  dsimp only
  rw [if_neg special, if_neg least]
  rfl

/-- A float whose mantissa has all of its 53 bits is stored as it is. -/
theorem unpack_pack {s : Sign} {m : Nat} {e : Int} {positive : 0 < m} (long : 2 ^ 52 ≤ m)
    (short : m < 2 ^ 53) (least : -1074 ≤ e) (small : e ≤ 971) :
    (Float.Model.pack (.finite s m e positive)).unpack = .finite s m e positive := by
  have fits : ¬2 ^ Format.binary64.exponentBits ≤
      (e + Format.binary64.exponentBias + Format.binary64.mantissaBitsWithoutImplicit).toNat + 1 := by
    change ¬2048 ≤ (e + 1023 + 52).toNat + 1
    omega
  have log : m.log2 + 1 = Format.binary64.mantissaBits :=
    congrArg (· + 1) ((Nat.log2_eq_iff positive.ne').2 ⟨long, short⟩)
  have exponent : (BitVec.ofNat 11 (e + 1023 + 52).toNat).toNat = (e + 1075).toNat := by
    rw [BitVec.toNat_ofNat]
    omega
  have ordinary (b : BitVec 11) (h : (e + 1075).toNat ≠ b.toNat) :
      BitVec.ofNat 11 (e + 1023 + 52).toNat ≠ b := fun heq =>
    h (exponent.symm.trans (congrArg BitVec.toNat heq))
  have packed : UnpackedFloat.pack Format.binary64 (.finite s m e positive) =
      packComponents Format.binary64 s (BitVec.ofNat 11 (e + 1023 + 52).toNat) (BitVec.ofNat 52 m) := by
    unfold UnpackedFloat.pack
    dsimp only
    rw [if_neg fits, if_pos log]
    rfl
  obtain ⟨nonzero, unpacked⟩ := @exists_unpack (packComponents Format.binary64 s
      (BitVec.ofNat 11 (e + 1023 + 52).toNat) (BitVec.ofNat 52 m))
    (by rw [unpackExponent_packComponents]; exact ordinary _ (by change _ ≠ 2047; omega))
    (by rw [unpackExponent_packComponents]; exact ordinary _ (by change _ ≠ 0; omega))
  change UnpackedFloat.unpack Format.binary64 (UnpackedFloat.pack Format.binary64 _) = _
  rw [packed, unpacked, finite.injEq]
  refine ⟨ofBitVec_unpackSign _ _ _, ?_, ?_⟩
  · rw [unpackMantissa_packComponents, BitVec.toNat_append,
      ← Nat.shiftLeft_add_eq_or_of_lt (BitVec.isLt _), BitVec.toNat_ofNat]
    change 2 ^ 52 + m % 2 ^ 52 = m
    omega
  · rw [unpackExponent_packComponents, exponent]
    omega

/-! ### Magnitudes -/

/-- A positive float with all bits of its mantissa, from `2^b` up to `q`. -/
def Between (b : Int) (q : ℚ) (x : Float) : Prop :=
  ∃ m e positive, x.toModel.unpack = .finite .positive m e positive ∧ 2 ^ 52 ≤ m ∧ m < 2 ^ 53 ∧
    b ≤ e + 52 ∧ m * (2 : ℚ) ^ e ≤ q

/-- By how much rounding raises a number at most. -/
def slack : ℚ := 1 + 1 / 2 ^ 52

theorem between_pack {b : Int} {q : ℚ} {m : Nat} {e : Int} {positive : 0 < m} (long : 2 ^ 52 ≤ m)
    (short : m < 2 ^ 53) (nonneg : 0 ≤ b) (least : b ≤ e + 52) (value : m * (2 : ℚ) ^ e ≤ q)
    (small : q < 2 ^ 1024) : Between b q (.ofModel (.pack (.finite .positive m e positive))) := by
  have fits : (2 : ℚ) ^ (52 + e) < 2 ^ (1024 : Int) := by
    refine lt_of_le_of_lt (le_trans ?_ value) small
    rw [zpow_add₀ two_ne_zero]
    have long : ((2 ^ 52 : Nat) : ℚ) ≤ m := Nat.cast_le.2 long
    exact mul_le_mul_of_nonneg_right (by exact_mod_cast long) (by positivity)
  have := (zpow_lt_zpow_iff_right₀ (one_lt_two (α := ℚ))).1 fits
  exact ⟨m, e, positive, unpack_pack long short (by omega) (by omega), long, short, least, value⟩

theorem between_round {b : Int} {q : ℚ} {m : Nat} {e : Int} (long : 52 ≤ m.log2) (nonneg : 0 ≤ b)
    (least : b ≤ m.log2 + e) (value : m * (2 : ℚ) ^ e * slack ≤ q) (small : q < 2 ^ 1024) :
    Between b q (.ofModel (.pack (roundWithAccuracy Format.binary64 .positive m e .exact))) := by
  obtain ⟨r, k, hk, floor, ceil, rounded⟩ := roundWithAccuracy_cases .positive m e .exact
  have shift : (k : Int) = m.log2 - 52 := by
    unfold target at hk
    omega
  have nonzero : m ≠ 0 := by
    rintro rfl
    exact absurd long (by decide)
  have power : 2 ^ 52 * 2 ^ k ≤ m := by
    rw [← Nat.pow_add, show 52 + k = m.log2 by omega]
    exact Nat.log2_self_le nonzero
  have most : r * 2 ^ k ≤ m + 2 ^ k := by
    calc
      r * 2 ^ k ≤ (m / 2 ^ k + 1) * 2 ^ k := Nat.mul_le_mul_right _ ceil
      _ = m / 2 ^ k * 2 ^ k + 2 ^ k := Nat.succ_mul _ _
      _ ≤ m + 2 ^ k := Nat.add_le_add_right (Nat.div_mul_le_self m _) _
  have raised : r * (2 : ℚ) ^ (e + k) ≤ q := by
    have most : (r : ℚ) * 2 ^ k ≤ m + 2 ^ k := by exact_mod_cast most
    have power : (2 : ℚ) ^ 52 * 2 ^ k ≤ m := by exact_mod_cast power
    have most : (r : ℚ) * 2 ^ k ≤ m * slack := by
      unfold slack
      linarith
    calc
      r * (2 : ℚ) ^ (e + k) = r * 2 ^ k * 2 ^ e := by
        rw [zpow_add₀ two_ne_zero, zpow_natCast]
        ring
      _ ≤ m * slack * 2 ^ e := mul_le_mul_of_nonneg_right most (by positivity)
      _ = m * 2 ^ e * slack := mul_right_comm _ _ _
      _ ≤ q := value
  have enough : 2 ^ 52 ≤ r := le_trans ((Nat.le_div_iff_mul_le (Nat.two_pow_pos k)).2 power) floor
  rcases rounded with ⟨rfl, -⟩ | ⟨positive, short, rounded⟩ | ⟨positive, rfl, rounded⟩
  · exact absurd enough (by decide)
  · rw [rounded]
    exact between_pack enough short nonneg (by omega) raised small
  · rw [rounded]
    refine between_pack (le_refl _) (by decide) nonneg (by omega) (le_trans (le_of_eq ?_) raised) small
    rw [zpow_add₀ two_ne_zero]
    push_cast
    ring

theorem Between.isFinite {b : Int} {q : ℚ} {x : Float} (h : Between b q x) : x.isFinite = true := by
  obtain ⟨m, e, positive, unpacked, -⟩ := h
  exact isFinite_of_unpack unpacked rfl

theorem Between.mul {b c : Int} {p q r : ℚ} {x y : Float} (hx : Between b p x) (hy : Between c q y)
    (nonneg : 0 ≤ b + c) (value : p * q * slack ≤ r) (small : r < 2 ^ 1024) :
    Between (b + c) r (x * y) := by
  obtain ⟨m, e, positive, unpacked, long, -, least, value_x⟩ := hx
  obtain ⟨m', e', positive', unpacked', long', -, least', value_y⟩ := hy
  have product : x * y = .ofModel (.pack
      (roundWithAccuracy Format.binary64 .positive (m * m') (e + e') .exact)) := by
    change Float.ofModel (.pack (UnpackedFloat.mul Format.binary64 x.toModel.unpack y.toModel.unpack)) = _
    rw [unpacked, unpacked']
    rfl
  have power : 2 ^ 104 ≤ m * m' := le_trans (by decide) (Nat.mul_le_mul long long')
  have log : 104 ≤ (m * m').log2 := (Nat.le_log2 (Nat.mul_pos positive positive').ne').2 power
  rw [product]
  refine between_round (by omega) nonneg (by omega) (le_trans ?_ value) small
  have split : ((m * m' : Nat) : ℚ) * 2 ^ (e + e') = m * 2 ^ e * (m' * 2 ^ e') := by
    rw [zpow_add₀ two_ne_zero, Nat.cast_mul]
    ring
  rw [split]
  refine mul_le_mul_of_nonneg_right ?_ (by unfold slack; positivity)
  exact mul_le_mul value_x value_y (by positivity) (le_trans (by positivity) value_x)

/-! ### Whole numbers and powers of ten -/

theorem log2_shiftLeft {n : Nat} (positive : 0 < n) (k : Nat) : (n <<< k).log2 = n.log2 + k := by
  rw [Nat.shiftLeft_eq, Nat.log2_eq_iff (Nat.mul_pos positive (Nat.two_pow_pos k)).ne']
  constructor
  · rw [Nat.pow_add]
    exact Nat.mul_le_mul_right _ (Nat.log2_self_le positive.ne')
  · rw [Nat.add_right_comm, Nat.pow_add]
    exact Nat.mul_lt_mul_of_pos_right Nat.lt_log2_self (Nat.two_pow_pos k)

theorem shiftLeft_mul_zpow (n k : Nat) : ((n <<< k : Nat) : ℚ) * 2 ^ (-(k : Int)) = n := by
  rw [Nat.shiftLeft_eq, zpow_neg, zpow_natCast]
  push_cast
  exact mul_inv_cancel_right₀ (by positivity) _

theorem between_toFloat {n : Nat} (positive : 0 < n) (fits : n < 2 ^ 53) :
    Between 0 (n * slack) n.toUInt64.toFloat := by
  have same : n.toUInt64.toNat = n := by
    change n % 2 ^ 64 = n
    omega
  have sign : compare (n : Int) 0 = .gt := Int.compare_eq_gt.2 (by omega)
  have log := (Nat.log2_lt positive.ne').2 fits
  change Between 0 _ (.ofModel (.pack (UnpackedFloat.normalize Format.binary64 n.toUInt64.toNat 0 .positive)))
  rw [same]
  unfold UnpackedFloat.normalize UnpackedFloat.round decreaseExponent
  rw [sign]
  simp only [Int.toNat_natCast, targetExponent_eq]
  generalize hk : (0 - target n 0).toNat = k
  have shift : (k : Int) = 52 - n.log2 := by
    unfold target at hk
    omega
  have log := log2_shiftLeft positive k
  refine between_round (by omega) (le_refl 0) (by omega) (le_of_eq ?_) ?_
  · rw [zero_sub, shiftLeft_mul_zpow]
  · have fits : (n : ℚ) < 2 ^ 53 := by exact_mod_cast fits
    refine lt_of_lt_of_le (b := 2 ^ 54) ?_ (pow_le_pow_right₀ one_le_two (by decide))
    unfold slack
    linarith

theorem between_ofScientific {n e : Nat} {q : ℚ} (positive : 0 < n) (small : e ≤ 2048)
    (value : n * 10 ^ e * slack ≤ q) (fits : q < 2 ^ 1024) :
    Between ((10 ^ e).log2) q (.ofModel (.ofScientific n e)) := by
  have product : UnpackedFloat.ofScientific Format.binary64 n e =
      roundWithAccuracy Format.binary64 .positive (n <<< 53 * 10 ^ e) (-53) .exact := by
    unfold UnpackedFloat.ofScientific
    rw [dif_neg positive.ne', if_neg (by change ¬(e : Int) > 2048; omega),
      if_neg (by change ¬(e : Int) < -(2048 + (n.log2 : Int)); omega), if_pos (by omega)]
    rfl
  have shifted : 0 < n <<< 53 := by
    rw [Nat.shiftLeft_eq]
    positivity
  have power : 2 ^ 53 * 2 ^ (10 ^ e).log2 ≤ n <<< 53 * 10 ^ e := by
    refine Nat.mul_le_mul ?_ (Nat.log2_self_le (Nat.pow_pos (by decide)).ne')
    rw [Nat.shiftLeft_eq]
    exact Nat.le_mul_of_pos_left _ positive
  rw [← Nat.pow_add] at power
  have log := (Nat.le_log2 (Nat.mul_pos shifted (Nat.pow_pos (by decide))).ne').2 power
  change Between _ _ (.ofModel (.pack (UnpackedFloat.ofScientific Format.binary64 n e)))
  rw [product]
  refine between_round (by omega) (by omega) (by omega) (le_trans (le_of_eq ?_) value) fits
  congr 1
  have unshifted := shiftLeft_mul_zpow n 53
  push_cast at unshifted ⊢
  rw [mul_right_comm, unshifted]

/-- Small powers of ten are looked up in a table, which holds what the model makes of them. -/
theorem tenTo_eq (n : Nat) : Json.tenTo n = .ofModel (.ofScientific 1 n) := by
  have table : ∀ n : Fin 23, Json.tenTo n = .ofModel (.ofScientific 1 n) := by decide +kernel
  by_cases small : n < 23
  · exact table ⟨n, small⟩
  · exact dif_neg fun h => small (Nat.lt_succ_of_le h.2)

theorem slack_le : slack ≤ 3 / 2 := by
  unfold slack
  norm_num

theorem one_le_slack : 1 ≤ slack := by
  unfold slack
  norm_num

theorem ten_pow_mul_slack_lt {n : Nat} (small : n ≤ 308) : (10 : ℚ) ^ n * slack < 2 ^ 1024 := by
  have greatest : 3 * 10 ^ 308 < 2 * 2 ^ 1024 := by decide +kernel
  have greatest : (3 : ℚ) * 10 ^ 308 < 2 * 2 ^ 1024 := by exact_mod_cast greatest
  have power : (10 : ℚ) ^ n ≤ 10 ^ 308 := pow_le_pow_right₀ (by norm_num) small
  have raised : (10 : ℚ) ^ n * slack ≤ 10 ^ n * (3 / 2) := mul_le_mul_of_nonneg_left slack_le (by positivity)
  generalize (10 : ℚ) ^ 308 = p, (2 : ℚ) ^ 1024 = q at *
  linarith

theorem between_tenTo {n : Nat} (small : n ≤ 308) :
    Between ((10 ^ n).log2) (10 ^ n * slack) (Json.tenTo n) := by
  rw [tenTo_eq]
  refine between_ofScientific Nat.one_pos (by omega) (by rw [Nat.cast_one, one_mul])
    (ten_pow_mul_slack_lt small)

theorem between_ofNat {n : Nat} (positive : 0 < n) (fits : n < 2 ^ 64) :
    Between 0 (n * slack * slack) (Float.ofNat n) := by
  have raised : (n : ℚ) * slack * slack < 2 ^ 1024 := by
    have fits : (n : ℚ) < 2 ^ 64 := by exact_mod_cast fits
    refine lt_of_lt_of_le (b := 2 ^ 66) ?_ (pow_le_pow_right₀ one_le_two (by decide))
    unfold slack
    linarith
  by_cases short : n < 2 ^ 53
  · have one : Between 0 1 (Float.exactlyRepresentablePowersOfTen[0]) :=
      ⟨2 ^ 52, -52, by decide, rfl, le_refl _, by decide, le_refl _, by norm_num⟩
    have product : Float.ofNat n = n.toUInt64.toFloat * Float.exactlyRepresentablePowersOfTen[0] :=
      dif_pos ⟨short, by decide⟩
    rw [product]
    exact (between_toFloat positive short).mul one (le_refl _) (by rw [mul_one]) raised
  · have slow : Float.ofNat n = .ofModel (.ofScientific n 0) := dif_neg fun h => short h.1
    rw [slow]
    refine between_ofScientific positive (e := 0) (by decide) ?_ raised
    rw [pow_zero, mul_one]
    exact le_mul_of_one_le_right (mul_nonneg (by positivity) (zero_le_one.trans one_le_slack)) one_le_slack

/-! ### Quotients -/

theorem isFinite_round {s : Sign} {m : Nat} {e : Int} {accuracy : Accuracy} (small : e ≤ 970)
    (value : m.log2 + e ≤ 1022) :
    (Float.ofModel (.pack (roundWithAccuracy Format.binary64 s m e accuracy))).isFinite = true := by
  obtain ⟨r, k, hk, -, -, rounded⟩ := roundWithAccuracy_cases s m e accuracy
  unfold target at hk
  rcases rounded with ⟨-, rounded⟩ | ⟨_, -, rounded⟩ | ⟨_, -, rounded⟩
  · rw [rounded]
    exact isFinite_pack_zero s
  · rw [rounded]
    exact isFinite_pack (by omega)
  · rw [rounded]
    exact isFinite_pack (by omega)

theorem log2_div_le {m m' k : Nat} (short : m < 2 ^ 53) (long' : 2 ^ 52 ≤ m') :
    ((m <<< k) / m').log2 ≤ k := by
  by_cases zero : (m <<< k) / m' = 0
  · rw [zero]
    exact Nat.zero_le _
  · have below : (m <<< k) / m' < 2 ^ (k + 1) := by
      rw [Nat.div_lt_iff_lt_mul (by omega), Nat.shiftLeft_eq]
      calc
        m * 2 ^ k < 2 ^ 53 * 2 ^ k := Nat.mul_lt_mul_of_pos_right short (Nat.two_pow_pos k)
        _ = 2 ^ (k + 1) * 2 ^ 52 := by ring
        _ ≤ 2 ^ (k + 1) * m' := Nat.mul_le_mul_left _ long'
    exact Nat.le_of_lt_succ ((Nat.log2_lt zero).2 below)

theorem isFinite_div {b : Int} {q : ℚ} {x y : Float} (hx : x.isFinite = true) (hy : Between b q y)
    (least : 1 ≤ b) : (x / y).isFinite = true := by
  obtain ⟨m', e', positive', unpacked', long', short', least', -⟩ := hy
  have quotient : x / y =
      .ofModel (.pack (UnpackedFloat.div Format.binary64 x.toModel.unpack y.toModel.unpack)) := rfl
  rw [quotient, unpacked']
  change x.toModel.unpack.isFinite = true at hx
  cases unpacked : x.toModel.unpack with
  | infinity | notANumber =>
    rw [unpacked] at hx
    cases hx
  | zero s => exact isFinite_pack_zero _
  | finite s m e positive =>
    obtain ⟨short, small⟩ := bounds_of_unpack unpacked
    have log' : m'.log2 = 52 := (Nat.log2_eq_iff positive'.ne').2 ⟨long', short'⟩
    have log := (Nat.log2_lt positive.ne').2 short
    unfold UnpackedFloat.div divCore
    dsimp only
    generalize hE : min (e - e') _ = E
    have shift := log2_div_le (k := (e - e' - E).toNat) short long'
    rw [targetExponent_eq_max, totalExponent, totalExponent] at hE
    exact isFinite_round (by omega) (by omega)

theorem isFinite_neg {x : Float} (hx : x.isFinite = true) : (-x).isFinite = true := by
  have negated : -x = .ofModel (.pack x.toModel.unpack.neg) := rfl
  rw [negated]
  change x.toModel.unpack.isFinite = true at hx
  cases unpacked : x.toModel.unpack with
  | infinity | notANumber =>
    rw [unpacked] at hx
    cases hx
  | zero s => exact isFinite_pack_zero _
  | finite s m e positive => exact isFinite_pack (bounds_of_unpack unpacked).2

/-! ### Scaling -/

theorem isFinite_div_tenTo {x : Float} (hx : x.isFinite = true) {n : Nat} (positive : 0 < n)
    (small : n ≤ 308) : (x / Json.tenTo n).isFinite = true := by
  refine isFinite_div hx (between_tenTo small) ?_
  have power : 2 ^ 1 ≤ 10 ^ n := le_trans (by decide) (Nat.pow_le_pow_right (by decide) positive)
  have := (Nat.le_log2 (Nat.pow_pos (by decide)).ne').2 power
  omega

theorem isFinite_scaleDown {x : Float} (hx : x.isFinite = true) {n : Nat} (positive : 0 < n) :
    (Json.scaleDown x n).isFinite = true := by
  fun_induction Json.scaleDown x n with
  | case1 x n small => exact isFinite_div_tenTo hx positive small
  | case2 x n large zero => exact hx
  | case3 x n large nonzero ih => exact ih (isFinite_div_tenTo hx (by decide) (le_refl _)) (by omega)

end Courier.Decimal
