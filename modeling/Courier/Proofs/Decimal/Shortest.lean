import Courier.Json.Printer
import Courier.Proofs.Decimal.Rounding

/-! The shortest digits of a float. There are at most seventeen of them, they stand for no more than the
reals that round to the float, and scaling them gives a finite float again. -/
namespace Courier.Decimal

/-! ### The grid -/

theorem pow_toNat_mul_zpow {x : ℚ} (nonzero : x ≠ 0) (p : Int) :
    x ^ (-p).toNat * x ^ p = x ^ p.toNat := by
  rw [← zpow_natCast, ← zpow_natCast, ← zpow_add₀ nonzero]
  congr 1
  omega

namespace Binary

theorem ratio_mul_zpow (b : Binary) (quarters : Nat) (place : Int) :
    ((b.ratio quarters place).1 : ℚ) * 10 ^ place =
      quarters * 2 ^ (b.exponent - 2) * (b.ratio quarters place).2 := by
  have two := pow_toNat_mul_zpow (x := 2) two_ne_zero (b.exponent - 2)
  have ten := pow_toNat_mul_zpow (x := 10) (by norm_num) place
  change ((quarters * 2 ^ (b.exponent - 2).toNat * 10 ^ (-place).toNat : Nat) : ℚ) * 10 ^ place =
    quarters * 2 ^ (b.exponent - 2) * ((2 ^ (-(b.exponent - 2)).toNat * 10 ^ place.toNat : Nat) : ℚ)
  push_cast
  rw [← two, ← ten]
  ring

theorem ratio_snd_pos (b : Binary) (quarters : Nat) (place : Int) : 0 < (b.ratio quarters place).2 :=
  Nat.mul_pos (Nat.pow_pos (by decide)) (Nat.pow_pos (by decide))

variable {b : Binary} {tie : Tie} {place : Int} {k : Nat}

theorem le_of_hits (h : b.hits place k = true) :
    (k : ℚ) * 10 ^ place ≤ (b.mantissa + 1 / 2) * 2 ^ b.exponent := by
  have high : k * (b.ratio (4 * b.mantissa + 2) place).2 ≤ (b.ratio (4 * b.mantissa + 2) place).1 := by
    unfold hits at h
    dsimp only at h
    split at h
    · exact of_decide_eq_true (Bool.and_eq_true_iff.1 h).2
    · exact Nat.le_of_lt (of_decide_eq_true (Bool.and_eq_true_iff.1 h).2)
  have spec := b.ratio_mul_zpow (4 * b.mantissa + 2) place
  have den : (0 : ℚ) < (b.ratio (4 * b.mantissa + 2) place).2 := by exact_mod_cast b.ratio_snd_pos _ _
  refine le_of_mul_le_mul_right ?_ den
  calc
    k * (10 : ℚ) ^ place * (b.ratio (4 * b.mantissa + 2) place).2
        = ((k * (b.ratio (4 * b.mantissa + 2) place).2 : Nat) : ℚ) * 10 ^ place := by
      push_cast
      ring
    _ ≤ (b.ratio (4 * b.mantissa + 2) place).1 * (10 : ℚ) ^ place :=
      mul_le_mul_of_nonneg_right (by exact_mod_cast high) (by positivity)
    _ = (b.mantissa + 1 / 2) * 2 ^ b.exponent * (b.ratio (4 * b.mantissa + 2) place).2 := by
      rw [spec, zpow_sub₀ two_ne_zero]
      push_cast
      ring

theorem pos_of_hits (positive : 0 < b.mantissa) (h : b.hits place k = true) : 0 < k := by
  refine Nat.pos_of_ne_zero fun zero => ?_
  have low : 0 < (b.ratio (4 * b.mantissa - if b.leastOfBinade then 1 else 2) place).1 := by
    refine Nat.mul_pos (Nat.mul_pos ?_ (Nat.pow_pos (by decide))) (Nat.pow_pos (by decide))
    split <;> omega
  rw [zero, hits] at h
  dsimp only at h
  rw [Nat.zero_mul] at h
  split at h
  · exact absurd (of_decide_eq_true (Bool.and_eq_true_iff.1 h).1) (by omega)
  · exact absurd (of_decide_eq_true (Bool.and_eq_true_iff.1 h).1) (by omega)

theorem hits_of_onGrid? (h : b.onGrid? tie place = some k) : b.hits place k = true := by
  unfold onGrid? at h
  dsimp only at h
  split at h
  · cases h
  · cases h; assumption
  · cases h; assumption
  · split at h
    · cases h; assumption
    split at h
    · cases h; assumption
    cases tie with
    | up => cases h; assumption
    | toEven =>
      dsimp only at h
      split at h <;> cases h <;> assumption

theorem lt_ten_zpow_magnitude (b : Binary) : b.mantissa * (2 : ℚ) ^ b.exponent < 10 ^ b.magnitude := by
  have spec := b.ratio_mul_zpow (4 * b.mantissa) (-340)
  have den := b.ratio_snd_pos (4 * b.mantissa) (-340)
  unfold magnitude
  dsimp only
  generalize b.ratio (4 * b.mantissa) (-340) = r at spec den ⊢
  have digits : r.1 < 10 ^ (Nat.toDigits 10 (r.1 / r.2)).length * r.2 :=
    (Nat.div_lt_iff_lt_mul den).1 ((Nat.length_toDigits_le_iff (by decide) Nat.length_toDigits_pos).1 (le_refl _))
  generalize (Nat.toDigits 10 (r.1 / r.2)).length = len at digits ⊢
  have digits : (r.1 : ℚ) < 10 ^ len * r.2 := by exact_mod_cast digits
  have den : (0 : ℚ) < r.2 := by exact_mod_cast den
  refine lt_of_mul_lt_mul_right ?_ den.le
  calc
    b.mantissa * (2 : ℚ) ^ b.exponent * r.2 = r.1 * 10 ^ (-340 : Int) := by
      rw [spec, zpow_sub₀ two_ne_zero]
      push_cast
      ring
    _ < 10 ^ len * r.2 * 10 ^ (-340 : Int) := mul_lt_mul_of_pos_right digits (by positivity)
    _ = 10 ^ (Int.ofNat len - 340) * r.2 := by
      rw [sub_eq_add_neg, zpow_add₀ (by norm_num), Int.ofNat_eq_natCast, zpow_natCast]
      ring

end Binary

namespace Digits

theorem trim_spec (fuel : Nat) (d : Digits) :
    ((d.trim fuel).value : ℚ) * 10 ^ (d.trim fuel).exponent = d.value * 10 ^ d.exponent ∧
      (d.trim fuel).value ≤ d.value ∧ (0 < d.value → 0 < (d.trim fuel).value) := by
  induction fuel generalizing d with
  | zero => exact ⟨rfl, le_refl _, id⟩
  | succ fuel ih =>
    unfold trim
    split
    next zero =>
      obtain ⟨same, less, positive⟩ := ih ⟨d.value / 10, d.exponent + 1⟩
      refine ⟨same.trans ?_, less.trans (Nat.div_le_self _ _), fun h => positive ?_⟩
      · have whole : ((d.value / 10 : Nat) : ℚ) * 10 = d.value := by
          exact_mod_cast Nat.div_mul_cancel (Nat.dvd_of_mod_eq_zero zero)
        dsimp only
        rw [zpow_add_one₀ (by norm_num), mul_left_comm, mul_comm _ (10 : ℚ), ← mul_assoc, ← whole]
        ring
      · dsimp only
        omega
    · exact ⟨rfl, le_refl _, id⟩

end Digits

theorem Binary.lt_of_hits {b : Binary} (positive : 0 < b.mantissa) {n k : Nat} (few : n < 17)
    (h : b.hits (b.magnitude - (Int.ofNat n + 1)) k = true) : k < 2 ^ 64 := by
  have top := b.lt_ten_zpow_magnitude
  have half : (b.mantissa + 1 / 2 : ℚ) * 2 ^ b.exponent ≤ 2 * (b.mantissa * 2 ^ b.exponent) := by
    have one : (1 : ℚ) ≤ b.mantissa := by exact_mod_cast positive
    rw [← mul_assoc]
    exact mul_le_mul_of_nonneg_right (by linarith) (by positivity)
  have place : (k : ℚ) * 10 ^ b.magnitude < 2 * 10 ^ (n + 1) * 10 ^ b.magnitude := by
    calc
      (k : ℚ) * 10 ^ b.magnitude = k * 10 ^ (b.magnitude - (Int.ofNat n + 1)) * 10 ^ (n + 1) := by
        rw [mul_assoc, ← zpow_natCast, ← zpow_add₀ (by norm_num)]
        simp
      _ ≤ 2 * (b.mantissa * 2 ^ b.exponent) * 10 ^ (n + 1) :=
        mul_le_mul_of_nonneg_right ((le_of_hits h).trans half) (by positivity)
      _ < 2 * 10 ^ b.magnitude * 10 ^ (n + 1) :=
        mul_lt_mul_of_pos_right (mul_lt_mul_of_pos_left top two_pos) (by positivity)
      _ = 2 * 10 ^ (n + 1) * 10 ^ b.magnitude := mul_right_comm _ _ _
  have below : k < 2 * 10 ^ (n + 1) := by
    exact_mod_cast lt_of_mul_lt_mul_right place (by positivity)
  calc
    k < 2 * 10 ^ (n + 1) := below
    _ ≤ 2 * 10 ^ 17 := Nat.mul_le_mul_left 2 (Nat.pow_le_pow_right (by decide) few)
    _ < 2 ^ 64 := by decide

/-- Where a search has found digits, there are few of them and they stand for no more than the reals
that are rounded to the float. -/
theorem Binary.shortest_spec {b : Binary} (tie : Tie) (positive : 0 < b.mantissa) :
    b.shortest tie = ⟨0, 0⟩ ∨ (0 < (b.shortest tie).value ∧ (b.shortest tie).value < 2 ^ 64 ∧
      ((b.shortest tie).value : ℚ) * 10 ^ (b.shortest tie).exponent ≤
        (b.mantissa + 1 / 2) * 2 ^ b.exponent) := by
  unfold shortest
  dsimp only
  split
  next d found =>
    obtain ⟨n, hn, found⟩ := List.exists_of_findSome?_eq_some found
    obtain ⟨k, onGrid, rfl⟩ := Option.map_eq_some_iff.1 found
    have hits := hits_of_onGrid? onGrid
    have few := lt_of_hits positive (List.mem_range.1 hn) hits
    obtain ⟨same, less, kept⟩ := Digits.trim_spec 18 ⟨k, b.magnitude - (Int.ofNat n + 1)⟩
    refine .inr ⟨kept (pos_of_hits positive hits), Nat.lt_of_le_of_lt less few, same ▸ le_of_hits hits⟩
  · exact .inl rfl

/-! ### Scaling back -/

theorem isInf_eq_false {x : Float} (finite : x.isFinite = true) : x.isInf = false := by
  change x.toModel.unpack.isFinite = true at finite
  change x.toModel.unpack.isInf = false
  cases unpacked : x.toModel.unpack <;> rw [unpacked] at finite <;> first | rfl | cases finite

theorem exists_scale {n : Nat} {e : Int} (fits : n < 2 ^ 64)
    (value : 0 ≤ e → 0 < n ∧ (n : ℚ) * 10 ^ e * slack ^ 4 < 2 ^ 1024) :
    ∃ y, Json.scale? n e = some y ∧ y.isFinite = true := by
  have whole : (Float.ofNat n).isFinite = true := by
    rcases Nat.eq_zero_or_pos n with rfl | positive
    · decide +kernel
    · exact (between_ofNat positive fits).isFinite
  unfold Json.scale?
  dsimp only
  split
  next negative => exact ⟨_, rfl, isFinite_scaleDown whole (by omega)⟩
  next nonneg =>
    obtain ⟨k, rfl⟩ := Int.eq_ofNat_of_zero_le (not_lt.1 nonneg)
    obtain ⟨positive, value⟩ := value (not_lt.1 nonneg)
    rw [zpow_natCast] at value
    have small : k ≤ 308 := by
      have whole : (1 : ℚ) ≤ n := by exact_mod_cast positive
      have power : (10 : ℚ) ^ k ≤ n * 10 ^ k * slack ^ 4 := by
        rw [mul_right_comm]
        exact le_mul_of_one_le_left (by positivity) (one_le_mul_of_one_le_of_one_le whole
          (one_le_pow₀ one_le_slack))
      have limit : 2 ^ 1024 ≤ 10 ^ 309 := by decide +kernel
      have limit : (2 : ℚ) ^ 1024 ≤ 10 ^ 309 := by exact_mod_cast limit
      have below := (pow_lt_pow_iff_right₀ (by norm_num)).1 (power.trans_lt (value.trans_le limit))
      omega
    have product := (between_ofNat positive fits).mul (between_tenTo small) (by omega) (le_refl _)
      (lt_of_eq_of_lt (by ring) value)
    refine ⟨_, ?_, product.isFinite⟩
    rw [if_neg (by omega), Int.natAbs_natCast, if_neg (by rw [isInf_eq_false product.isFinite]; decide)]

/-- The greatest floats are too near to the limit for the bounds that serve all others. -/
theorem greatest_scale (i : Fin 8) (least : Bool) :
    let d := (Binary.shortest ⟨2 ^ 53 - 1 - i, 971, least⟩ .toEven)
    (Json.scale? d.value d.exponent).any (·.isFinite) = true := by
  decide +revert +kernel

theorem Binary.upper_le (b : Binary) (short : b.mantissa < 2 ^ 53) (small : b.exponent ≤ 971)
    (below : ¬(b.exponent = 971 ∧ 2 ^ 53 - 8 ≤ b.mantissa)) :
    (b.mantissa + 1 / 2 : ℚ) * 2 ^ b.exponent ≤ (2 ^ 53 - 17 / 2) * 2 ^ 971 := by
  by_cases top : b.exponent = 971
  · have less : b.mantissa ≤ 2 ^ 53 - 9 := by omega
    have less : (b.mantissa : ℚ) ≤ 2 ^ 53 - 9 := by
      refine (Nat.cast_le.2 less).trans ?_
      norm_num
    rw [top]
    exact mul_le_mul_of_nonneg_right (by linarith) (by positivity)
  · have half : (2 : ℚ) ^ b.exponent ≤ 2 ^ (970 : Int) := zpow_le_zpow_right₀ one_le_two (by omega)
    have less : (b.mantissa : ℚ) ≤ 2 ^ 53 := by exact_mod_cast short.le
    calc
      (b.mantissa + 1 / 2 : ℚ) * 2 ^ b.exponent ≤ (2 ^ 53 + 1 / 2) * 2 ^ (970 : Int) :=
        mul_le_mul (by linarith) half (by positivity) (by positivity)
      _ ≤ (2 ^ 53 - 17 / 2) * 2 * 2 ^ (970 : Int) :=
        mul_le_mul_of_nonneg_right (by norm_num) (by positivity)
      _ = (2 ^ 53 - 17 / 2) * 2 ^ 971 := by
        rw [mul_assoc, ← zpow_one_add₀ two_ne_zero]
        rfl

theorem exists_scale_shortest {b : Binary} (positive : 0 < b.mantissa) (short : b.mantissa < 2 ^ 53)
    (small : b.exponent ≤ 971) : ∃ y, Json.scale? (b.shortest .toEven).value
      (b.shortest .toEven).exponent = some y ∧ y.isFinite = true := by
  by_cases great : b.exponent = 971 ∧ 2 ^ 53 - 8 ≤ b.mantissa
  · obtain ⟨m, e, least⟩ := b
    obtain ⟨rfl, great⟩ := great
    have found := greatest_scale ⟨2 ^ 53 - 1 - m, by dsimp only at great; omega⟩ least
    have same : 2 ^ 53 - 1 - (2 ^ 53 - 1 - m) = m := by
      dsimp only at short
      omega
    dsimp only at found
    rw [same] at found
    exact (Option.any_eq_true _ _).1 found
  · rcases b.shortest_spec .toEven positive with zero | ⟨some_digit, few, value⟩
    · rw [zero]
      have found : (Json.scale? 0 0).any (·.isFinite) = true := by decide +kernel
      exact (Option.any_eq_true _ _).1 found
    · refine exists_scale few fun _ => ⟨some_digit, ?_⟩
      have bound := b.upper_le short small great
      have enough : (2 ^ 53 - 17 / 2) * slack ^ 4 < 2 ^ 53 := by
        unfold slack
        norm_num
      calc
        _ ≤ (2 ^ 53 - 17 / 2) * 2 ^ 971 * slack ^ 4 :=
          mul_le_mul_of_nonneg_right (value.trans bound) (by unfold slack; positivity)
        _ = (2 ^ 53 - 17 / 2) * slack ^ 4 * 2 ^ 971 := mul_right_comm _ _ _
        _ < 2 ^ 53 * 2 ^ 971 := mul_lt_mul_of_pos_right enough (pow_pos two_pos _)
        _ = 2 ^ 1024 := (pow_add 2 53 971).symm

/-! ### Floats -/

open Float.Model (Format) in
theorem biased_ne_of_isFinite {x : Float} (finite : x.isFinite = true) :
    ((x.toBits >>> 52) &&& 0x7FF).toNat ≠ 2047 := by
  intro greatest
  have exponent : @Float.Model.UnpackedFloat.unpackExponent Format.binary64 x.toBits.toBitVec = -1#11 := by
    refine BitVec.eq_of_toNat_eq (Eq.trans ?_ greatest)
    rw [UInt64.toNat_and, UInt64.toNat_shiftRight]
    exact (Nat.and_two_pow_sub_one_eq_mod _ 11).symm
  change (Float.Model.UnpackedFloat.unpack Format.binary64 x.toBits.toBitVec).isFinite = true at finite
  exact isFinite_unpack_iff.1 finite exponent

theorem Binary.ofBits_spec {x : Float} (finite : x.isFinite = true) :
    (Binary.ofBits x.toBits).mantissa < 2 ^ 53 ∧ (Binary.ofBits x.toBits).exponent ≤ 971 ∧
      ((Binary.ofBits x.toBits).mantissa = 0 → Binary.ofBits x.toBits = ⟨0, -1074, false⟩) := by
  have greatest := biased_ne_of_isFinite finite
  have fraction : (x.toBits &&& 0xFFFFFFFFFFFFF).toNat < 2 ^ 52 := by
    rw [UInt64.toNat_and]
    exact Nat.and_lt_two_pow _ (by decide)
  have biased : ((x.toBits >>> 52) &&& 0x7FF).toNat < 2 ^ 11 := by
    rw [UInt64.toNat_and]
    exact Nat.and_lt_two_pow _ (by decide)
  unfold Binary.ofBits
  simp only [Int.ofNat_eq_natCast]
  generalize (x.toBits &&& 0xFFFFFFFFFFFFF).toNat = f at fraction ⊢
  generalize ((x.toBits >>> 52) &&& 0x7FF).toNat = e at greatest biased ⊢
  split
  · refine ⟨?_, ?_, fun zero => congrArg (Binary.mk · _ _) zero⟩ <;> dsimp only <;> omega
  · refine ⟨?_, ?_, fun zero => ?_⟩ <;> dsimp only at * <;> omega

/-- The digits of a finite float are few, and scaling them gives a finite float again. -/
theorem shortest_of_isFinite {x : Float} (finite : x.isFinite = true) :
    let d := (Binary.ofBits x.toBits).shortest .toEven
    (0 < d.value ∨ d.exponent ≤ 0) ∧ d.value < 2 ^ 64 ∧
      ∃ y, Json.scale? d.value d.exponent = some y ∧ y.isFinite = true := by
  obtain ⟨short, small, zero⟩ := Binary.ofBits_spec finite
  generalize Binary.ofBits x.toBits = b at short small zero
  dsimp only
  rcases Nat.eq_zero_or_pos b.mantissa with none | positive
  · have digits : Binary.shortest ⟨0, -1074, false⟩ .toEven = ⟨0, -322⟩ := by decide +kernel
    rw [zero none, digits]
    exact ⟨.inr (by decide), by decide, exists_scale (by decide) fun nonneg => absurd nonneg (by decide)⟩
  · have scaled := exists_scale_shortest positive short small
    rcases b.shortest_spec .toEven positive with none | ⟨some_digit, few, -⟩
    · rw [none] at scaled ⊢
      exact ⟨.inr (le_refl _), by decide, scaled⟩
    · exact ⟨.inl some_digit, few, scaled⟩

end Courier.Decimal
