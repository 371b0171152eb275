import Mathlib.Data.Nat.Cast.Field
import Mathlib.Data.Rat.Floor
import SealedToken.Clock

namespace SealedToken

def Double.value? : Double → Option ℚ
  | finite negative mantissa exponent =>
    some (if negative then -(mantissa * 2 ^ exponent) else mantissa * 2 ^ exponent)
  | infinite _ => none
  | nan => none

def Reading.value? : Reading → Option ℚ
  | whole n => some n
  | double d => d.value?

def towardZero (q : ℚ) : ℤ :=
  if 0 ≤ q then ⌊q⌋ else ⌈q⌉

theorem towardZero_intCast (n : ℤ) : towardZero n = n := by
  unfold towardZero
  split
  · exact Int.floor_intCast n
  · exact Int.ceil_intCast n

theorem towardZero_neg {q : ℚ} (nonneg : 0 ≤ q) : towardZero (-q) = -⌊q⌋ := by
  unfold towardZero
  split
  · have zero : q = 0 := by linarith
    rw [zero, neg_zero, Int.floor_zero, neg_zero]
  · exact Int.ceil_neg

theorem towardZero_mono {q q' : ℚ} (le : q ≤ q') : towardZero q ≤ towardZero q' := by
  unfold towardZero
  split
  · next nonneg =>
    rw [if_pos (nonneg.trans le)]
    exact Int.floor_le_floor le
  · next negative =>
    split
    · next nonneg =>
      have low : ⌈q⌉ ≤ 0 := Int.ceil_le.mpr (by exact_mod_cast (not_le.mp negative).le)
      exact low.trans (Int.floor_nonneg.mpr nonneg)
    · exact Int.ceil_le_ceil le

theorem two_zpow (exponent : ℤ) :
    (2 : ℚ) ^ exponent = (2 ^ exponent.toNat : ℕ) / (2 ^ (-exponent).toNat : ℕ) := by
  have parts := Int.toNat_sub_toNat_neg exponent
  conv_lhs => rw [← parts]
  rw [zpow_sub₀ two_ne_zero, zpow_natCast, zpow_natCast]
  push_cast
  rfl

theorem Double.wholePart_eq_floor (mantissa : ℕ) (exponent : ℤ) :
    (wholePart mantissa exponent : ℤ) = ⌊(mantissa : ℚ) * 2 ^ exponent⌋ := by
  rw [two_zpow, ← mul_div_assoc, ← Nat.cast_mul, Rat.floor_natCast_div_natCast]
  rfl

theorem Double.signed_wholePart (negative : Bool) (mantissa : ℕ) (exponent : ℤ) :
    signed negative (wholePart mantissa exponent) =
      towardZero (if negative then -(mantissa * 2 ^ exponent) else mantissa * 2 ^ exponent) := by
  have nonneg : (0 : ℚ) ≤ mantissa * 2 ^ exponent :=
    mul_nonneg mantissa.cast_nonneg (zpow_nonneg zero_le_two exponent)
  cases negative with
  | false =>
    rw [signed, wholePart_eq_floor, if_neg Bool.false_ne_true, if_neg Bool.false_ne_true,
      towardZero, if_pos nonneg]
  | true => rw [signed, wholePart_eq_floor, if_pos rfl, if_pos rfl, towardZero_neg nonneg]

theorem Double.natAbs_signed (negative : Bool) (n : ℕ) : (signed negative n).natAbs = n := by
  rw [signed]
  split <;> omega

theorem Double.value?_eq_intCast_iff {negative : Bool} {mantissa : ℕ} {exponent n : ℤ} :
    (finite negative mantissa exponent).value? = some (n : ℚ) ↔
      isWhole mantissa exponent = true ∧ signed negative (wholePart mantissa exponent) = n := by
  have scaled : (mantissa : ℚ) * 2 ^ exponent =
      (mantissa * power 2 exponent : ℕ) / (power 2 (-exponent) : ℕ) := by
    rw [two_zpow, ← mul_div_assoc, ← Nat.cast_mul]
    rfl
  have positive : 0 < power 2 (-exponent) := Nat.pow_pos (by decide)
  rw [isWhole, decide_eq_true_iff, ← Nat.dvd_iff_mod_eq_zero]
  constructor
  · intro value
    have same : (if negative then -(mantissa * 2 ^ exponent) else mantissa * 2 ^ exponent : ℚ) = n :=
      Option.some.inj value
    refine ⟨?_, by rw [signed_wholePart, same, towardZero_intCast]⟩
    by_cases large : 0 ≤ exponent
    · have one : power 2 (-exponent) = 1 := by
        have none : (-exponent).toNat = 0 := by omega
        rw [power, none]
      rw [one]
      exact one_dvd _
    · have one : power 2 exponent = 1 := by
        have none : exponent.toNat = 0 := by omega
        rw [power, none]
      have size : (mantissa : ℚ) * 2 ^ exponent = (n.natAbs : ℚ) := by
        have nonneg : (0 : ℚ) ≤ mantissa * 2 ^ exponent :=
          mul_nonneg mantissa.cast_nonneg (zpow_nonneg zero_le_two exponent)
        rw [Nat.cast_natAbs, Int.cast_abs, ← same]
        split
        · rw [abs_neg, abs_of_nonneg nonneg]
        · rw [abs_of_nonneg nonneg]
      rw [scaled, one, mul_one, div_eq_iff (by exact_mod_cast positive.ne')] at size
      exact ⟨n.natAbs, by rw [mul_comm]; exact_mod_cast size⟩
  · rintro ⟨divides, rfl⟩
    have whole : (mantissa : ℚ) * 2 ^ exponent = (wholePart mantissa exponent : ℚ) := by
      rw [scaled, wholePart, Nat.cast_div (divides.mul_right _) (by exact_mod_cast positive.ne')]
    rw [value?, whole, signed]
    split <;> push_cast <;> rfl

theorem Reading.truncate_of_value {r : Reading} {q : ℚ} (value : r.value? = some q) :
    r.truncate = .ok (towardZero q) := by
  cases r with
  | whole n =>
    cases value
    rw [truncate, towardZero_intCast]
  | double d =>
    cases d with
    | finite negative mantissa exponent =>
      cases value
      rw [truncate, Double.signed_wholePart]
    | infinite negative => cases value
    | nan => cases value

theorem Reading.exists_value {r : Reading} {now : ℤ} (finite : r.truncate = .ok now) :
    ∃ q, r.value? = some q ∧ now = towardZero q := by
  have known : ∃ q, r.value? = some q := by
    cases r with
    | whole n => exact ⟨_, rfl⟩
    | double d =>
      cases d with
      | finite negative mantissa exponent => exact ⟨_, rfl⟩
      | infinite negative => cases finite
      | nan => cases finite
  obtain ⟨q, value⟩ := known
  rw [truncate_of_value value] at finite
  exact ⟨q, value, (Except.ok.inj finite).symm⟩

end SealedToken
