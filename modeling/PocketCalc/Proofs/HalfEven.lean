import Mathlib.Data.Rat.Floor
import Mathlib.Algebra.Order.Field.Power
import Mathlib.Tactic.Linarith
import Mathlib.Tactic.FieldSimp
import Mathlib.Tactic.Positivity
import PocketCalc.Number.Display
namespace PocketCalc

def Decimal.value (x : Decimal) : ℚ := x.coeff * 10 ^ x.exp

structure RoundsHalfEven (v unit : ℚ) (k : ℤ) : Prop where
  near : |v - k * unit| ≤ unit / 2
  tie : |v - k * unit| = unit / 2 → Even k

namespace RoundsHalfEven

variable {v unit : ℚ} {k : ℤ}

theorem of_exact (hu : 0 < unit) (h : v = k * unit) : RoundsHalfEven v unit k where
  near := by
    rw [h, sub_self, abs_zero]
    positivity
  tie := fun h' => by
    rw [h, sub_self, abs_zero] at h'
    linarith

theorem neg (h : RoundsHalfEven v unit k) : RoundsHalfEven (-v) unit (-k) := by
  have habs : |-v - ((-k : ℤ) : ℚ) * unit| = |v - k * unit| := by
    rw [← abs_neg]
    push_cast
    ring_nf
  exact ⟨habs ▸ h.near, fun h' => (h.tie (habs ▸ h')).neg⟩

theorem of_div (hu : 0 < unit) (h : RoundsHalfEven (v / unit) 1 k) : RoundsHalfEven v unit k := by
  have habs : |v - k * unit| = unit * |v / unit - k * 1| := by
    rw [← abs_of_pos hu, ← abs_mul, abs_of_pos hu]
    congr 1
    field_simp
  refine ⟨?_, fun h' => h.tie ?_⟩
  · rw [habs]
    have := h.near
    nlinarith [abs_nonneg (v / unit - k * 1)]
  · rw [habs] at h'
    exact mul_left_cancel₀ hu.ne' (h'.trans (by ring))

theorem unique {k' : ℤ} (hu : 0 < unit) (h : RoundsHalfEven v unit k)
    (h' : RoundsHalfEven v unit k') : k = k' := by
  have hsum : |((k - k' : ℤ) : ℚ)| * unit ≤ |v - k * unit| + |v - k' * unit| := by
    calc |((k - k' : ℤ) : ℚ)| * unit = |(v - k' * unit) - (v - k * unit)| := by
          rw [← abs_of_pos hu, ← abs_mul, abs_of_pos hu]
          push_cast
          ring_nf
      _ ≤ |v - k' * unit| + |v - k * unit| := abs_sub _ _
      _ = |v - k * unit| + |v - k' * unit| := add_comm _ _
  have hle : |((k - k' : ℤ) : ℚ)| ≤ 1 := by
    have := h.near
    have := h'.near
    nlinarith
  have hle' : |k - k'| ≤ 1 := by exact_mod_cast hle
  by_contra hne
  have hone : |k - k'| = 1 := by
    have : 0 < |k - k'| := abs_pos.2 (sub_ne_zero.2 hne)
    omega
  have hone' : |((k - k' : ℤ) : ℚ)| = 1 := by exact_mod_cast hone
  rw [hone', one_mul] at hsum
  have h1 : |v - k * unit| = unit / 2 := by linarith [h.near, h'.near]
  have h2 : |v - k' * unit| = unit / 2 := by linarith [h.near, h'.near]
  obtain ⟨a, ha⟩ := h.tie h1
  obtain ⟨b, hb⟩ := h'.tie h2
  rw [abs_eq (by norm_num)] at hone
  omega

end RoundsHalfEven

theorem roundsHalfEven_div_iff {a : ℤ} {d : ℕ} (hd : 0 < d) (k : ℤ) :
    RoundsHalfEven ((a : ℚ) / d) 1 k ↔
      (-(d : ℤ) ≤ 2 * (a - k * d) ∧ 2 * (a - k * d) ≤ d) ∧
        (2 * (a - k * d) = d ∨ 2 * (a - k * d) = -d → Even k) := by
  have hd' : (0 : ℚ) < d := by exact_mod_cast hd
  have hdist : (a : ℚ) / d - k * 1 = ((a - k * d : ℤ) : ℚ) / d := by
    push_cast
    field_simp
  have hnear : |(a : ℚ) / d - k * 1| ≤ 1 / 2 ↔ -(d : ℤ) ≤ 2 * (a - k * d) ∧ 2 * (a - k * d) ≤ d := by
    rw [hdist, abs_div, abs_of_pos hd', div_le_iff₀ hd', abs_le]
    constructor
    · rintro ⟨h1, h2⟩
      constructor
      · have : ((-(d : ℤ) : ℤ) : ℚ) ≤ ((2 * (a - k * d) : ℤ) : ℚ) := by push_cast at h1 ⊢; linarith
        exact_mod_cast this
      · have : ((2 * (a - k * d) : ℤ) : ℚ) ≤ ((d : ℤ) : ℚ) := by push_cast at h2 ⊢; linarith
        exact_mod_cast this
    · rintro ⟨h1, h2⟩
      have h1' : ((-(d : ℤ) : ℤ) : ℚ) ≤ ((2 * (a - k * d) : ℤ) : ℚ) := by exact_mod_cast h1
      have h2' : ((2 * (a - k * d) : ℤ) : ℚ) ≤ ((d : ℤ) : ℚ) := by exact_mod_cast h2
      push_cast at h1' h2' ⊢
      constructor <;> linarith
  have htie : |(a : ℚ) / d - k * 1| = 1 / 2 ↔ 2 * (a - k * d) = d ∨ 2 * (a - k * d) = -d := by
    rw [hdist, abs_div, abs_of_pos hd', div_eq_iff hd'.ne', abs_eq (by positivity)]
    constructor
    · rintro (h | h)
      · left
        have : ((2 * (a - k * d) : ℤ) : ℚ) = ((d : ℤ) : ℚ) := by push_cast at h ⊢; linarith
        exact_mod_cast this
      · right
        have : ((2 * (a - k * d) : ℤ) : ℚ) = ((-(d : ℤ) : ℤ) : ℚ) := by push_cast at h ⊢; linarith
        exact_mod_cast this
    · rintro (h | h)
      · left
        have h' : ((2 * (a - k * d) : ℤ) : ℚ) = ((d : ℤ) : ℚ) := by exact_mod_cast h
        push_cast at h' ⊢
        linarith
      · right
        have h' : ((2 * (a - k * d) : ℤ) : ℚ) = ((-(d : ℤ) : ℤ) : ℚ) := by exact_mod_cast h
        push_cast at h' ⊢
        linarith
  exact ⟨fun h => ⟨hnear.1 h.near, fun ht => h.tie (htie.2 ht)⟩,
    fun h => ⟨hnear.2 h.1, fun ht => h.2 (htie.1 ht)⟩⟩

theorem roundHalfEven_rounds (n d : ℕ) (hd : 0 < d) :
    RoundsHalfEven ((n : ℚ) / d) 1 (roundHalfEven n d) := by
  have hcast : ((n : ℤ) : ℚ) = (n : ℚ) := rfl
  rw [← hcast, roundsHalfEven_div_iff hd]
  have hdiv := Nat.div_add_mod n d
  have hmod := Nat.mod_lt n hd
  unfold roundHalfEven
  dsimp only
  generalize n / d = q at *
  generalize n % d = r at *
  subst hdiv
  have hr : (r : ℤ) < d := by exact_mod_cast hmod
  -- the remainder against half the divisor picks the quotient or the next one
  split
  · rename_i hlt
    have h2 : 2 * (r : ℤ) < d := by exact_mod_cast hlt
    push_cast
    refine ⟨⟨by linarith, by linarith⟩, fun h => ?_⟩
    rcases h with h | h <;> linarith
  · split
    · rename_i hlt hgt
      have h2 : (d : ℤ) < 2 * r := by exact_mod_cast hgt
      push_cast
      refine ⟨⟨by linarith, by linarith⟩, fun h => ?_⟩
      rcases h with h | h <;> linarith
    · rename_i hlt hgt
      have h2 : 2 * (r : ℤ) = d := by
        have : 2 * r = d := by omega
        exact_mod_cast this
      split
      · rename_i heven
        push_cast
        refine ⟨⟨by linarith, by linarith⟩, fun _ => ?_⟩
        exact (Int.even_coe_nat _).2 (Nat.even_iff.2 heven)
      · rename_i hodd
        push_cast
        refine ⟨⟨by linarith, by linarith⟩, fun _ => ?_⟩
        exact_mod_cast (Int.even_coe_nat _).2 (Nat.even_add_one.2 fun h => hodd (Nat.even_iff.1 h))

namespace Decimal

theorem roundToPlaces_exact (x : Decimal) (p : ℤ) (h : 0 ≤ x.exp + p) :
    x.roundToPlaces p = x.coeff * Nat.pow 10 (x.exp + p).toNat := by
  unfold roundToPlaces
  exact if_pos h

theorem value_of_shift_nonneg (x : Decimal) (p : ℤ) (h : 0 ≤ x.exp + p) :
    ((x.coeff * Nat.pow 10 (x.exp + p).toNat : ℕ) : ℚ) * 10 ^ (-p) = x.value := by
  have h10 : (10 : ℚ) ≠ 0 := by norm_num
  rw [value, Nat.pow_eq, Nat.cast_mul, Nat.cast_pow, Nat.cast_ofNat, mul_assoc, ← zpow_natCast,
    Int.toNat_of_nonneg h, ← zpow_add₀ h10, add_neg_cancel_right]

theorem roundToPlaces_rounds (x : Decimal) (p : ℤ) :
    RoundsHalfEven x.value (10 ^ (-p)) (x.roundToPlaces p) := by
  have hu : (0 : ℚ) < 10 ^ (-p) := by positivity
  unfold roundToPlaces
  dsimp only
  split
  · rename_i h
    exact .of_exact hu (by rw [← value_of_shift_nonneg x p h]; rfl)
  · rename_i h
    refine .of_div hu ?_
    have h10 : (10 : ℚ) ≠ 0 := by norm_num
    have hdiv : x.value / 10 ^ (-p) = (x.coeff : ℚ) / (Nat.pow 10 (-(x.exp + p)).toNat : ℕ) := by
      rw [value, Nat.pow_eq, Nat.cast_pow, Nat.cast_ofNat, ← zpow_natCast,
        Int.toNat_of_nonneg (by omega), zpow_neg, zpow_neg, div_inv_eq_mul, zpow_add₀ h10,
        mul_inv, mul_assoc, div_eq_mul_inv, mul_inv, inv_inv, inv_inv]
    rw [hdiv]
    exact roundHalfEven_rounds _ _ (Nat.pos_of_ne_zero (by simp [Nat.pow_eq]))

end Decimal

theorem digitCount_zero : digitCount 0 = 0 := by
  rw [digitCount]
  simp

theorem digitCount_of_pos {n : ℕ} (h : 0 < n) : digitCount n = digitCount (n / 10) + 1 := by
  rw [digitCount]
  simp [Nat.pos_iff_ne_zero.1 h]

theorem digitCount_le_iff {n k : ℕ} : digitCount n ≤ k ↔ n < 10 ^ k := by
  induction k generalizing n with
  | zero =>
    rcases Nat.eq_zero_or_pos n with rfl | hn
    · simp [digitCount_zero]
    · simp [digitCount_of_pos hn, Nat.pos_iff_ne_zero.1 hn]
  | succ k ih =>
    rcases Nat.eq_zero_or_pos n with rfl | hn
    · simp [digitCount_zero]
    · rw [digitCount_of_pos hn, Nat.add_le_add_iff_right, ih, pow_succ]
      omega

theorem lt_pow_digitCount (n : ℕ) : n < 10 ^ digitCount n := digitCount_le_iff.1 le_rfl

theorem Decimal.value_lt (x : Decimal) : x.value < 10 ^ x.pointPosition := by
  have h10 : (10 : ℚ) ≠ 0 := by norm_num
  have hc : (x.coeff : ℚ) < 10 ^ digitCount x.coeff := by exact_mod_cast lt_pow_digitCount x.coeff
  rw [value, pointPosition, zpow_add₀ h10, zpow_natCast]
  exact mul_lt_mul_of_pos_right hc (by positivity)

theorem digitCount_roundToPlaces (x : Decimal) (p : ℤ) :
    (digitCount (x.roundToPlaces p) : ℤ) ≤ max 0 (x.pointPosition + p + 1) := by
  have h10 : (10 : ℚ) ≠ 0 := by norm_num
  have hr := (x.roundToPlaces_rounds p).near
  have hv := x.value_lt
  set k := x.roundToPlaces p
  have hk : (k : ℚ) < 10 ^ (x.pointPosition + p) + 1 / 2 := by
    have hu : (0 : ℚ) < 10 ^ (-p) := by positivity
    have hkv : (k : ℚ) * 10 ^ (-p) < (10 ^ (x.pointPosition + p) + 1 / 2) * 10 ^ (-p) := by
      rw [add_mul, ← zpow_add₀ h10, add_neg_cancel_right]
      have := (abs_le.1 hr).1
      push_cast at this
      linarith
    exact lt_of_mul_lt_mul_right hkv hu.le
  by_cases hp : 0 ≤ x.pointPosition + p
  · have hpow : (10 : ℚ) ^ (x.pointPosition + p) = ((10 ^ (x.pointPosition + p).toNat : ℕ) : ℚ) := by
      rw [Nat.cast_pow, Nat.cast_ofNat, ← zpow_natCast, Int.toNat_of_nonneg hp]
    rw [hpow] at hk
    have hk' : k ≤ 10 ^ (x.pointPosition + p).toNat := by
      have : (k : ℚ) < ((10 ^ (x.pointPosition + p).toNat : ℕ) : ℚ) + 1 := by linarith
      exact Nat.lt_add_one_iff.1 (by exact_mod_cast this)
    have hd : digitCount k ≤ (x.pointPosition + p).toNat + 1 :=
      digitCount_le_iff.2 (lt_of_le_of_lt hk' (Nat.pow_lt_pow_right (by norm_num) (by omega)))
    omega
  · have hsmall : (10 : ℚ) ^ (x.pointPosition + p) ≤ 1 / 10 := by
      calc (10 : ℚ) ^ (x.pointPosition + p) ≤ 10 ^ (-1 : ℤ) :=
            zpow_le_zpow_right₀ (by norm_num) (by omega)
        _ = 1 / 10 := by norm_num
    have hk0 : k = 0 := by
      have : (k : ℚ) < 1 := by linarith
      exact Nat.lt_one_iff.1 (by exact_mod_cast this)
    rw [hk0, digitCount_zero]
    simp

end PocketCalc
