import PocketCalc.Proofs.HalfEven
import PocketCalc.Decimal.Nearest
namespace PocketCalc

theorem roundHalfEven_mul_right (n d : ℕ) {k : ℕ} (hk : 0 < k) :
    roundHalfEven (n * k) (d * k) = roundHalfEven n d := by
  unfold roundHalfEven
  rw [Nat.mul_div_mul_right _ _ hk, Nat.mul_mod_mul_right]
  -- the remainder and the divisor scale alike, so every comparison keeps its answer
  have h1 : 2 * (n % d * k) < d * k ↔ 2 * (n % d) < d := by
    rw [← Nat.mul_assoc]
    exact Nat.mul_lt_mul_right hk
  have h2 : d * k < 2 * (n % d * k) ↔ d < 2 * (n % d) := by
    rw [← Nat.mul_assoc]
    exact Nat.mul_lt_mul_right hk
  simp only [h1, h2]

theorem roundHalfEven_congr {n d n' d' : ℕ} (h : n * d' = n' * d) (hd : 0 < d) (hd' : 0 < d') :
    roundHalfEven n d = roundHalfEven n' d' :=
  calc roundHalfEven n d = roundHalfEven (n * d') (d * d') := (roundHalfEven_mul_right n d hd').symm
    _ = roundHalfEven (n' * d) (d' * d) := by rw [h, Nat.mul_comm d d']
    _ = roundHalfEven n' d' := roundHalfEven_mul_right n' d' hd

theorem eq_of_zpow_bounds {b r : ℚ} (hb : 1 < b) {E E' : ℤ} (h1 : b ^ E ≤ r) (h2 : r < b ^ (E + 1))
    (h1' : b ^ E' ≤ r) (h2' : r < b ^ (E' + 1)) : E = E' := by
  by_contra hne
  rcases lt_or_gt_of_ne hne with hlt | hlt
  · have : b ^ (E + 1) ≤ b ^ E' := zpow_le_zpow_right₀ hb.le (by omega)
    linarith
  · have : b ^ (E' + 1) ≤ b ^ E := zpow_le_zpow_right₀ hb.le (by omega)
    linarith

namespace Binary64

theorem bitLength_bounds {n : ℕ} (hn : 0 < n) :
    (2 : ℚ) ^ ((bitLength n : ℤ) - 1) ≤ n ∧ (n : ℚ) < 2 ^ (bitLength n : ℤ) := by
  have hb : bitLength n = n.log2 + 1 := by simp [bitLength, Nat.pos_iff_ne_zero.1 hn]
  have hlo : 2 ^ n.log2 ≤ n := Nat.log2_self_le (Nat.pos_iff_ne_zero.1 hn)
  have hhi : n < 2 ^ (n.log2 + 1) := Nat.lt_log2_self
  rw [hb]
  push_cast
  rw [add_sub_cancel_right, zpow_natCast, ← Nat.cast_ofNat, ← Nat.cast_pow]
  refine ⟨by exact_mod_cast hlo, ?_⟩
  rw [show ((n.log2 : ℤ) + 1) = ((n.log2 + 1 : ℕ) : ℤ) by push_cast; rfl, zpow_natCast,
    ← Nat.cast_pow]
  exact_mod_cast hhi

theorem below_eq_decide_lt (n : ℕ) {d : ℕ} (hd : 0 < d) (e : ℤ) :
    (if 0 ≤ e then decide (n < d * Nat.pow 2 e.toNat) else decide (n * Nat.pow 2 (-e).toNat < d)) =
      decide ((n : ℚ) / d < 2 ^ e) := by
  have hd' : (0 : ℚ) < d := by exact_mod_cast hd
  split
  · rename_i he0
    have h2e : (2 : ℚ) ^ e = ((Nat.pow 2 e.toNat : ℕ) : ℚ) := by
      rw [Nat.pow_eq, Nat.cast_pow, Nat.cast_ofNat, ← zpow_natCast, Int.toNat_of_nonneg he0]
    refine decide_eq_decide.2 ?_
    rw [div_lt_iff₀ hd', h2e, ← Nat.cast_mul, Nat.cast_lt, Nat.mul_comm]
  · rename_i he0
    have h2e : (2 : ℚ) ^ e = ((Nat.pow 2 (-e).toNat : ℕ) : ℚ)⁻¹ := by
      rw [Nat.pow_eq, Nat.cast_pow, Nat.cast_ofNat, ← zpow_natCast,
        Int.toNat_of_nonneg (by omega), zpow_neg, inv_inv]
    refine decide_eq_decide.2 ?_
    rw [div_lt_iff₀ hd', h2e, inv_mul_eq_div, lt_div_iff₀ (by simp [Nat.pow_eq]), ← Nat.cast_mul,
      Nat.cast_lt]

theorem exponentOf_bounds {n d : ℕ} (hn : 0 < n) (hd : 0 < d) :
    (2 : ℚ) ^ exponentOf n d ≤ n / d ∧ (n : ℚ) / d < 2 ^ (exponentOf n d + 1) := by
  have h2 : (2 : ℚ) ≠ 0 := by norm_num
  have hd' : (0 : ℚ) < d := by exact_mod_cast hd
  obtain ⟨hn1, hn2⟩ := bitLength_bounds hn
  obtain ⟨hd1, hd2⟩ := bitLength_bounds hd
  set e : ℤ := (bitLength n : ℤ) - bitLength d with he
  have hlow : (2 : ℚ) ^ (e - 1) < n / d := by
    rw [lt_div_iff₀ hd']
    calc (2 : ℚ) ^ (e - 1) * d < 2 ^ (e - 1) * 2 ^ (bitLength d : ℤ) :=
          mul_lt_mul_of_pos_left hd2 (by positivity)
      _ = 2 ^ ((bitLength n : ℤ) - 1) := by rw [← zpow_add₀ h2, he]; ring_nf
      _ ≤ n := hn1
  have hhigh : (n : ℚ) / d < 2 ^ (e + 1) := by
    rw [div_lt_iff₀ hd']
    calc (n : ℚ) < 2 ^ (bitLength n : ℤ) := hn2
      _ = 2 ^ (e + 1) * 2 ^ ((bitLength d : ℤ) - 1) := by rw [← zpow_add₀ h2, he]; ring_nf
      _ ≤ 2 ^ (e + 1) * d := mul_le_mul_of_nonneg_left hd1 (by positivity)
  unfold exponentOf
  simp only [← he, below_eq_decide_lt n hd e]
  by_cases hb : (n : ℚ) / d < 2 ^ e
  · rw [decide_eq_true hb, if_pos rfl, sub_add_cancel]
    exact ⟨hlow.le, hb⟩
  · rw [decide_eq_false hb, if_neg (by simp)]
    exact ⟨not_lt.1 hb, hhigh⟩

theorem exponentOf_congr {n d n' d' : ℕ} (h : n * d' = n' * d) (hn : 0 < n) (hd : 0 < d)
    (hn' : 0 < n') (hd' : 0 < d') : exponentOf n d = exponentOf n' d' := by
  have hr : (n : ℚ) / d = n' / d' := by
    rw [div_eq_div_iff (by positivity) (by positivity)]
    exact_mod_cast h
  obtain ⟨h1, h2⟩ := exponentOf_bounds hn hd
  obtain ⟨h1', h2'⟩ := exponentOf_bounds hn' hd'
  rw [hr] at h1 h2
  exact eq_of_zpow_bounds (by norm_num) h1 h2 h1' h2'

theorem nearest_congr {n d n' d' : ℕ} (h : n * d' = n' * d) (hd : 0 < d) (hd' : 0 < d') :
    nearest n d = nearest n' d' := by
  by_cases hn : n = 0
  · have hn' : n' = 0 := by
      subst hn
      have h0 : n' * d = 0 := by rw [← h, Nat.zero_mul]
      rcases Nat.mul_eq_zero.1 h0 with h0 | h0
      · exact h0
      · omega
    simp [nearest, hn, hn']
  · have hn' : n' ≠ 0 := by
      rintro rfl
      have h0 : n * d' = 0 := by rw [h, Nat.zero_mul]
      rcases Nat.mul_eq_zero.1 h0 with h0 | h0 <;> omega
    have he := exponentOf_congr h (Nat.pos_of_ne_zero hn) hd (Nat.pos_of_ne_zero hn') hd'
    unfold nearest
    simp only [hn, hn', if_false, he]
    generalize max (exponentOf n' d' - 52) (-1074) = Q
    have hm : roundHalfEven (n * Nat.pow 2 (-Q).toNat) (d * Nat.pow 2 Q.toNat) =
        roundHalfEven (n' * Nat.pow 2 (-Q).toNat) (d' * Nat.pow 2 Q.toNat) := by
      refine roundHalfEven_congr ?_ (Nat.mul_pos hd (by simp [Nat.pow_eq]))
        (Nat.mul_pos hd' (by simp [Nat.pow_eq]))
      calc n * Nat.pow 2 (-Q).toNat * (d' * Nat.pow 2 Q.toNat)
          = (n * d') * (Nat.pow 2 (-Q).toNat * Nat.pow 2 Q.toNat) := by ring
        _ = (n' * d) * (Nat.pow 2 (-Q).toNat * Nat.pow 2 Q.toNat) := by rw [h]
        _ = n' * Nat.pow 2 (-Q).toNat * (d * Nat.pow 2 Q.toNat) := by ring
    rw [hm]

end Binary64

namespace Decimal

theorem value_eq_zero_iff (x : Decimal) : x.value = 0 ↔ x.coeff = 0 := by
  simp [value, zpow_ne_zero _ (by norm_num : (10 : ℚ) ≠ 0)]

theorem value_nonneg (x : Decimal) : 0 ≤ x.value := by
  unfold value
  positivity

theorem pow_le_value (x : Decimal) (hx : 0 < x.coeff) : (10 : ℚ) ^ (x.pointPosition - 1) ≤ x.value := by
  have h10 : (10 : ℚ) ≠ 0 := by norm_num
  have hc : 10 ^ (digitCount x.coeff - 1) ≤ x.coeff := by
    have hpos : digitCount x.coeff ≠ 0 := by
      intro h0
      have := lt_pow_digitCount x.coeff
      rw [h0] at this
      omega
    by_contra hlt
    have := digitCount_le_iff.2 (not_le.1 hlt)
    omega
  have hc' : (10 : ℚ) ^ ((digitCount x.coeff : ℤ) - 1) ≤ x.coeff := by
    have hpos : 1 ≤ digitCount x.coeff := by
      rcases Nat.eq_zero_or_pos (digitCount x.coeff) with h0 | h0
      · have := lt_pow_digitCount x.coeff
        rw [h0] at this
        omega
      · exact h0
    rw [show ((digitCount x.coeff : ℤ) - 1) = ((digitCount x.coeff - 1 : ℕ) : ℤ) by omega,
      zpow_natCast]
    exact_mod_cast hc
  rw [value, pointPosition, show (digitCount x.coeff : ℤ) + x.exp - 1 =
    ((digitCount x.coeff : ℤ) - 1) + x.exp by ring, zpow_add₀ h10]
  exact mul_le_mul_of_nonneg_right hc' (by positivity)

theorem pointPosition_congr {x y : Decimal} (hx : 0 < x.coeff) (hy : 0 < y.coeff)
    (h : x.value = y.value) : x.pointPosition = y.pointPosition := by
  have hx1 := x.pow_le_value hx
  have hx2 := x.value_lt
  have hy1 := y.pow_le_value hy
  have hy2 := y.value_lt
  rw [h] at hx1 hx2
  have := eq_of_zpow_bounds (b := 10) (by norm_num) hx1 (by simpa using hx2) hy1 (by simpa using hy2)
  omega

theorem value_eq_ratio (x : Decimal) :
    x.value = ((x.coeff * Nat.pow 10 x.exp.toNat : ℕ) : ℚ) / (Nat.pow 10 (-x.exp).toNat : ℕ) := by
  have h10 : (10 : ℚ) ≠ 0 := by norm_num
  rw [value, Nat.pow_eq, Nat.pow_eq]
  push_cast
  rw [← zpow_natCast, ← zpow_natCast, mul_div_assoc, ← zpow_sub₀ h10]
  congr 2
  omega

theorem toWord_congr {x y : Decimal} (h : x.value = y.value) : x.toWord = y.toWord := by
  by_cases hx : x.coeff = 0
  · have hy : y.coeff = 0 := (value_eq_zero_iff y).1 (h ▸ (value_eq_zero_iff x).2 hx)
    simp [toWord, hx, hy]
  · have hy : y.coeff ≠ 0 := fun hy => hx ((value_eq_zero_iff x).1 (h ▸ (value_eq_zero_iff y).2 hy))
    have hp := pointPosition_congr (Nat.pos_of_ne_zero hx) (Nat.pos_of_ne_zero hy) h
    unfold toWord
    rw [if_neg hx, if_neg hy, hp]
    congr 2
    apply Binary64.nearest_congr _ (by simp [Nat.pow_eq]) (by simp [Nat.pow_eq])
    have hr := h
    rw [value_eq_ratio, value_eq_ratio, div_eq_div_iff (by simp [Nat.pow_eq])
      (by simp [Nat.pow_eq])] at hr
    exact_mod_cast hr

theorem toFloat_congr (negative : Bool) {x y : Decimal} (h : x.value = y.value) :
    x.toFloat negative = y.toFloat negative := by
  rw [toFloat, toFloat, toWord_congr h]

end Decimal

end PocketCalc
