import PocketCalc.Proofs.DecimalText
namespace PocketCalc.Number

def Shows (grouping : Bool) (places : ℤ) (r : ℚ) (text : List Char) : Prop :=
  (r = 0 ∧ text = ['0']) ∨
  (r ≠ 0 ∧ ∃ whole frac : List Char,
    text = (if r < 0 then ['-'] else []) ++ whole ++ (if frac = [] then [] else '.' :: frac) ∧
    (if grouping then GroupedByThousands (decimalDigits ⌊|r|⌋₊) whole
      else whole = decimalDigits ⌊|r|⌋₊) ∧
    (∀ c ∈ frac, isAsciiDigit c = true) ∧ frac.length ≤ places.toNat ∧
    frac.getLast? ≠ some '0' ∧
    ∃ D, decimalLiteral? (text.filter (· ≠ ',')) = some (decide (r < 0), D) ∧ D.value = |r|)

theorem roundToPlaces_placesNeeded (d : Decimal) (places : ℤ) :
    (d.roundToPlaces (placesNeeded d places) : ℚ) * 10 ^ (-placesNeeded d places) =
      d.roundToPlaces places * 10 ^ (-places) := by
  unfold placesNeeded
  split
  · rename_i h
    have h1 : 0 ≤ d.exp + max 0 (-d.exp) := by omega
    have h2 : 0 ≤ d.exp + places := by omega
    rw [Decimal.roundToPlaces_exact d _ h1, Decimal.roundToPlaces_exact d _ h2,
      Decimal.value_of_shift_nonneg d _ h1, Decimal.value_of_shift_nonneg d _ h2]
  · rfl

theorem roundToPlaces_placesNeeded_eq_zero (d : Decimal) (places : ℤ) :
    d.roundToPlaces (placesNeeded d places) = 0 ↔ d.roundToPlaces places = 0 := by
  have heq := roundToPlaces_placesNeeded d places
  have h1 : (0 : ℚ) < 10 ^ (-placesNeeded d places) := by positivity
  have h2 : (0 : ℚ) < 10 ^ (-places) := by positivity
  constructor
  · intro h0
    rw [h0, Nat.cast_zero, zero_mul] at heq
    exact_mod_cast (mul_eq_zero.1 heq.symm).resolve_right h2.ne'
  · intro h0
    rw [h0, Nat.cast_zero, zero_mul] at heq
    exact_mod_cast (mul_eq_zero.1 heq).resolve_right h1.ne'

theorem toNat_placesNeeded_le (d : Decimal) (places : ℤ) :
    (placesNeeded d places).toNat ≤ places.toNat := by
  unfold placesNeeded
  split <;> omega

theorem filter_comma_digits {ds : List Char} (h : ∀ c ∈ ds, isAsciiDigit c = true) :
    ds.filter (· ≠ ',') = ds :=
  List.filter_eq_self.2 fun c hc => by simpa using ne_of_isAsciiDigit (h c hc) (by decide)

theorem filter_comma_wholeDigits (grouping : Bool) (n : ℕ) :
    (if grouping then groupThousands (decimalDigits n) else decimalDigits n).filter (· ≠ ',') =
      decimalDigits n := by
  have hd : ∀ c ∈ decimalDigits n, isAsciiDigit c = true :=
    fun c hc => isAsciiDigit_of_mem_decimalDigits hc
  cases grouping with
  | false => exact filter_comma_digits hd
  | true =>
    exact (groupThousands_grouped Nat.toDigits_ne_nil).filter_comma
      fun hc => absurd (hd _ hc) (by decide)

theorem isAsciiDigit_of_mem_fracOption {frac : List Char} (h : ∀ c ∈ frac, isAsciiDigit c = true) :
    ∀ f ∈ (if frac = [] then none else some frac), ∀ c ∈ f, isAsciiDigit c = true := by
  intro f hf
  split at hf
  · cases hf
  · cases hf
    exact h

theorem filter_comma_shown (negative : Bool) {whole : List Char} {n : ℕ}
    (hw : whole.filter (· ≠ ',') = decimalDigits n) {frac : List Char}
    (hf : ∀ c ∈ frac, isAsciiDigit c = true) :
    ((if negative then ['-'] else []) ++ whole ++ (if frac = [] then [] else '.' :: frac)).filter
      (· ≠ ',') = numeral negative (decimalDigits n) (if frac = [] then none else some frac) := by
  have hpt : (if frac = [] then [] else '.' :: frac).filter (· ≠ ',') =
      (if frac = [] then [] else '.' :: frac) := by
    split
    · rfl
    · rw [List.filter_cons, if_pos (by decide), filter_comma_digits hf]
  rw [List.filter_append, List.filter_append, hw, hpt]
  by_cases hfr : frac = [] <;> cases negative <;> simp [numeral, hfr]

theorem numeralValue_shown (n : ℕ) (frac : List Char) :
    (numeralValue (decimalDigits n) (if frac = [] then none else some frac)).value =
      n + digitsValue frac / 10 ^ frac.length := by
  rw [numeralValue_value]
  by_cases hf : frac = []
  · rw [if_pos hf, Option.getD_none, List.append_nil, digitsValue_decimalDigits, hf]
    simp [digitsValue]
  · rw [if_neg hf, Option.getD_some, digitsValue_append, digitsValue_decimalDigits]
    have h10 : (10 : ℚ) ≠ 0 := by norm_num
    push_cast
    rw [zpow_neg, zpow_natCast, add_mul, mul_assoc, mul_inv_cancel₀ (pow_ne_zero _ h10), mul_one,
      div_eq_mul_inv]

theorem shows_fixedChars (grouping : Bool) {P places : ℤ} (hP : places.toNat ≤ P.toNat)
    {units : ℕ} (hu : 0 < units) {r : ℚ} (hr : |r| = units * 10 ^ (-places)) {negative : Bool}
    (hneg : r < 0 ↔ negative = true) :
    Shows grouping P r ((if negative then ['-'] else []) ++ fixedChars units places grouping) := by
  obtain ⟨whole, frac, htext, hdig, hlast, hlen, hval⟩ := fixedChars_spec units places grouping
  have hr0 : r ≠ 0 := by
    intro h0
    have : (0 : ℚ) < units * 10 ^ (-places) := mul_pos (by exact_mod_cast hu) (by positivity)
    rw [h0, abs_zero] at hr
    linarith
  have hfrac : (digitsValue frac : ℚ) / 10 ^ frac.length < 1 := by
    rw [div_lt_one (by positivity)]
    exact_mod_cast digitsValue_lt hdig
  have hfloor : ⌊|r|⌋₊ = whole := by
    rw [Nat.floor_eq_iff (abs_nonneg r), hr, ← hval]
    constructor
    · have : (0 : ℚ) ≤ digitsValue frac / 10 ^ frac.length := by positivity
      linarith
    · linarith
  have hsign : (if r < 0 then ['-'] else []) = (if negative then ['-'] else []) := by
    cases negative <;> simp [hneg]
  have hsigned : decide (r < 0) = negative := by
    cases negative <;> simp [hneg]
  have hw : decimalDigits whole ≠ [] := Nat.toDigits_ne_nil
  obtain ⟨w, ws, hws⟩ := List.exists_cons_of_ne_nil hw
  have hdigits : ∀ c ∈ w :: ws, isAsciiDigit c = true :=
    fun c hc => isAsciiDigit_of_mem_decimalDigits (hws ▸ hc)
  have hclean : ((if negative then ['-'] else []) ++ fixedChars units places grouping).filter
      (· ≠ ',') = numeral negative (decimalDigits whole) (if frac = [] then none else some frac) := by
    rw [htext, ← List.append_assoc]
    exact filter_comma_shown negative (filter_comma_wholeDigits grouping whole) hdig
  right
  refine ⟨hr0, if grouping then groupThousands (decimalDigits whole) else decimalDigits whole,
    frac, by rw [htext, hsign, List.append_assoc], ?_, hdig, hlen.trans hP, hlast, ?_⟩
  · rw [hfloor]
    cases grouping with
    | false => exact rfl
    | true => exact groupThousands_grouped hw
  · refine ⟨_, by
      rw [hclean, hsigned, hws]
      exact decimalLiteral_numeral negative _ hdigits (isAsciiDigit_of_mem_fracOption hdig), ?_⟩
    rw [← hws, numeralValue_shown, hr, ← hval]

theorem display_of_nan {x : Float} (hx : Binary64.parts x = .nan) (places : ℤ) (grouping : Bool) :
    display x places grouping = "NaN" := by
  simp only [display, hx]
  rfl

theorem display_of_infinity {x : Float} {negative : Bool} (hx : Binary64.parts x = .infinity negative)
    (places : ℤ) (grouping : Bool) :
    display x places grouping = if negative then "-∞" else "∞" := by
  simp only [display, hx]
  cases negative <;> rfl

theorem intCast_mul_neg_iff {k : ℤ} {u : ℚ} (hu : 0 < u) : (k : ℚ) * u < 0 ↔ k < 0 :=
  ⟨fun h => by exact_mod_cast neg_of_mul_neg_left h hu.le,
    fun h => mul_neg_of_neg_of_pos (by exact_mod_cast h) hu⟩

theorem display_finite (x : Float) (places : ℤ) (grouping : Bool) {negative : Bool} {m : ℕ}
    {q : ℤ} (hx : Binary64.parts x = .finite negative m q) :
    ∃ k : ℤ, RoundsHalfEven (if negative then -(if m = 0 then 0 else (Decimal.shortest m q).value)
        else (if m = 0 then 0 else (Decimal.shortest m q).value)) (10 ^ (-places)) k ∧
      Shows grouping places (k * 10 ^ (-places)) (display x places grouping).toList := by
  have hu : (0 : ℚ) < 10 ^ (-places) := by positivity
  set d := Decimal.shortest m q
  have hdisp : display x places grouping =
      if (if m = 0 then 0 else d.roundToPlaces (placesNeeded d places)) = 0 then "0"
      else String.ofList ((if negative then ['-'] else []) ++
        fixedChars (if m = 0 then 0 else d.roundToPlaces (placesNeeded d places))
          (placesNeeded d places) grouping) := by
    simp only [display, hx]
    rfl
  by_cases hm : m = 0
  · refine ⟨0, ?_, .inl ⟨by simp, by rw [hdisp, if_pos (if_pos hm)]; rfl⟩⟩
    exact .of_exact hu (by simp [hm])
  · set k0 := d.roundToPlaces places with hk0def
    have hk0 : RoundsHalfEven d.value (10 ^ (-places)) k0 := d.roundToPlaces_rounds places
    refine ⟨if negative then -(k0 : ℤ) else k0, ?_, ?_⟩
    · rw [if_neg hm]
      cases negative with
      | false => exact hk0
      | true => exact hk0.neg
    · have heq := roundToPlaces_placesNeeded d places
      rw [← hk0def] at heq
      rw [hdisp, if_neg hm]
      by_cases hz : k0 = 0
      · rw [if_pos ((roundToPlaces_placesNeeded_eq_zero d places).2 hz)]
        left
        cases negative <;> simp [hz]
      · have hz' := mt (roundToPlaces_placesNeeded_eq_zero d places).1 hz
        rw [if_neg hz', String.toList_ofList]
        refine shows_fixedChars grouping (toNat_placesNeeded_le d places) (Nat.pos_of_ne_zero hz')
          ?_ ?_
        · rw [heq]
          cases negative with
          | false => simp only [Bool.false_eq_true, if_false, Int.cast_natCast, abs_mul, Nat.abs_cast,
              abs_of_pos hu]
          | true => simp only [if_true, Int.cast_neg, Int.cast_natCast, abs_mul, abs_neg, Nat.abs_cast,
              abs_of_pos hu]
        · have hk : 0 < k0 := Nat.pos_of_ne_zero hz
          rw [intCast_mul_neg_iff hu]
          cases negative <;> simp [hk]

theorem roundingFault_eq_none (lead : ℤ) {places : ℤ} (hlo : -25 ≤ places) (hhi : places ≤ 50) :
    roundingFault lead places = none := by
  unfold roundingFault
  have h1 : ¬2 * (maxExponent + max basePrecision (lead + places + 2)) < places.natAbs := by
    simp only [maxExponent, basePrecision]
    omega
  have h2 : ¬maxExponent < -places := by
    simp only [maxExponent]
    omega
  simp only [h1, h2, if_false]

theorem displayChecked_eq_ok (x : Float) {places : ℤ} (hlo : -25 ≤ places) (hhi : places ≤ 50)
    (grouping : Bool) : displayChecked x places grouping = .ok (display x places grouping) := by
  unfold displayChecked
  split
  · rw [roundingFault_eq_none _ hlo hhi]
  · rfl

theorem digitCount_rounded_le (m : ℕ) (q places : ℤ) :
    (digitCount (if m = 0 then 0 else (Decimal.shortest m q).roundToPlaces places) : ℤ) ≤
      max basePrecision (leadExponent m q + places + 2) := by
  unfold leadExponent basePrecision
  by_cases hm : m = 0
  · simp [hm, digitCount_zero]
  · have := digitCount_roundToPlaces (Decimal.shortest m q) places
    simp only [hm, if_false]
    omega

theorem display_rounds_half_even (x : Float) (places : ℤ) (hlo : -25 ≤ places) (hhi : places ≤ 50)
    (grouping : Bool) :
    displayChecked x places grouping = .ok (display x places grouping) ∧
    (Binary64.parts x = .nan → display x places grouping = "NaN") ∧
    (∀ negative, Binary64.parts x = .infinity negative →
      display x places grouping = if negative then "-∞" else "∞") ∧
    ∀ negative m q, Binary64.parts x = .finite negative m q →
      (digitCount (if m = 0 then 0 else (Decimal.shortest m q).roundToPlaces places) : ℤ) ≤
          max basePrecision (leadExponent m q + places + 2) ∧
      ∃ D, decimalLiteral? (literal x).toList = some (negative, D) ∧
        ∃ k : ℤ, RoundsHalfEven (if negative then -D.value else D.value) (10 ^ (-places)) k ∧
          Shows grouping places (k * 10 ^ (-places)) (display x places grouping).toList := by
  refine ⟨displayChecked_eq_ok x hlo hhi grouping, fun hx => ?_, fun negative hx => ?_,
    fun negative m q hx => ⟨digitCount_rounded_le m q places, ?_⟩⟩
  · exact display_of_nan hx places grouping
  · exact display_of_infinity hx places grouping
  · obtain ⟨D, hD, hv⟩ := literal_value x hx
    have h := display_finite x places grouping hx
    rw [← hv] at h
    exact ⟨D, hD, h⟩

theorem two_and_a_half_shows_two :
    -25 ≤ (0 : ℤ) ∧ (0 : ℤ) ≤ 50 ∧ Shows true 0 2 (display 2.5 0 true).toList := by
  obtain ⟨-, -, -, hfinite⟩ := display_rounds_half_even 2.5 0 (by decide) (by decide) true
  obtain ⟨-, D, hD, k, hk, hshows⟩ := hfinite false (5 * 2 ^ 50) (-51) (by decide +kernel)
  have hlit : decimalLiteral? (literal 2.5).toList = some (false, ⟨25, -1⟩) := by decide +kernel
  rw [hlit, Option.some.injEq, Prod.mk.injEq] at hD
  obtain ⟨-, rfl⟩ := hD
  have h2 : RoundsHalfEven (if false = true then -(⟨25, -1⟩ : Decimal).value
      else (⟨25, -1⟩ : Decimal).value) (10 ^ (-0 : ℤ)) 2 :=
    ⟨by norm_num [Decimal.value], fun _ => even_two⟩
  have hk2 : k = 2 := hk.unique (by norm_num) h2
  subst hk2
  exact ⟨by decide, by decide, by simpa using hshows⟩

example : display 1234.5678 2 true = "1,234.57" := by decide +kernel

end PocketCalc.Number
