import PocketCalc.Proofs.DisplayRounding
import PocketCalc.Proofs.Nearest
namespace PocketCalc.Number

theorem mem_of_filter_comma {whole ds : List Char} (h : whole.filter (· ≠ ',') = ds) {c : Char}
    (hc : c ∈ whole) : c = ',' ∨ c ∈ ds := by
  by_cases hcomma : c = ','
  · exact .inl hcomma
  · exact .inr (h ▸ List.mem_filter.2 ⟨hc, by simpa using hcomma⟩)

theorem not_blank_of_mem_shown {negative : Bool} {whole frac : List Char} {n : ℕ}
    (hw : whole.filter (· ≠ ',') = decimalDigits n) (hf : ∀ c ∈ frac, isAsciiDigit c = true) :
    ∀ c ∈ (if negative then ['-'] else []) ++ whole ++ (if frac = [] then [] else '.' :: frac),
      Text.isBlank c = false := by
  intro c hc
  simp only [List.mem_append] at hc
  rcases hc with (hc | hc) | hc
  · split at hc
    · rw [List.mem_singleton.1 hc]
      decide
    · cases hc
  · rcases mem_of_filter_comma hw hc with rfl | hc
    · decide
    · exact (plain_of_isAsciiDigit (isAsciiDigit_of_mem_decimalDigits hc)).not_blank
  · split at hc
    · cases hc
    · rcases List.mem_cons.1 hc with rfl | hc
      · decide
      · exact (plain_of_isAsciiDigit (hf c hc)).not_blank

theorem Shows.read {grouping : Bool} {places : ℤ} {r : ℚ} {text : List Char}
    (h : Shows grouping places r text) :
    ∃ D : Decimal, D.value = |r| ∧ read (String.ofList text) = .ok (D.toFloat (decide (r < 0))) := by
  rcases h with ⟨rfl, rfl⟩ | ⟨-, whole, frac, htext, hgroup, hdig, -, -, D, hD, hv⟩
  · refine ⟨numeralValue ['0'] none, by simp [numeralValue_value, digitsValue], ?_⟩
    have hread := @read_numeral false '0' [] none (by simp [isAsciiDigit]) (by simp)
    simpa [numeral] using hread
  · set n := ⌊|r|⌋₊
    have hdn : ∀ c ∈ decimalDigits n, isAsciiDigit c = true :=
      fun c hc => isAsciiDigit_of_mem_decimalDigits hc
    have hw : whole.filter (· ≠ ',') = decimalDigits n := by
      cases grouping with
      | false =>
        have hg : whole = decimalDigits n := hgroup
        rw [hg]
        exact filter_comma_digits hdn
      | true => exact GroupedByThousands.filter_comma hgroup fun hc => absurd (hdn _ hc) (by decide)
    have hsign : (if r < 0 then ['-'] else []) = (if decide (r < 0) = true then ['-'] else []) := by
      simp only [decide_eq_true_eq]
    rw [hsign] at htext
    have hclean := filter_comma_shown (decide (r < 0)) hw hdig
    rw [← htext] at hclean
    have hne : decimalDigits n ≠ [] := Nat.toDigits_ne_nil
    obtain ⟨w, ws, hws⟩ := List.exists_cons_of_ne_nil hne
    have hdigits : ∀ c ∈ w :: ws, isAsciiDigit c = true := fun c hc => hdn c (hws ▸ hc)
    rw [hws] at hclean
    have hfopt := isAsciiDigit_of_mem_fracOption hdig
    have hlit := decimalLiteral_numeral (decide (r < 0)) _ hdigits hfopt
    rw [← hclean, hD] at hlit
    obtain ⟨-, rfl⟩ := Prod.mk.inj (Option.some.inj hlit)
    refine ⟨_, hv, read_of_cleaned (decide (r < 0)) _ hdigits hfopt ?_⟩
    have hblank : ∀ c ∈ text, Text.isBlank c = false := by
      rw [htext]
      exact not_blank_of_mem_shown hw hdig
    rw [String.toList_ofList, trimChars_eq_self hblank, hclean]

def LiteralChar (c : Char) : Prop :=
  isAsciiDigit c = true ∨ c = '.' ∨ c = '-' ∨ c = 'e' ∨ c = '+'

theorem LiteralChar.asciiPlain {c : Char} (h : LiteralChar c) : AsciiPlain c := by
  rcases h with h | rfl | rfl | rfl | rfl
  · exact (plain_of_isAsciiDigit h).toAsciiPlain
  all_goals exact ⟨by decide, by decide, by decide, by decide, by decide⟩

theorem literalChar_of_mem_layout (x : Decimal) {c : Char} (h : c ∈ layout x) : LiteralChar c := by
  have hzero : LiteralChar '0' := .inl rfl
  unfold layout at h
  dsimp only at h
  have hds : ∀ c ∈ decimalDigits x.coeff, LiteralChar c :=
    fun c hc => .inl (isAsciiDigit_of_mem_decimalDigits hc)
  have hsgn : LiteralChar (if x.pointPosition - 1 < 0 then '-' else '+') := by
    split
    · exact .inr (.inr (.inl rfl))
    · exact .inr (.inr (.inr (.inr rfl)))
  generalize decimalDigits x.coeff = ds at h hds
  generalize (if x.pointPosition - 1 < 0 then '-' else '+') = sgn at h hsgn
  split_ifs at h
  · simp only [List.cons_append, List.mem_cons, List.mem_append, List.mem_replicate] at h
    rcases h with rfl | rfl | ⟨-, rfl⟩ | h
    exacts [hzero, .inr (.inl rfl), hzero, hds c h]
  · simp only [List.mem_append, List.mem_replicate, List.mem_cons, List.not_mem_nil,
      or_false] at h
    rcases h with (h | ⟨-, rfl⟩) | rfl | rfl
    exacts [hds c h, hzero, .inr (.inl rfl), hzero]
  · simp only [List.mem_append, List.mem_cons] at h
    rcases h with h | rfl | h
    exacts [hds c (List.mem_of_mem_take h), .inr (.inl rfl), hds c (List.mem_of_mem_drop h)]
  · simp only [List.mem_append, List.mem_cons] at h
    rcases h with h | rfl | rfl | h
    · rcases ds with _ | ⟨d, _ | ⟨d', rest⟩⟩
      · simp only [List.mem_singleton] at h
        rw [h]
        exact hzero
      · simp only [List.mem_singleton] at h
        rw [h]
        exact hds d (by simp)
      · simp only [List.mem_cons] at h
        rcases h with rfl | rfl | h
        exacts [hds c (by simp), .inr (.inl rfl), hds c (by simp [h])]
    · exact .inr (.inr (.inr (.inl rfl)))
    · exact hsgn
    · exact .inl (isAsciiDigit_of_mem_paddedDigits h)

theorem literalChar_of_mem_literal (x : Float) {negative : Bool} {m : ℕ} {q : ℤ}
    (hx : Binary64.parts x = .finite negative m q) {c : Char} (hc : c ∈ (literal x).toList) :
    LiteralChar c := by
  rw [literal, String.toList_ofList, literalChars, hx] at hc
  dsimp only at hc
  have hbody : ∀ c ∈ (if m = 0 then ['0', '.', '0'] else layout (Decimal.shortest m q)),
      LiteralChar c := by
    intro c hc
    split at hc
    · simp only [List.mem_cons, List.not_mem_nil, or_false] at hc
      rcases hc with rfl | rfl | rfl
      exacts [.inl rfl, .inr (.inl rfl), .inl rfl]
    · exact literalChar_of_mem_layout _ hc
  split at hc
  · rcases List.mem_cons.1 hc with rfl | hc
    · exact .inr (.inr (.inl rfl))
    · exact hbody c hc
  · exact hbody c hc

theorem literalValue_literal (x : Float) {negative : Bool} {m : ℕ} {q : ℤ}
    (hx : Binary64.parts x = .finite negative m q) {D : Decimal}
    (hD : decimalLiteral? (literal x).toList = some (negative, D)) :
    literalValue? (literal x) = some (D.toFloat negative) := by
  have hform : readerForm (literal x).toList = some (literal x).toList :=
    readerForm_of_plain fun c hc => (literalChar_of_mem_literal x hx hc).asciiPlain
  simp [literalValue?, hform, hD]

theorem toFloat_of_value_eq_zero {D : Decimal} (h : D.value = 0) (negative : Bool) :
    D.toFloat negative = Binary64.ofWord (Binary64.withSign negative 0) := by
  rw [Decimal.toFloat, Decimal.toWord, if_pos ((Decimal.value_eq_zero_iff D).1 h)]

theorem parts_signed_zero (negative : Bool) :
    Binary64.parts (Binary64.ofWord (Binary64.withSign negative 0)) = .finite negative 0 (-1074) := by
  cases negative <;> decide +kernel

theorem value_natAbs (k places : ℤ) :
    (⟨k.natAbs, -places⟩ : Decimal).value = |(k : ℚ) * 10 ^ (-places)| := by
  have hu : (0 : ℚ) < 10 ^ (-places) := by positivity
  rw [Decimal.value, abs_mul, abs_of_pos hu, Nat.cast_natAbs, Int.cast_abs]

theorem Shows.read_units {grouping : Bool} {places k : ℤ} {text : List Char}
    (h : Shows grouping places ((k : ℚ) * 10 ^ (-places)) text) :
    Number.read (String.ofList text) =
      .ok (Decimal.toFloat (decide (k < 0)) ⟨k.natAbs, -places⟩) := by
  obtain ⟨E, hE, hread⟩ := h.read
  rw [hread, decide_eq_decide.2 (intCast_mul_neg_iff (by positivity)),
    Decimal.toFloat_congr _ (hE.trans (value_natAbs k places).symm)]

theorem toFloat_units_of_exact {x : Float} {negative : Bool} {m : ℕ} {q : ℤ}
    (hx : Binary64.parts x = .finite negative m q) {D : Decimal}
    (hv : D.value = if m = 0 then 0 else (Decimal.shortest m q).value)
    (hx' : D.toFloat negative = x) {k places : ℤ}
    (hexact : (k : ℚ) * 10 ^ (-places) = if negative then -D.value else D.value) :
    Decimal.toFloat (decide (k < 0)) ⟨k.natAbs, -places⟩ = if m = 0 then Binary64.ofWord 0 else x := by
  have hu : (0 : ℚ) < 10 ^ (-places) := by positivity
  by_cases hD0 : D.value = 0
  · have hk0 : k = 0 := by
      rw [hD0, neg_zero, ite_self] at hexact
      exact_mod_cast (mul_eq_zero.1 hexact).resolve_right hu.ne'
    have hm : m = 0 := by
      have hz := parts_signed_zero negative
      rw [← toFloat_of_value_eq_zero hD0, hx', hx] at hz
      cases hz
      rfl
    subst hk0
    rw [if_pos hm]
    rfl
  · have hm : m ≠ 0 := fun hm => hD0 (by rw [hv, if_pos hm])
    have hpos : 0 < D.value := lt_of_le_of_ne (Decimal.value_nonneg D) (Ne.symm hD0)
    have hneg : decide (k < 0) = negative := by
      have h := intCast_mul_neg_iff (k := k) hu
      rw [hexact] at h
      cases negative <;> simp [hpos, not_lt.2 hpos.le] at h <;> simp [h]
    have hval : (⟨k.natAbs, -places⟩ : Decimal).value = D.value := by
      rw [value_natAbs, hexact]
      cases negative <;> simp [abs_of_pos hpos]
    rw [if_neg hm, hneg, Decimal.toFloat_congr _ hval, hx']

theorem read_display (x : Float) (places : ℤ) (h0 : 0 ≤ places) (h15 : places ≤ 15)
    (grouping : Bool) :
    displayChecked x places grouping = .ok (display x places grouping) ∧
    (Binary64.parts x = .nan → read (display x places grouping) = .ok Binary64.nan) ∧
    (∀ negative, Binary64.parts x = .infinity negative →
      read (display x places grouping) =
        .ok (if negative then -Binary64.infinity else Binary64.infinity)) ∧
    ∀ negative m q, Binary64.parts x = .finite negative m q →
      ∃ D, decimalLiteral? (literal x).toList = some (negative, D) ∧
        ∃ k : ℤ, RoundsHalfEven (if negative then -D.value else D.value) (10 ^ (-places)) k ∧
          read (display x places grouping) = .ok (Decimal.toFloat (decide (k < 0)) ⟨k.natAbs, -places⟩) ∧
          ((k : ℚ) * 10 ^ (-places) = (if negative then -D.value else D.value) →
            literalValue? (literal x) = some x →
            read (display x places grouping) = .ok (if m = 0 then Binary64.ofWord 0 else x)) := by
  refine ⟨displayChecked_eq_ok x (by omega) (by omega) grouping, fun hx => ?_, fun negative hx => ?_,
    fun negative m q hx => ?_⟩
  · rw [display_of_nan hx]
    rfl
  · rw [display_of_infinity hx]
    cases negative <;> rfl
  obtain ⟨D, hD, hv⟩ := literal_value x hx
  obtain ⟨k, hk, hshows⟩ := display_finite x places grouping hx
  rw [← hv] at hk
  have hread := hshows.read_units
  rw [String.ofList_toList] at hread
  refine ⟨D, hD, k, hk, hread, fun hexact hrepr => ?_⟩
  have hx' : D.toFloat negative = x :=
    Option.some.inj ((literalValue_literal x hx hD).symm.trans hrepr)
  rw [hread, toFloat_units_of_exact hx hv hx' hexact]

theorem two_and_a_half_reads_back :
    0 ≤ (1 : ℤ) ∧ (1 : ℤ) ≤ 15 ∧
      displayChecked 2.5 1 true = .ok (display 2.5 1 true) ∧ read (display 2.5 1 true) = .ok 2.5 := by
  obtain ⟨hchecked, -, -, hfinite⟩ := read_display 2.5 1 (by decide) (by decide) true
  obtain ⟨D, hD, k, hk, -, hexact⟩ := hfinite false (5 * 2 ^ 50) (-51) (by decide +kernel)
  have hlit : decimalLiteral? (literal 2.5).toList = some (false, ⟨25, -1⟩) := by decide +kernel
  rw [hlit, Option.some.injEq, Prod.mk.injEq] at hD
  obtain ⟨-, rfl⟩ := hD
  have h25 : RoundsHalfEven (if false = true then -(⟨25, -1⟩ : Decimal).value
      else (⟨25, -1⟩ : Decimal).value) (10 ^ (-1 : ℤ)) 25 :=
    .of_exact (by norm_num) (by norm_num [Decimal.value])
  have hk25 : k = 25 := hk.unique (by norm_num) h25
  subst hk25
  have h := hexact (by norm_num [Decimal.value]) (by decide +kernel)
  exact ⟨by decide, by decide, hchecked, by simpa using h⟩

end PocketCalc.Number
