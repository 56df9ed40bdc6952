import PocketCalc.Proofs.HalfEven
import PocketCalc.Proofs.EntryText
namespace PocketCalc.Number

theorem digitsValue_eq_ofDigitChars (ds : List Char) : digitsValue ds = Nat.ofDigitChars 10 ds 0 :=
  rfl

theorem digitsValue_append (a b : List Char) :
    digitsValue (a ++ b) = digitsValue a * 10 ^ b.length + digitsValue b := by
  rw [digitsValue_eq_ofDigitChars, Nat.ofDigitChars_append, Nat.ofDigitChars_eq_ofDigitChars_zero,
    ← digitsValue_eq_ofDigitChars, ← digitsValue_eq_ofDigitChars, Nat.mul_comm]

@[simp] theorem digitsValue_decimalDigits (n : ℕ) : digitsValue (decimalDigits n) = n :=
  Nat.ofDigitChars_ten_toDigits

@[simp] theorem digitsValue_replicate_zero (t : ℕ) : digitsValue (List.replicate t '0') = 0 := by
  rw [digitsValue_eq_ofDigitChars, Nat.ofDigitChars_replicate_zero, Nat.mul_zero]

theorem digitsValue_lt {ds : List Char} (h : ∀ c ∈ ds, isAsciiDigit c = true) :
    digitsValue ds < 10 ^ ds.length := by
  induction ds with
  | nil => decide
  | cons c ds ih =>
    have hc := (isAsciiDigit_iff.1 (h c (by simp)))
    have hlt := ih fun d hd => h d (by simp [hd])
    rw [show c :: ds = [c] ++ ds from rfl, digitsValue_append]
    have hv : digitsValue [c] = c.toNat - 48 := by simp [digitsValue]
    rw [hv, List.length_append, List.length_singleton, show 1 + ds.length = ds.length + 1 by omega,
      pow_succ]
    have : (c.toNat - 48) * 10 ^ ds.length + digitsValue ds < ((c.toNat - 48) + 1) * 10 ^ ds.length := by
      rw [Nat.add_mul, one_mul]
      omega
    calc _ < ((c.toNat - 48) + 1) * 10 ^ ds.length := this
      _ ≤ 10 * 10 ^ ds.length := Nat.mul_le_mul_right _ (by omega)
      _ = 10 ^ ds.length * 10 := Nat.mul_comm _ _

theorem length_decimalDigits {n : ℕ} (h : 0 < n) : (decimalDigits n).length = digitCount n := by
  have hpos : 0 < digitCount n := by
    rcases Nat.eq_zero_or_pos (digitCount n) with h0 | h0
    · have := lt_pow_digitCount n
      rw [h0] at this
      omega
    · exact h0
  apply Nat.le_antisymm
  · exact (Nat.length_toDigits_le_iff (by norm_num) hpos).2 (lt_pow_digitCount n)
  · exact digitCount_le_iff.2 ((Nat.length_toDigits_le_iff (by norm_num) Nat.length_toDigits_pos).1
      le_rfl)

def GroupedByThousands (ds out : List Char) : Prop :=
  ∃ (lead : List Char) (groups : List (List Char)), lead ≠ [] ∧ lead.length ≤ 3 ∧
    (∀ g ∈ groups, g.length = 3) ∧ ds = lead ++ groups.flatten ∧
    out = lead ++ groups.flatMap (',' :: ·)

theorem groupThousands_go_grouped (l : List Char) (hl : l ≠ []) :
    GroupedByThousands l.reverse (groupThousands.go l).reverse := by
  induction l using groupThousands.go.induct with
  | case1 a b c d rest ih =>
    obtain ⟨lead, groups, hne, hlen, hg, hds, hout⟩ := ih (by simp)
    refine ⟨lead, groups ++ [[c, b, a]], hne, hlen, ?_, ?_, ?_⟩
    · intro g hg'
      rcases List.mem_append.1 hg' with hg' | hg'
      · exact hg g hg'
      · simp at hg'
        simp [hg']
    · rw [show a :: b :: c :: d :: rest = [a, b, c] ++ d :: rest from rfl, List.reverse_append, hds]
      simp
    · rw [groupThousands.go.eq_1]
      simp [hout]
  | case2 rest hrest =>
    rw [groupThousands.go.eq_2 rest hrest]
    have hlen : rest.length ≤ 3 := by
      rcases rest with _ | ⟨a, _ | ⟨b, _ | ⟨c, _ | ⟨d, t⟩⟩⟩⟩
      · simp
      · simp
      · simp
      · simp
      · exact absurd rfl (hrest a b c d t)
    exact ⟨rest.reverse, [], by simpa using hl, by simpa using hlen, by simp, by simp, by simp⟩

theorem groupThousands_grouped {ds : List Char} (h : ds ≠ []) :
    GroupedByThousands ds (groupThousands ds) := by
  have := groupThousands_go_grouped ds.reverse (by simpa using h)
  rwa [List.reverse_reverse] at this

theorem GroupedByThousands.filter_comma {ds out : List Char} (h : GroupedByThousands ds out)
    (hds : ',' ∉ ds) : out.filter (· ≠ ',') = ds := by
  obtain ⟨lead, groups, -, -, -, rfl, rfl⟩ := h
  have hkeep : ∀ l : List Char, (∀ c ∈ l, c ≠ ',') → l.filter (· ≠ ',') = l :=
    fun l hl => List.filter_eq_self.2 fun c hc => by simpa using hl c hc
  rw [List.filter_append, hkeep lead fun c hc hc' => hds (List.mem_append_left _ (hc' ▸ hc)), List.filter_flatMap]
  congr 1
  rw [List.flatten_eq_flatMap]
  refine List.flatMap_congr fun g hg => ?_
  rw [List.filter_cons, if_neg (by simp), hkeep g fun c hc hc' => hds (by
    rw [List.mem_append, List.mem_flatten]
    exact .inr ⟨g, hg, hc' ▸ hc⟩)]
  rfl

theorem eq_trimmed_append_zeros (l : List Char) :
    ∃ t, l = (l.reverse.dropWhile (· = '0')).reverse ++ List.replicate t '0' := by
  refine ⟨(l.reverse.takeWhile (· = '0')).length, ?_⟩
  have hz : (l.reverse.takeWhile (· = '0')) =
      List.replicate (l.reverse.takeWhile (· = '0')).length '0' := by
    refine List.eq_replicate_iff.2 ⟨rfl, fun b hb => ?_⟩
    have := List.all_eq_true.1 (List.all_takeWhile (l := l.reverse) (p := (· = '0'))) b hb
    simpa using this
  conv_lhs => rw [← List.reverse_reverse l, ← List.takeWhile_append_dropWhile (p := (· = '0'))
    (l := l.reverse)]
  rw [List.reverse_append]
  congr 1
  conv_lhs => rw [hz]
  rw [List.reverse_replicate]

theorem getLast?_trimmed (l : List Char) :
    ((l.reverse.dropWhile (· = '0')).reverse).getLast? ≠ some '0' := by
  rw [List.getLast?_reverse]
  have := List.head?_dropWhile_not (· = '0') l.reverse
  split at this
  · rename_i c hc
    rw [hc]
    simpa using this
  · rename_i hc
    rw [hc]
    simp

theorem paddedDigits_eq {p r : ℕ} (hp : 0 < p) (hr : r < 10 ^ p) :
    (paddedDigits p r).length = p ∧ digitsValue (paddedDigits p r) = r ∧
      ∀ c ∈ paddedDigits p r, isAsciiDigit c = true := by
  have hlen : (decimalDigits r).length ≤ p := (Nat.length_toDigits_le_iff (by norm_num) hp).2 hr
  refine ⟨?_, ?_, fun c hc => isAsciiDigit_of_mem_paddedDigits hc⟩
  · simp [paddedDigits]
    omega
  · simp [paddedDigits, digitsValue_append]

theorem fixedChars_spec (units : ℕ) (places : ℤ) (grouping : Bool) :
    ∃ (whole : ℕ) (frac : List Char),
      fixedChars units places grouping =
        (if grouping then groupThousands (decimalDigits whole) else decimalDigits whole) ++
          (if frac = [] then [] else '.' :: frac) ∧
      (∀ c ∈ frac, isAsciiDigit c = true) ∧ frac.getLast? ≠ some '0' ∧
      frac.length ≤ places.toNat ∧
      (whole : ℚ) + digitsValue frac / 10 ^ frac.length = units * 10 ^ (-places) := by
  have h10 : (10 : ℚ) ≠ 0 := by norm_num
  by_cases hp : 0 < places
  · set p := places.toNat with hpdef
    have hpp : (p : ℤ) = places := Int.toNat_of_nonneg hp.le
    have hr : units % Nat.pow 10 p < 10 ^ p := Nat.mod_lt _ (by simp [Nat.pow_eq])
    obtain ⟨hlen, hval, hdig⟩ := paddedDigits_eq (by omega) hr
    set padded := paddedDigits p (units % Nat.pow 10 p)
    set frac := (padded.reverse.dropWhile (· = '0')).reverse
    obtain ⟨t, ht⟩ := eq_trimmed_append_zeros padded
    have hfrac : (∀ c ∈ frac, isAsciiDigit c = true) := fun c hc => hdig c (by
      rw [ht]
      exact List.mem_append_left _ hc)
    have hlen' : frac.length + t = p := by
      rw [← hlen, ht]
      simp [frac]
    refine ⟨units / Nat.pow 10 p, frac, ?_, hfrac, getLast?_trimmed _, by omega, ?_⟩
    · simp only [fixedChars, hp, if_true, List.isEmpty_iff]
      rfl
    · have hv : (digitsValue frac : ℚ) * 10 ^ t = (units % Nat.pow 10 p : ℕ) := by
        rw [← hval, ht, digitsValue_append, List.length_replicate, digitsValue_replicate_zero,
          Nat.add_zero]
        push_cast
        ring
      have hsplit : ((units / Nat.pow 10 p : ℕ) : ℚ) * 10 ^ p + (units % Nat.pow 10 p : ℕ) = units := by
        have := Nat.div_add_mod units (Nat.pow 10 p)
        rw [Nat.pow_eq] at this ⊢
        exact_mod_cast (by rw [Nat.mul_comm] at this; exact this)
      have hpow : (10 : ℚ) ^ (-places) = ((10 : ℚ) ^ p)⁻¹ := by rw [← hpp, zpow_neg, zpow_natCast]
      rw [hpow, ← hsplit, ← hv, ← hlen', pow_add]
      field_simp
  · have hpow : (10 : ℚ) ^ (-places) = ((Nat.pow 10 (-places).toNat : ℕ) : ℚ) := by
      rw [Nat.pow_eq, Nat.cast_pow, Nat.cast_ofNat, ← zpow_natCast, Int.toNat_of_nonneg (by omega)]
    refine ⟨units * Nat.pow 10 (-places).toNat, [], ?_, by simp, by simp, by simp, ?_⟩
    · simp only [fixedChars, hp, if_false]
      rfl
    · rw [hpow]
      simp [digitsValue]

theorem decimalLiteral_exponent (negative : Bool) {w : Char} {ws : List Char}
    (frac : Option (List Char)) (hw : ∀ c ∈ w :: ws, isAsciiDigit c = true)
    (hf : ∀ f ∈ frac, ∀ c ∈ f, isAsciiDigit c = true) (es : List Char) :
    decimalLiteral? (numeral negative (w :: ws) frac ++ 'e' :: es) =
      (signedInteger? es).map fun e =>
        (negative, ⟨digitsValue (w :: ws ++ frac.getD []), e - (frac.getD []).length⟩) := by
  have he : isAsciiDigit 'e' = false := by decide
  have hwp : w ≠ '-' ∧ w ≠ '+' := by
    have h := hw w (by simp)
    exact ⟨ne_of_isAsciiDigit h (by decide), ne_of_isAsciiDigit h (by decide)⟩
  cases frac with
  | none =>
    obtain ⟨htake, hdrop⟩ := takeWhile_digits ('e' :: es) hw (by simp [he])
    simp only [List.cons_append] at htake hdrop
    cases negative <;> simp [decimalLiteral?, numeral, htake, hdrop, hwp]
  | some f =>
    have hpt : ∀ c, ('.' :: (f ++ 'e' :: es)).head? = some c → isAsciiDigit c = false := by
      intro c hc
      cases (Option.some.inj hc : '.' = c)
      decide
    obtain ⟨htake, hdrop⟩ := takeWhile_digits _ hw hpt
    obtain ⟨hft, hfd⟩ := takeWhile_digits ('e' :: es) (hf f rfl) (by simp [he])
    simp only [List.cons_append] at htake hdrop
    cases negative <;> simp [decimalLiteral?, numeral, htake, hdrop, hwp, hft, hfd]

theorem signedInteger_exponent (e : ℤ) :
    signedInteger? ((if e < 0 then '-' else '+') :: paddedDigits 2 e.natAbs) = some e := by
  have hne : paddedDigits 2 e.natAbs ≠ [] := by simp [paddedDigits, decimalDigits]
  have hall : (paddedDigits 2 e.natAbs).all isAsciiDigit = true :=
    List.all_eq_true.2 fun c hc => isAsciiDigit_of_mem_paddedDigits hc
  have hval : digitsValue (paddedDigits 2 e.natAbs) = e.natAbs := by
    simp [paddedDigits, digitsValue_append]
  by_cases hneg : e < 0
  · simp [signedInteger?, hneg, hne, hall, hval, abs_of_neg hneg]
  · simp [signedInteger?, hneg, hne, hall, hval, abs_of_nonneg (not_lt.1 hneg)]

theorem numeralValue_value (whole : List Char) (frac : Option (List Char)) :
    (numeralValue whole frac).value =
      digitsValue (whole ++ frac.getD []) * 10 ^ (-((frac.getD []).length : ℤ)) := rfl

theorem isAsciiDigit_of_mem_zeros_append {k : ℕ} {ds : List Char}
    (h : ∀ c ∈ ds, isAsciiDigit c = true) :
    ∀ c ∈ List.replicate k '0' ++ ds, isAsciiDigit c = true := by
  intro c hc
  rcases List.mem_append.1 hc with hc | hc
  · rw [List.eq_of_mem_replicate hc]
    decide
  · exact h c hc

section Layout

variable (negative : Bool) (x : Decimal)

theorem decimalLiteral_layout_small (hA : -4 < x.pointPosition ∧ x.pointPosition ≤ 16)
    (hP : x.pointPosition ≤ 0) :
    ∃ D, decimalLiteral? ((if negative then ['-'] else []) ++ layout x) = some (negative, D) ∧
      D.value = x.coeff * 10 ^ (x.pointPosition - (decimalDigits x.coeff).length) := by
  have hdig : ∀ c ∈ decimalDigits x.coeff, isAsciiDigit c = true :=
    fun c hc => isAsciiDigit_of_mem_decimalDigits hc
  have hl : layout x = '0' :: '.' ::
      (List.replicate (-x.pointPosition).toNat '0' ++ decimalDigits x.coeff) := by
    simp only [layout, if_pos hA, if_pos hP, List.cons_append]
  have htext : (if negative then ['-'] else []) ++ layout x =
      numeral negative ['0'] (some (List.replicate (-x.pointPosition).toNat '0' ++
        decimalDigits x.coeff)) := by
    rw [hl]
    simp [numeral]
  have hlit := @decimalLiteral_numeral negative '0' [] (some (List.replicate
    (-x.pointPosition).toNat '0' ++ decimalDigits x.coeff)) (by simp [isAsciiDigit])
    (fun f hf => by
      rw [Option.mem_def, Option.some.injEq] at hf
      subst hf
      exact isAsciiDigit_of_mem_zeros_append hdig)
  refine ⟨_, htext ▸ hlit, ?_⟩
  have hv : digitsValue (['0'] ++ (List.replicate (-x.pointPosition).toNat '0' ++
      decimalDigits x.coeff)) = x.coeff := by
    rw [← List.append_assoc, digitsValue_append, show ['0'] ++ List.replicate
      (-x.pointPosition).toNat '0' = List.replicate ((-x.pointPosition).toNat + 1) '0' by
      simp [List.replicate_succ], digitsValue_replicate_zero, digitsValue_decimalDigits,
      zero_mul, zero_add]
  rw [numeralValue_value]
  simp only [Option.getD_some, hv, List.length_append, List.length_replicate]
  congr 2
  push_cast
  rw [Int.toNat_of_nonneg (by omega)]
  ring

theorem decimalLiteral_layout_whole (hA : -4 < x.pointPosition ∧ x.pointPosition ≤ 16)
    (hP : ¬x.pointPosition ≤ 0) (hlen : (decimalDigits x.coeff).length ≤ x.pointPosition.toNat) :
    ∃ D, decimalLiteral? ((if negative then ['-'] else []) ++ layout x) = some (negative, D) ∧
      D.value = x.coeff * 10 ^ (x.pointPosition - (decimalDigits x.coeff).length) := by
  have h10 : (10 : ℚ) ≠ 0 := by norm_num
  have hdig : ∀ c ∈ decimalDigits x.coeff, isAsciiDigit c = true :=
    fun c hc => isAsciiDigit_of_mem_decimalDigits hc
  obtain ⟨w, ws, hds⟩ := List.exists_cons_of_ne_nil (Nat.toDigits_ne_nil (n := x.coeff) (b := 10))
  rw [← decimalDigits] at hds
  have hl : layout x = decimalDigits x.coeff ++
      List.replicate (x.pointPosition.toNat - (decimalDigits x.coeff).length) '0' ++ ['.', '0'] := by
    simp only [layout, if_pos hA, if_neg hP, if_pos hlen]
  have htext : (if negative then ['-'] else []) ++ layout x =
      numeral negative (w :: (ws ++ List.replicate
        (x.pointPosition.toNat - (decimalDigits x.coeff).length) '0')) (some ['0']) := by
    rw [hl, hds]
    simp [numeral]
  have hwhole : ∀ c ∈ w :: (ws ++ List.replicate
      (x.pointPosition.toNat - (decimalDigits x.coeff).length) '0'), isAsciiDigit c = true := by
    intro c hc
    rw [← List.cons_append, ← hds] at hc
    rcases List.mem_append.1 hc with hc | hc
    · exact hdig c hc
    · rw [List.eq_of_mem_replicate hc]
      decide
  have hlit := decimalLiteral_numeral negative (some ['0']) hwhole (by simp [isAsciiDigit])
  refine ⟨_, htext ▸ hlit, ?_⟩
  rw [numeralValue_value, ← List.cons_append, ← hds]
  simp only [Option.getD_some, List.length_singleton, digitsValue_append,
    digitsValue_replicate_zero, digitsValue_decimalDigits, List.length_replicate]
  have hd0 : digitsValue ['0'] = 0 := rfl
  rw [hd0]
  push_cast
  rw [show x.pointPosition - ((decimalDigits x.coeff).length : ℤ) =
      ((x.pointPosition.toNat - (decimalDigits x.coeff).length : ℕ) : ℤ) + 1 + -1 by omega,
    zpow_add₀ h10, zpow_add₀ h10, zpow_natCast]
  ring

theorem decimalLiteral_layout_point (hA : -4 < x.pointPosition ∧ x.pointPosition ≤ 16)
    (hP : ¬x.pointPosition ≤ 0) (hlen : ¬(decimalDigits x.coeff).length ≤ x.pointPosition.toNat) :
    ∃ D, decimalLiteral? ((if negative then ['-'] else []) ++ layout x) = some (negative, D) ∧
      D.value = x.coeff * 10 ^ (x.pointPosition - (decimalDigits x.coeff).length) := by
  have hdig : ∀ c ∈ decimalDigits x.coeff, isAsciiDigit c = true :=
    fun c hc => isAsciiDigit_of_mem_decimalDigits hc
  obtain ⟨w, ws, hds⟩ := List.exists_cons_of_ne_nil (Nat.toDigits_ne_nil (n := x.coeff) (b := 10))
  rw [← decimalDigits] at hds
  have hl : layout x = (decimalDigits x.coeff).take x.pointPosition.toNat ++ '.' ::
      (decimalDigits x.coeff).drop x.pointPosition.toNat := by
    simp only [layout, if_pos hA, if_neg hP, if_neg hlen]
  have hne : (decimalDigits x.coeff).take x.pointPosition.toNat ≠ [] := by
    rw [hds]
    cases h : x.pointPosition.toNat with
    | zero => omega
    | succ n => simp
  obtain ⟨v, vs, htake⟩ := List.exists_cons_of_ne_nil hne
  have hwhole : ∀ c ∈ v :: vs, isAsciiDigit c = true := fun c hc =>
    hdig c ((List.take_subset _ _) (htake ▸ hc))
  have hfrac : ∀ c ∈ (decimalDigits x.coeff).drop x.pointPosition.toNat, isAsciiDigit c = true :=
    fun c hc => hdig c ((List.drop_subset _ _) hc)
  have htext : (if negative then ['-'] else []) ++ layout x =
      numeral negative (v :: vs) (some ((decimalDigits x.coeff).drop x.pointPosition.toNat)) := by
    rw [hl, htake]
    simp [numeral]
  have hlit := decimalLiteral_numeral negative
    (some ((decimalDigits x.coeff).drop x.pointPosition.toNat)) hwhole (by simpa using hfrac)
  refine ⟨_, htext ▸ hlit, ?_⟩
  rw [numeralValue_value, ← htake, Option.getD_some, List.take_append_drop,
    digitsValue_decimalDigits, List.length_drop]
  congr 2
  omega

theorem decimalLiteral_layout_exponent (hA : ¬(-4 < x.pointPosition ∧ x.pointPosition ≤ 16)) :
    ∃ D, decimalLiteral? ((if negative then ['-'] else []) ++ layout x) = some (negative, D) ∧
      D.value = x.coeff * 10 ^ (x.pointPosition - (decimalDigits x.coeff).length) := by
  have hdig : ∀ c ∈ decimalDigits x.coeff, isAsciiDigit c = true :=
    fun c hc => isAsciiDigit_of_mem_decimalDigits hc
  obtain ⟨w, ws, hds⟩ := List.exists_cons_of_ne_nil (Nat.toDigits_ne_nil (n := x.coeff) (b := 10))
  rw [← decimalDigits] at hds
  have hexp := signedInteger_exponent (x.pointPosition - 1)
  have hw : isAsciiDigit w = true := hdig w (by simp [hds])
  cases ws with
  | nil =>
    have hl : layout x = [w] ++ 'e' ::
        (if x.pointPosition - 1 < 0 then '-' else '+') :: paddedDigits 2 (x.pointPosition - 1).natAbs := by
      simp only [layout, if_neg hA, hds]
    have htext : (if negative then ['-'] else []) ++ layout x = numeral negative [w] none ++ 'e' ::
        ((if x.pointPosition - 1 < 0 then '-' else '+') :: paddedDigits 2 (x.pointPosition - 1).natAbs) := by
      rw [hl]
      simp [numeral]
    have hlit := @decimalLiteral_exponent negative w [] none (by simpa using hw) (by simp)
      ((if x.pointPosition - 1 < 0 then '-' else '+') :: paddedDigits 2 (x.pointPosition - 1).natAbs)
    rw [hexp] at hlit
    refine ⟨_, htext ▸ hlit, ?_⟩
    rw [Decimal.value, hds]
    simp only [Option.getD_none, List.append_nil, List.length_nil, Nat.cast_zero, sub_zero,
      List.length_singleton, Nat.cast_one]
    rw [← hds, digitsValue_decimalDigits]
  | cons v vs =>
    have hl : layout x = w :: '.' :: (v :: vs) ++ 'e' ::
        (if x.pointPosition - 1 < 0 then '-' else '+') :: paddedDigits 2 (x.pointPosition - 1).natAbs := by
      simp only [layout, if_neg hA, hds]
    have htext : (if negative then ['-'] else []) ++ layout x =
        numeral negative [w] (some (v :: vs)) ++ 'e' ::
          ((if x.pointPosition - 1 < 0 then '-' else '+') :: paddedDigits 2 (x.pointPosition - 1).natAbs) := by
      rw [hl]
      simp [numeral]
    have hrest : ∀ c ∈ v :: vs, isAsciiDigit c = true := fun c hc => hdig c (by simp [hds, hc])
    have hlit := @decimalLiteral_exponent negative w [] (some (v :: vs)) (by simpa using hw)
      (by simpa using hrest)
      ((if x.pointPosition - 1 < 0 then '-' else '+') :: paddedDigits 2 (x.pointPosition - 1).natAbs)
    rw [hexp] at hlit
    refine ⟨_, htext ▸ hlit, ?_⟩
    rw [Decimal.value]
    simp only [Option.getD_some, List.singleton_append]
    rw [← hds, digitsValue_decimalDigits]
    congr 2
    rw [hds]
    simp only [List.length_cons]
    push_cast
    ring

theorem decimalLiteral_layout :
    ∃ D, decimalLiteral? ((if negative then ['-'] else []) ++ layout x) = some (negative, D) ∧
      D.value = x.coeff * 10 ^ (x.pointPosition - (decimalDigits x.coeff).length) := by
  by_cases hA : -4 < x.pointPosition ∧ x.pointPosition ≤ 16
  · by_cases hP : x.pointPosition ≤ 0
    · exact decimalLiteral_layout_small negative x hA hP
    · by_cases hlen : (decimalDigits x.coeff).length ≤ x.pointPosition.toNat
      · exact decimalLiteral_layout_whole negative x hA hP hlen
      · exact decimalLiteral_layout_point negative x hA hP hlen
  · exact decimalLiteral_layout_exponent negative x hA

end Layout

theorem literal_value (x : Float) {negative : Bool} {m : ℕ} {q : ℤ}
    (hx : Binary64.parts x = .finite negative m q) :
    ∃ D, decimalLiteral? (literal x).toList = some (negative, D) ∧
      D.value = if m = 0 then 0 else (Decimal.shortest m q).value := by
  have hchars : (literal x).toList = (if negative then ['-'] else []) ++
      (if m = 0 then ['0', '.', '0'] else layout (Decimal.shortest m q)) := by
    rw [literal, String.toList_ofList, literalChars, hx]
    cases negative <;> rfl
  rw [hchars]
  by_cases hm : m = 0
  · rw [if_pos hm, if_pos hm]
    refine ⟨_, by
      rw [show (if negative then ['-'] else []) ++ ['0', '.', '0'] = numeral negative ['0'] (some ['0'])
        by simp [numeral]]
      exact decimalLiteral_numeral negative _ (by simp [isAsciiDigit]) (by simp [isAsciiDigit]), ?_⟩
    rw [numeralValue_value, show digitsValue (['0'] ++ (some ['0']).getD []) = 0 from rfl]
    simp
  · rw [if_neg hm, if_neg hm]
    obtain ⟨D, hD, hv⟩ := decimalLiteral_layout negative (Decimal.shortest m q)
    refine ⟨D, hD, ?_⟩
    rw [hv, Decimal.value]
    rcases Nat.eq_zero_or_pos (Decimal.shortest m q).coeff with h0 | h0
    · simp [h0]
    · rw [length_decimalDigits h0, Decimal.pointPosition]
      congr 2
      ring

end PocketCalc.Number
