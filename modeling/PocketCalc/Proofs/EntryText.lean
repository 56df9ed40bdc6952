import PocketCalc.Proofs.Numeral
namespace PocketCalc.Number

def NanFragment (cs : List Char) : Prop :=
  ∃ (negative a : Bool) (tail : List Char), (∀ c ∈ tail, isAsciiDigit c = true ∨ c = '.') ∧
    cs = (if negative then ['-'] else []) ++ 'N' :: ((if a then ['a'] else []) ++ tail)

inductive EntryText : List Char → Prop
  | decimal {negative : Bool} {w : Char} {ws : List Char} {frac : Option (List Char)} :
      isAsciiDigit w = true → (∀ c ∈ ws, isAsciiDigit c = true ∨ c = ',') →
      (∀ f ∈ frac, ∀ c ∈ f, isAsciiDigit c = true) → EntryText (numeral negative (w :: ws) frac)
  | nan (negative : Bool) : EntryText ((if negative then ['-'] else []) ++ nanText.toList)
  | infinity (negative : Bool) :
      EntryText ((if negative then ['-'] else []) ++ infinityText.toList)
  | fragment {cs : List Char} : NanFragment cs → EntryText cs

theorem plain_of_isAsciiDigit {c : Char} (h : isAsciiDigit c = true) : Plain c :=
  NumeralChar.plain (.inl h)

theorem ne_of_isAsciiDigit {c d : Char} (h : isAsciiDigit c = true) (hd : isAsciiDigit d = false) :
    c ≠ d := by
  rintro rfl
  simp [h] at hd

theorem filter_comma_numeral (negative : Bool) {w : Char} (ws : List Char)
    {frac : Option (List Char)} (hw : w ≠ ',') (hf : ∀ f ∈ frac, ∀ c ∈ f, isAsciiDigit c = true) :
    (numeral negative (w :: ws) frac).filter (· ≠ ',') =
      numeral negative (w :: ws.filter (· ≠ ',')) frac := by
  cases frac with
  | none => cases negative <;> simp [numeral, hw]
  | some f =>
    have hf' : ∀ c ∈ f, c ≠ ',' := fun c hc => ne_of_isAsciiDigit (hf f rfl c hc) (by decide)
    cases negative <;> simp [numeral, hw] <;> exact hf'

theorem read_decimal {negative : Bool} {w : Char} {ws : List Char} {frac : Option (List Char)}
    (hw : isAsciiDigit w = true) (hws : ∀ c ∈ ws, isAsciiDigit c = true ∨ c = ',')
    (hf : ∀ f ∈ frac, ∀ c ∈ f, isAsciiDigit c = true) :
    ∃ x, read (String.ofList (numeral negative (w :: ws) frac)) = .ok x := by
  have hblank : ∀ c ∈ numeral negative (w :: ws) frac, Text.isBlank c = false := by
    intro c hc
    rcases mem_numeral hc with rfl | hc | rfl | ⟨f, hfm, hc⟩
    · decide
    · rcases List.mem_cons.1 hc with rfl | hc
      · exact (plain_of_isAsciiDigit hw).not_blank
      · rcases hws c hc with h | rfl
        · exact (plain_of_isAsciiDigit h).not_blank
        · decide
    · decide
    · exact (plain_of_isAsciiDigit (hf f hfm c hc)).not_blank
  have hdigits : ∀ c ∈ w :: ws.filter (· ≠ ','), isAsciiDigit c = true := by
    intro c hc
    rcases List.mem_cons.1 hc with rfl | hc
    · exact hw
    · obtain ⟨hc, hne⟩ := List.mem_filter.1 hc
      exact (hws c hc).resolve_right (by simpa using hne)
  have hclean : (Text.trimChars (String.ofList (numeral negative (w :: ws) frac)).toList).filter
      (· ≠ ',') = numeral negative (w :: ws.filter (· ≠ ',')) frac := by
    rw [String.toList_ofList, trimChars_eq_self hblank,
      filter_comma_numeral negative ws (ne_of_isAsciiDigit hw (by decide)) hf]
  exact ⟨_, read_of_cleaned negative frac hdigits hf hclean⟩

theorem EntryText.read_ok {cs : List Char} (h : EntryText cs) (hn : ¬NanFragment cs) :
    ∃ x, read (String.ofList cs) = .ok x := by
  cases h with
  | decimal hw hws hf => exact read_decimal hw hws hf
  | nan negative => cases negative <;> exact ⟨_, rfl⟩
  | infinity negative => cases negative <;> exact ⟨_, rfl⟩
  | fragment hf => exact absurd hf hn

theorem asciiPlain_of_fragment {c : Char} (h : c = '-' ∨ c = 'N' ∨ c = 'a' ∨ c = '.') :
    AsciiPlain c := by
  rcases h with rfl | rfl | rfl | rfl <;>
    exact ⟨by decide, by decide, by decide, by decide, by decide⟩

theorem decimalLiteral_fragment (negative : Bool) (rest : List Char) :
    decimalLiteral? ((if negative then ['-'] else []) ++ 'N' :: rest) = none := by
  have hn : isAsciiDigit 'N' = false := by decide
  cases negative <;> simp [decimalLiteral?, hn]

theorem read_error_of_letters {cs : List Char} (hplain : ∀ c ∈ cs, AsciiPlain c)
    (hN : 'N' ∈ cs) (hnan : cs.dropWhile (fun c => c = '+' || c = '-') ≠ nanText.toList)
    (hlit : decimalLiteral? cs = none) : ∃ e, read (String.ofList cs) = .error e := by
  have hclean : (Text.trimChars (String.ofList cs).toList).filter (· ≠ ',') = cs := by
    rw [String.toList_ofList, trimChars_eq_self fun c hc => (hplain c hc).not_blank]
    exact List.filter_eq_self.2 fun c hc => by simpa using (hplain c hc).not_comma
  have hinf : ∀ t : String, '∞' ∈ t.toList → 'N' ∉ t.toList → String.ofList cs ≠ t := by
    intro t _ hNt heq
    rw [← heq, String.toList_ofList] at hNt
    exact hNt hN
  have h1 := hinf infinityText (by decide) (by decide)
  have h2 := hinf ("+" ++ infinityText) (by decide) (by decide)
  have h3 := hinf ("-" ++ infinityText) (by decide) (by decide)
  have h4 : String.ofList (cs.dropWhile (fun c => c = '+' || c = '-')) ≠ nanText := by
    intro heq
    exact hnan (by rw [← heq, String.toList_ofList])
  have hv : literalValue? (String.ofList cs) = none := by
    simp [literalValue?, readerForm_of_plain hplain, hlit]
  simp only [read, hclean]
  simp only [h1, h2, h3, h4, hv, decide_false, Bool.or_false, Bool.false_eq_true, if_false]
  cases cs.any Text.isDigitChar
  · exact ⟨_, rfl⟩
  · exact ⟨_, rfl⟩

theorem NanFragment.read_error {cs : List Char} (h : NanFragment cs) :
    ∃ e, read (String.ofList cs) = .error e := by
  obtain ⟨negative, a, tail, ht, rfl⟩ := h
  have hN : 'N' ∉ tail := fun hm => by
    have := ht 'N' hm
    revert this
    decide
  have hplain : ∀ c ∈ (if negative then ['-'] else []) ++ 'N' :: ((if a then ['a'] else []) ++ tail),
      AsciiPlain c := by
    intro c hc
    simp only [List.mem_append, List.mem_cons] at hc
    rcases hc with hc | rfl | hc | hc
    · cases negative <;> simp_all [asciiPlain_of_fragment]
    · exact asciiPlain_of_fragment (by simp)
    · cases a <;> simp_all [asciiPlain_of_fragment]
    · rcases ht c hc with hd | rfl
      · exact (plain_of_isAsciiDigit hd).toAsciiPlain
      · exact asciiPlain_of_fragment (by simp)
  have hnan : ((if negative then ['-'] else []) ++ 'N' :: ((if a then ['a'] else []) ++ tail)).dropWhile
      (fun c => c = '+' || c = '-') ≠ nanText.toList := by
    have hsign : ((if negative then ['-'] else []) ++
        'N' :: ((if a then ['a'] else []) ++ tail)).dropWhile (fun c => c = '+' || c = '-') =
        'N' :: ((if a then ['a'] else []) ++ tail) := by
      cases negative <;> simp
    have hnt : nanText.toList = ['N', 'a', 'N'] := rfl
    rw [hsign, hnt]
    intro heq
    cases a
    · have : tail = ['a', 'N'] := by simpa using heq
      exact hN (by simp [this])
    · have : tail = ['N'] := by simpa using heq
      exact hN (by simp [this])
  exact read_error_of_letters hplain (by simp) hnan (decimalLiteral_fragment negative _)

theorem isAsciiDigit_of_mem_decimalDigits {n : Nat} {c : Char} (h : c ∈ decimalDigits n) :
    isAsciiDigit c = true :=
  Nat.isDigit_of_mem_toDigits (by decide) (by decide) h

theorem isAsciiDigit_of_mem_paddedDigits {width n : Nat} {c : Char} (h : c ∈ paddedDigits width n) :
    isAsciiDigit c = true := by
  simp only [paddedDigits, List.mem_append, List.mem_replicate] at h
  rcases h with ⟨-, rfl⟩ | h
  · decide
  · exact isAsciiDigit_of_mem_decimalDigits h

theorem mem_groupThousands_go {c : Char} (l : List Char) (h : c ∈ groupThousands.go l) :
    c ∈ l ∨ c = ',' := by
  induction l using groupThousands.go.induct with
  | case1 a b e d rest ih =>
    rw [groupThousands.go.eq_1] at h
    simp only [List.mem_cons] at h
    rcases h with rfl | rfl | rfl | rfl | h
    · simp
    · simp
    · simp
    · exact .inr rfl
    · rcases ih h with h | h
      · exact .inl (by simp_all)
      · exact .inr h
  | case2 rest hrest =>
    rw [groupThousands.go.eq_2 rest hrest] at h
    exact .inl h

theorem getLast?_groupThousands_go (l : List Char) :
    (groupThousands.go l).getLast? = l.getLast? := by
  induction l using groupThousands.go.induct with
  | case1 a b e d rest ih =>
    rw [groupThousands.go.eq_1]
    simp [List.getLast?_cons, ih]
  | case2 rest hrest => rw [groupThousands.go.eq_2 rest hrest]

theorem groupThousands_shape {ds : List Char} (hd : ∀ c ∈ ds, isAsciiDigit c = true)
    (hne : ds ≠ []) : ∃ w ws, groupThousands ds = w :: ws ∧ isAsciiDigit w = true ∧
      ∀ c ∈ ws, isAsciiDigit c = true ∨ c = ',' := by
  obtain ⟨d, rest, rfl⟩ := List.exists_cons_of_ne_nil hne
  have hhead : (groupThousands (d :: rest)).head? = some d := by
    simp [groupThousands, List.head?_reverse, getLast?_groupThousands_go]
  obtain ⟨ws, hws⟩ : ∃ ws, groupThousands (d :: rest) = d :: ws := by
    cases h : groupThousands (d :: rest) with
    | nil => simp [h] at hhead
    | cons w ws =>
      rw [h] at hhead
      cases hhead
      exact ⟨ws, rfl⟩
  refine ⟨d, ws, hws, hd d (by simp), fun c hc => ?_⟩
  have hmem : c ∈ groupThousands (d :: rest) := by simp [hws, hc]
  simp only [groupThousands, List.mem_reverse] at hmem
  rcases mem_groupThousands_go _ hmem with h | h
  · exact .inl (hd c (List.mem_reverse.1 h))
  · exact .inr h

theorem fixedChars_shape (units : Nat) (places : Int) (grouping : Bool) :
    ∃ w ws frac, fixedChars units places grouping = numeral false (w :: ws) frac ∧
      isAsciiDigit w = true ∧ (∀ c ∈ ws, isAsciiDigit c = true ∨ c = ',') ∧
      ∀ f ∈ frac, ∀ c ∈ f, isAsciiDigit c = true := by
  obtain ⟨whole, fd, hfd, heq⟩ : ∃ (whole : Nat) (fd : List Char), (∀ c ∈ fd, isAsciiDigit c = true) ∧
      fixedChars units places grouping =
        (if grouping then groupThousands (decimalDigits whole) else decimalDigits whole) ++
        (if ((fd.reverse.dropWhile (· = '0')).reverse).isEmpty then []
          else '.' :: (fd.reverse.dropWhile (· = '0')).reverse) := by
    by_cases hp : 0 < places
    · refine ⟨units / Nat.pow 10 places.toNat, paddedDigits places.toNat (units % Nat.pow 10 places.toNat),
        fun c hc => isAsciiDigit_of_mem_paddedDigits hc, ?_⟩
      simp only [fixedChars, hp, if_true]
    · refine ⟨units * Nat.pow 10 (-places).toNat, [], by simp, ?_⟩
      simp only [fixedChars, hp, if_false]
  obtain ⟨w, ws, hw, hw0, hws⟩ : ∃ w ws,
      (if grouping then groupThousands (decimalDigits whole) else decimalDigits whole) = w :: ws ∧
        isAsciiDigit w = true ∧ ∀ c ∈ ws, isAsciiDigit c = true ∨ c = ',' := by
    have hd : ∀ c ∈ decimalDigits whole, isAsciiDigit c = true :=
      fun c hc => isAsciiDigit_of_mem_decimalDigits hc
    cases grouping
    · obtain ⟨w, ws, h⟩ := List.exists_cons_of_ne_nil (Nat.toDigits_ne_nil (n := whole) (b := 10))
      rw [← decimalDigits] at h
      exact ⟨w, ws, by simpa using h, hd w (by simp [h]), fun c hc => .inl (hd c (by simp [h, hc]))⟩
    · simpa using groupThousands_shape hd Nat.toDigits_ne_nil
  have hfrac : ∀ c ∈ (fd.reverse.dropWhile (· = '0')).reverse, isAsciiDigit c = true := by
    intro c hc
    exact hfd c (List.mem_reverse.1 ((List.dropWhile_sublist _).subset (List.mem_reverse.1 hc)))
  refine ⟨w, ws, if ((fd.reverse.dropWhile (· = '0')).reverse).isEmpty then none
    else some (fd.reverse.dropWhile (· = '0')).reverse, ?_, hw0, hws, ?_⟩
  · rw [heq, hw]
    split <;> simp [numeral]
  · intro f hf c hc
    split at hf
    · simp at hf
    · cases hf
      exact hfrac c hc

theorem entryText_display (x : Float) (places : Int) (grouping : Bool) :
    EntryText (display x places grouping).toList := by
  unfold display
  cases Binary64.parts x with
  | nan => exact .nan false
  | infinity negative =>
    cases negative
    · exact .infinity false
    · have h : ("-" ++ infinityText).toList = ['-'] ++ infinityText.toList := by decide
      simpa [h] using EntryText.infinity true
  | finite negative m q =>
    dsimp only
    generalize (if m = 0 then 0 else (Decimal.shortest m q).roundToPlaces
      (placesNeeded (Decimal.shortest m q) places)) = units
    generalize placesNeeded (Decimal.shortest m q) places = p
    split
    · rw [show "0".toList = numeral false ['0'] none by decide]
      exact .decimal (by decide) (by simp) (by simp)
    · obtain ⟨w, ws, frac, heq, hw, hws, hf⟩ := fixedChars_shape units p grouping
      have hsign : (if negative then ['-'] else []) ++ numeral false (w :: ws) frac =
          numeral negative (w :: ws) frac := by
        cases negative <;> simp [numeral]
      rw [String.toList_ofList, heq, hsign]
      exact .decimal hw hws hf

def toggleSign : List Char → List Char
  | '-' :: rest => rest
  | cs => '-' :: cs

theorem numeral_append_char (negative : Bool) (whole : List Char) (c : Char) :
    numeral negative whole none ++ [c] = numeral negative (whole ++ [c]) none := by
  simp [numeral]

theorem numeral_some_append (negative : Bool) (whole f : List Char) (c : Char) :
    numeral negative whole (some f) ++ [c] = numeral negative whole (some (f ++ [c])) := by
  simp [numeral]

theorem numeral_some_nil (negative : Bool) (whole : List Char) :
    numeral negative whole (some []) = numeral negative whole none ++ ['.'] := by
  simp [numeral]

theorem point_mem_numeral (negative : Bool) (whole f : List Char) :
    '.' ∈ numeral negative whole (some f) := by
  simp [numeral]

theorem EntryText.push {cs : List Char} (h : EntryText cs)
    (hnan : cs.dropWhile (· = '-') ≠ nanText.toList)
    (hinf : cs.dropWhile (· = '-') ≠ infinityText.toList) {c : Char}
    (hc : isAsciiDigit c = true ∨ c = '.' ∧ '.' ∉ cs) : EntryText (cs ++ [c]) := by
  cases h with
  | @decimal negative w ws frac hw hws hf =>
    cases frac with
    | none =>
      rcases hc with hc | ⟨rfl, -⟩
      · rw [numeral_append_char, List.cons_append]
        exact .decimal hw (fun d hd => by
          rcases List.mem_append.1 hd with hd | hd
          · exact hws d hd
          · simp_all) (by simp)
      · have : numeral negative (w :: ws) none ++ ['.'] = numeral negative (w :: ws) (some []) := by
          simp [numeral]
        rw [this]
        exact .decimal hw hws (by simp)
    | some f =>
      rcases hc with hc | ⟨-, hp⟩
      · rw [numeral_some_append]
        exact .decimal hw hws (fun g hg d hd => by
          cases hg
          rcases List.mem_append.1 hd with hd | hd
          · exact hf f rfl d hd
          · simp_all)
      · exact absurd (point_mem_numeral negative (w :: ws) f) hp
  | nan negative => exact absurd (by cases negative <;> rfl) hnan
  | infinity negative => exact absurd (by cases negative <;> rfl) hinf
  | fragment hfr =>
    obtain ⟨negative, a, tail, ht, rfl⟩ := hfr
    refine .fragment ⟨negative, a, tail ++ [c], fun d hd => ?_, by simp⟩
    rcases List.mem_append.1 hd with hd | hd
    · exact ht d hd
    · rcases hc with hc | ⟨rfl, -⟩ <;> simp_all

theorem EntryText.dropLast {cs : List Char} (h : EntryText cs) (hne : cs.dropLast ≠ [])
    (hminus : cs.dropLast ≠ ['-']) : EntryText cs.dropLast := by
  have hsign : ∀ negative : Bool, cs.dropLast = (if negative then ['-'] else []) → False := by
    intro negative heq
    cases negative
    · exact hne heq
    · exact hminus heq
  cases h with
  | @decimal negative w ws frac hw hws hf =>
    cases frac with
    | none =>
      rcases List.eq_nil_or_concat ws with rfl | ⟨ws, c, hc⟩
      · exact absurd (by simp [numeral]) (hsign negative)
      · rw [List.concat_eq_append] at hc
        subst hc
        rw [← List.cons_append, ← numeral_append_char, List.dropLast_concat]
        exact .decimal hw (fun d hd => hws d (by simp [hd])) hf
    | some f =>
      rcases List.eq_nil_or_concat f with rfl | ⟨f, c, hc⟩
      · rw [numeral_some_nil, List.dropLast_concat]
        exact .decimal hw hws (by simp)
      · rw [List.concat_eq_append] at hc
        subst hc
        rw [← numeral_some_append, List.dropLast_concat]
        exact .decimal hw hws (fun g hg d hd => by
          cases hg
          exact hf (f ++ [c]) rfl d (by simp [hd]))
  | nan negative =>
    refine .fragment ⟨negative, true, [], by simp, ?_⟩
    cases negative <;> rfl
  | infinity negative => exact absurd (by cases negative <;> rfl) (hsign negative)
  | fragment hfr =>
    obtain ⟨negative, a, tail, ht, rfl⟩ := hfr
    rcases List.eq_nil_or_concat tail with rfl | ⟨tail, c, hc⟩
    · cases a
      · exact absurd (by simp) (hsign negative)
      · refine .fragment ⟨negative, false, [], by simp, ?_⟩
        simp
    · rw [List.concat_eq_append] at hc
      subst hc
      refine .fragment ⟨negative, a, tail, fun d hd => ht d (by simp [hd]), ?_⟩
      simp only [← List.append_assoc, ← List.cons_append, List.dropLast_concat]

theorem EntryText.toggle {cs : List Char} (h : EntryText cs) : EntryText (Number.toggleSign cs) := by
  cases h with
  | @decimal negative w ws frac hw hws hf =>
    have hw' : w ≠ '-' := ne_of_isAsciiDigit hw (by decide)
    cases negative
    · have : Number.toggleSign (numeral false (w :: ws) frac) = numeral true (w :: ws) frac := by
        simp [numeral, Number.toggleSign, hw']
      rw [this]
      exact .decimal hw hws hf
    · have : Number.toggleSign (numeral true (w :: ws) frac) = numeral false (w :: ws) frac := by
        simp [numeral, Number.toggleSign]
      rw [this]
      exact .decimal hw hws hf
  | nan negative =>
    cases negative
    · exact .nan true
    · exact .nan false
  | infinity negative =>
    cases negative
    · exact .infinity true
    · exact .infinity false
  | fragment hfr =>
    obtain ⟨negative, a, tail, ht, rfl⟩ := hfr
    cases negative
    · exact .fragment ⟨true, a, tail, ht, rfl⟩
    · exact .fragment ⟨false, a, tail, ht, rfl⟩

end PocketCalc.Number
