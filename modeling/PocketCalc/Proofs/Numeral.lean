import PocketCalc.Number.Reading
namespace PocketCalc.Number

theorem isAsciiDigit_iff {c : Char} : isAsciiDigit c = true ↔ 48 ≤ c.toNat ∧ c.toNat ≤ 57 :=
  Char.isDigit_iff_toNat

theorem eq_ofNat_of_isAsciiDigit {c : Char} (h : isAsciiDigit c = true) :
    ∃ n < 10, c = Char.ofNat (48 + n) := by
  obtain ⟨h1, h2⟩ := isAsciiDigit_iff.1 h
  refine ⟨c.toNat - 48, by omega, ?_⟩
  rw [Nat.add_sub_cancel' h1, Char.ofNat_toNat]

def NumeralChar (c : Char) : Prop := isAsciiDigit c = true ∨ c = '.' ∨ c = '-'

structure AsciiPlain (c : Char) : Prop where
  not_blank : Text.isBlank c = false
  ascii : asciiForm c = some c
  not_comma : c ≠ ','
  not_underscore : c ≠ '_'
  not_space : isAsciiSpace c = false

structure Plain (c : Char) : Prop extends AsciiPlain c where
  not_plus : c ≠ '+'
  not_n : c ≠ 'N'
  not_infinity : c ≠ '∞'

theorem plain_digit : ∀ n < 10, Plain (Char.ofNat (48 + n)) := by
  intro n hn
  have : ∀ n < 10, Text.isBlank (Char.ofNat (48 + n)) = false ∧
      asciiForm (Char.ofNat (48 + n)) = some (Char.ofNat (48 + n)) ∧
      Char.ofNat (48 + n) ≠ ',' ∧ Char.ofNat (48 + n) ≠ '_' ∧
      isAsciiSpace (Char.ofNat (48 + n)) = false ∧ Char.ofNat (48 + n) ≠ '+' ∧
      Char.ofNat (48 + n) ≠ 'N' ∧ Char.ofNat (48 + n) ≠ '∞' := by decide
  obtain ⟨h1, h2, h3, h4, h5, h6, h7, h8⟩ := this n hn
  exact ⟨⟨h1, h2, h3, h4, h5⟩, h6, h7, h8⟩

theorem NumeralChar.plain {c : Char} (h : NumeralChar c) : Plain c := by
  rcases h with h | rfl | rfl
  · obtain ⟨n, hn, rfl⟩ := eq_ofNat_of_isAsciiDigit h
    exact plain_digit n hn
  · exact ⟨⟨by decide, by decide, by decide, by decide, by decide⟩, by decide, by decide, by decide⟩
  · exact ⟨⟨by decide, by decide, by decide, by decide, by decide⟩, by decide, by decide, by decide⟩

theorem dropWhile_of_all_false {p : Char → Bool} {cs : List Char} (h : ∀ c ∈ cs, p c = false) :
    cs.dropWhile p = cs := by
  cases cs with
  | nil => rfl
  | cons c rest => simp [h c (by simp)]

theorem trimChars_eq_self {cs : List Char} (h : ∀ c ∈ cs, Text.isBlank c = false) :
    Text.trimChars cs = cs := by
  have hr : ∀ c ∈ cs.reverse, Text.isBlank c = false := fun c hc => h c (List.mem_reverse.1 hc)
  simp only [Text.trimChars, dropWhile_of_all_false h, dropWhile_of_all_false hr,
    List.reverse_reverse]

theorem mapM_asciiForm {cs : List Char} (h : ∀ c ∈ cs, AsciiPlain c) : cs.mapM asciiForm = some cs := by
  induction cs with
  | nil => rfl
  | cons c rest ih =>
    have hc := (h c (by simp)).ascii
    have hrest := ih (fun d hd => h d (by simp [hd]))
    simp [List.mapM_cons, hc, hrest]

theorem underscoresFit_of_plain {cs : List Char} (prev : Option Char) (h : ∀ c ∈ cs, AsciiPlain c) :
    underscoresFit prev cs = true := by
  induction cs generalizing prev with
  | nil => simp [underscoresFit]
  | cons c rest ih =>
    have hc := (h c (by simp)).not_underscore
    rw [underscoresFit.eq_3 _ _ _ hc]
    exact ih (some c) (fun d hd => h d (by simp [hd]))

theorem readerForm_of_plain {cs : List Char} (h : ∀ c ∈ cs, AsciiPlain c) : readerForm cs = some cs := by
  have hu : cs.filter (fun c => !decide (c = '_')) = cs :=
    List.filter_eq_self.2 (fun c hc => by simpa using (h c hc).not_underscore)
  have hs : ∀ c ∈ cs, isAsciiSpace c = false := fun c hc => (h c hc).not_space
  have hr : ∀ c ∈ cs.reverse, isAsciiSpace c = false := fun c hc => hs c (List.mem_reverse.1 hc)
  simp only [readerForm, mapM_asciiForm h, Option.bind_eq_bind, Option.bind_some,
    underscoresFit_of_plain none h, if_true]
  simp [hu, dropWhile_of_all_false hs, dropWhile_of_all_false hr]

def numeral (negative : Bool) (whole : List Char) (frac : Option (List Char)) : List Char :=
  (if negative then ['-'] else []) ++ whole ++ (match frac with | none => [] | some f => '.' :: f)

def numeralValue (whole : List Char) (frac : Option (List Char)) : Decimal :=
  ⟨digitsValue (whole ++ frac.getD []), -((frac.getD []).length : Int)⟩

theorem takeWhile_digits {ds : List Char} (rest : List Char) (hd : ∀ c ∈ ds, isAsciiDigit c = true)
    (hr : ∀ c, rest.head? = some c → isAsciiDigit c = false) :
    (ds ++ rest).takeWhile isAsciiDigit = ds ∧ (ds ++ rest).dropWhile isAsciiDigit = rest := by
  rw [List.takeWhile_append_of_pos hd, List.dropWhile_append_of_pos hd]
  cases rest with
  | nil => simp
  | cons c tail => simp [hr c rfl]

theorem decimalLiteral_numeral (negative : Bool) {w : Char} {ws : List Char}
    (frac : Option (List Char)) (hw : ∀ c ∈ w :: ws, isAsciiDigit c = true)
    (hf : ∀ f ∈ frac, ∀ c ∈ f, isAsciiDigit c = true) :
    decimalLiteral? (numeral negative (w :: ws) frac) =
      some (negative, numeralValue (w :: ws) frac) := by
  have hpt : ∀ c, (match frac with | none => [] | some f => '.' :: f).head? = some c →
      isAsciiDigit c = false := by
    cases frac with
    | none => simp
    | some f =>
      intro c hc
      cases (Option.some.inj hc : '.' = c)
      decide
  obtain ⟨htake, hdrop⟩ := takeWhile_digits _ hw hpt
  have hfrac : ∀ f, frac = some f → f.takeWhile isAsciiDigit = f ∧ f.dropWhile isAsciiDigit = [] := by
    intro f hfe
    simpa using takeWhile_digits [] (hf f (by simp [hfe])) (by simp)
  have hwp : w ≠ '-' ∧ w ≠ '+' := by
    have := (NumeralChar.plain (.inl (hw w (by simp)))).not_plus
    refine ⟨?_, this⟩
    rintro rfl
    simp [isAsciiDigit] at hw
  cases frac with
  | none =>
    simp only [List.append_nil] at htake hdrop
    cases negative <;> simp [decimalLiteral?, numeral, numeralValue, htake, hdrop, hwp]
  | some f =>
    obtain ⟨hft, hfd⟩ := hfrac f rfl
    simp only [List.cons_append] at htake hdrop
    cases negative <;> simp [decimalLiteral?, numeral, numeralValue, htake, hdrop, hwp, hft, hfd]

theorem isDigitChar_of_isAsciiDigit {c : Char} (h : isAsciiDigit c = true) :
    Text.isDigitChar c = true := by
  obtain ⟨n, hn, rfl⟩ := eq_ofNat_of_isAsciiDigit h
  have : ∀ n < 10, Text.isDigitChar (Char.ofNat (48 + n)) = true := by decide
  exact this n hn

theorem mem_numeral {negative : Bool} {whole : List Char} {frac : Option (List Char)} {c : Char}
    (h : c ∈ numeral negative whole frac) : c = '-' ∨ c ∈ whole ∨ c = '.' ∨ ∃ f ∈ frac, c ∈ f := by
  simp only [numeral, List.mem_append] at h
  rcases h with (h | h) | h
  · cases negative <;> simp_all
  · exact .inr (.inl h)
  · cases frac with
    | none => simp at h
    | some f =>
      rcases List.mem_cons.1 h with rfl | h
      · exact .inr (.inr (.inl rfl))
      · exact .inr (.inr (.inr ⟨f, rfl, h⟩))

theorem numeralChar_of_mem {negative : Bool} {whole : List Char} {frac : Option (List Char)}
    (hw : ∀ c ∈ whole, isAsciiDigit c = true) (hf : ∀ f ∈ frac, ∀ c ∈ f, isAsciiDigit c = true) :
    ∀ c ∈ numeral negative whole frac, NumeralChar c := by
  intro c hc
  rcases mem_numeral hc with rfl | hc | rfl | ⟨f, hfm, hc⟩
  · exact .inr (.inr rfl)
  · exact .inl (hw c hc)
  · exact .inr (.inl rfl)
  · exact .inl (hf f hfm c hc)

theorem ofList_ne_of_not_mem {cs : List Char} {t : String} {c : Char} (hc : c ∈ t.toList)
    (h : c ∉ cs) : String.ofList cs ≠ t := by
  intro heq
  rw [← heq, String.toList_ofList] at hc
  exact h hc

theorem read_of_cleaned {text : String} (negative : Bool) {w : Char} {ws : List Char}
    (frac : Option (List Char)) (hw : ∀ c ∈ w :: ws, isAsciiDigit c = true)
    (hf : ∀ f ∈ frac, ∀ c ∈ f, isAsciiDigit c = true)
    (hclean : (Text.trimChars text.toList).filter (· ≠ ',') = numeral negative (w :: ws) frac) :
    read text = .ok ((numeralValue (w :: ws) frac).toFloat negative) := by
  have hp : ∀ c ∈ numeral negative (w :: ws) frac, Plain c :=
    fun c hc => (numeralChar_of_mem hw hf c hc).plain
  have hinf : '∞' ∉ numeral negative (w :: ws) frac := fun h => (hp _ h).not_infinity rfl
  have hnan : 'N' ∉ (numeral negative (w :: ws) frac).dropWhile (fun c => c = '+' || c = '-') :=
    fun h => (hp _ ((List.dropWhile_sublist _).subset h)).not_n rfl
  have hdigit : (numeral negative (w :: ws) frac).any Text.isDigitChar = true :=
    List.any_eq_true.2 ⟨w, by cases negative <;> simp [numeral],
      isDigitChar_of_isAsciiDigit (hw w (by simp))⟩
  have hlit : literalValue? (String.ofList (numeral negative (w :: ws) frac)) =
      some ((numeralValue (w :: ws) frac).toFloat negative) := by
    simp [literalValue?, readerForm_of_plain (fun c hc => (hp c hc).toAsciiPlain),
      decimalLiteral_numeral negative frac hw hf]
  have h1 : String.ofList (numeral negative (w :: ws) frac) ≠ infinityText :=
    ofList_ne_of_not_mem (by decide) hinf
  have h2 : String.ofList (numeral negative (w :: ws) frac) ≠ "+" ++ infinityText :=
    ofList_ne_of_not_mem (by decide) hinf
  have h3 : String.ofList (numeral negative (w :: ws) frac) ≠ "-" ++ infinityText :=
    ofList_ne_of_not_mem (by decide) hinf
  have h4 : String.ofList ((numeral negative (w :: ws) frac).dropWhile
      (fun c => c = '+' || c = '-')) ≠ nanText :=
    ofList_ne_of_not_mem (by decide) hnan
  simp only [read, hclean]
  simp [h1, h2, h3, h4, hdigit, hlit]

theorem read_numeral (negative : Bool) {w : Char} {ws : List Char} (frac : Option (List Char))
    (hw : ∀ c ∈ w :: ws, isAsciiDigit c = true) (hf : ∀ f ∈ frac, ∀ c ∈ f, isAsciiDigit c = true) :
    read (String.ofList (numeral negative (w :: ws) frac)) =
      .ok ((numeralValue (w :: ws) frac).toFloat negative) := by
  have hp : ∀ c ∈ numeral negative (w :: ws) frac, Plain c :=
    fun c hc => (numeralChar_of_mem hw hf c hc).plain
  apply read_of_cleaned negative frac hw hf
  rw [String.toList_ofList, trimChars_eq_self (fun c hc => (hp c hc).not_blank)]
  exact List.filter_eq_self.2 (fun c hc => by simpa using (hp c hc).not_comma)

end PocketCalc.Number
