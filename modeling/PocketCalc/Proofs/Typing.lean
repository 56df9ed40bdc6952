import PocketCalc.Proofs.Numeral
import PocketCalc.Calculation
namespace PocketCalc

def digitChar (n : Nat) : Char := Char.ofNat (48 + n)

def shownWhole (ds : List Digit) : List Char :=
  if (literalParts ds).1 = [] then ['0'] else (literalParts ds).1.map digitChar

def typedFraction (ds : List Digit) : Option (List Char) :=
  if .point ∈ ds then some ((literalParts ds).2.map digitChar) else none

def literalChars (ds : List Digit) : List Char :=
  Number.numeral false (shownWhole ds) (typedFraction ds)

def literalText (ds : List Digit) : String := String.ofList (literalChars ds)

theorem literalParts_snd_of_not_mem {ds : List Digit} (h : .point ∉ ds) :
    (literalParts ds).2 = [] := by
  induction ds with
  | nil => rfl
  | cons d ds ih =>
    cases d with
    | point => simp at h
    | numeral n => simpa [literalParts] using ih (by simpa using h)

theorem eq_nil_of_literalParts {ds : List Digit} (hw : (literalParts ds).1 = [])
    (hp : .point ∉ ds) : ds = [] := by
  cases ds with
  | nil => rfl
  | cons d ds =>
    cases d with
    | point => simp at hp
    | numeral n => simp [literalParts] at hw

theorem literalParts_append_point (ds : List Digit) :
    literalParts (ds ++ [.point]) = literalParts ds := by
  induction ds with
  | nil => rfl
  | cons d ds ih =>
    cases d with
    | numeral n => simp [literalParts, ih]
    | point => simp [literalParts]

theorem literalParts_append_numeral (ds : List Digit) (n : Fin 10) :
    literalParts (ds ++ [.numeral n]) =
      if .point ∈ ds then ((literalParts ds).1, (literalParts ds).2 ++ [n.val])
      else ((literalParts ds).1 ++ [n.val], (literalParts ds).2) := by
  induction ds with
  | nil => rfl
  | cons d ds ih =>
    cases d with
    | numeral m =>
      by_cases hp : .point ∈ ds <;> simp [literalParts, ih, hp]
    | point => simp [literalParts]

theorem literalParts_lt (ds : List Digit) :
    ∀ n ∈ (literalParts ds).1 ++ (literalParts ds).2, n < 10 := by
  induction ds with
  | nil => simp [literalParts]
  | cons d ds ih =>
    cases d with
    | numeral m =>
      intro n hn
      simp only [literalParts, List.cons_append, List.mem_cons] at hn
      rcases hn with rfl | hn
      · exact m.isLt
      · exact ih n hn
    | point =>
      intro n hn
      simp only [literalParts, List.nil_append, List.mem_filterMap] at hn
      obtain ⟨d, -, hd⟩ := hn
      cases d with
      | numeral m => simp only [Option.some.injEq] at hd; exact hd ▸ m.isLt
      | point => simp at hd

theorem digitChar_numeral (n : Fin 10) : (Digit.numeral n).char = digitChar n.val := rfl

theorem literalChars_append_point (ds : List Digit) :
    literalChars (ds ++ [.point]) =
      if .point ∈ ds then literalChars ds else literalChars ds ++ ['.'] := by
  by_cases hp : .point ∈ ds
  · simp [literalChars, shownWhole, typedFraction, literalParts_append_point, hp]
  · simp [literalChars, shownWhole, typedFraction, literalParts_append_point, hp,
      literalParts_snd_of_not_mem hp, Number.numeral]

theorem literalChars_append_numeral {ds : List Digit} (h : ds ≠ []) (n : Fin 10) :
    literalChars (ds ++ [.numeral n]) = literalChars ds ++ [digitChar n.val] := by
  by_cases hp : .point ∈ ds
  · simp [literalChars, shownWhole, typedFraction, literalParts_append_numeral, hp, Number.numeral]
  · have hw : (literalParts ds).1 ≠ [] := fun hw => h (eq_nil_of_literalParts hw hp)
    simp [literalChars, shownWhole, typedFraction, literalParts_append_numeral, hp, hw,
      Number.numeral]

theorem ofList_append_singleton (cs : List Char) (c : Char) :
    String.ofList (cs ++ [c]) = String.ofList cs ++ String.singleton c := by
  rw [String.ofList_append, String.singleton_eq_ofList]

theorem literalText_append_point (ds : List Digit) :
    literalText (ds ++ [.point]) =
      if .point ∈ ds then literalText ds else literalText ds ++ Digit.point.label := by
  unfold literalText
  rw [literalChars_append_point]
  split
  · rfl
  · exact ofList_append_singleton _ _

theorem literalText_append_numeral {ds : List Digit} (h : ds ≠ []) (n : Fin 10) :
    literalText (ds ++ [.numeral n]) = literalText ds ++ (Digit.numeral n).label := by
  unfold literalText
  rw [literalChars_append_numeral h]
  exact ofList_append_singleton _ _

theorem literalText_singleton (d : Digit) :
    literalText [d] = if d = .point then "0." else d.label := by
  cases d with
  | point => rfl
  | numeral n =>
    have hc : literalChars [.numeral n] = [digitChar n.val] := by
      simp [literalChars, shownWhole, typedFraction, literalParts, Number.numeral]
    simp only [literalText, hc, Digit.label, String.singleton_eq_ofList, digitChar_numeral]
    simp

theorem isAsciiDigit_digitChar {n : Nat} (h : n < 10) : Number.isAsciiDigit (digitChar n) = true := by
  have : ∀ n < 10, Number.isAsciiDigit (digitChar n) = true := by decide
  exact this n h

theorem toNat_digitChar {n : Nat} (h : n < 10) : (digitChar n).toNat = 48 + n := by
  have : ∀ n < 10, (digitChar n).toNat = 48 + n := by decide
  exact this n h

theorem foldl_digitChar {ns : List Nat} (h : ∀ n ∈ ns, n < 10) (a : Nat) :
    (ns.map digitChar).foldl (fun n c => 10 * n + (c.toNat - 48)) a =
      ns.foldl (fun n d => 10 * n + d) a := by
  induction ns generalizing a with
  | nil => rfl
  | cons n ns ih =>
    simp only [List.map_cons, List.foldl_cons, toNat_digitChar (h n (by simp)),
      Nat.add_sub_cancel_left]
    exact ih (fun m hm => h m (by simp [hm])) _

theorem digitsValue_digitChar {ns : List Nat} (h : ∀ n ∈ ns, n < 10) :
    Number.digitsValue (ns.map digitChar) = ns.foldl (fun n d => 10 * n + d) 0 :=
  foldl_digitChar h 0

theorem typedFraction_getD (ds : List Digit) :
    (typedFraction ds).getD [] = (literalParts ds).2.map digitChar := by
  by_cases hp : .point ∈ ds
  · simp [typedFraction, hp]
  · simp [typedFraction, hp, literalParts_snd_of_not_mem hp]

theorem isAsciiDigit_of_mem_typedFraction (ds : List Digit) :
    ∀ f ∈ typedFraction ds, ∀ c ∈ f, Number.isAsciiDigit c = true := by
  intro f hf c hc
  have hc' : c ∈ (literalParts ds).2.map digitChar := by
    rw [← typedFraction_getD, Option.mem_def.1 hf]
    exact hc
  obtain ⟨n, hn, rfl⟩ := List.mem_map.1 hc'
  exact isAsciiDigit_digitChar (literalParts_lt ds n (List.mem_append_right _ hn))

theorem isAsciiDigit_of_mem_shownWhole (ds : List Digit) :
    ∀ c ∈ shownWhole ds, Number.isAsciiDigit c = true := by
  unfold shownWhole
  split
  · simp only [List.mem_singleton, forall_eq]
    decide
  · intro c hc
    obtain ⟨n, hn, rfl⟩ := List.mem_map.1 hc
    exact isAsciiDigit_digitChar (literalParts_lt ds n (List.mem_append_left _ hn))

theorem shownWhole_ne_nil (ds : List Digit) : shownWhole ds ≠ [] := by
  unfold shownWhole
  split
  · simp
  · simpa

theorem numeralValue_literal (ds : List Digit) :
    Number.numeralValue (shownWhole ds) (typedFraction ds) = literalDecimal ds := by
  have hlt := literalParts_lt ds
  have hcoeff : Number.digitsValue (shownWhole ds ++ (literalParts ds).2.map digitChar) =
      Number.digitsValue (((literalParts ds).1 ++ (literalParts ds).2).map digitChar) := by
    unfold shownWhole
    split
    · rename_i he
      simp [he, Number.digitsValue]
    · rw [List.map_append]
  simp only [Number.numeralValue, typedFraction_getD, hcoeff, digitsValue_digitChar hlt,
    List.length_map, literalDecimal]

theorem read_literalText (ds : List Digit) :
    Number.read (literalText ds) = .ok (literalValue ds) := by
  obtain ⟨w, ws, hw⟩ := List.exists_cons_of_ne_nil (shownWhole_ne_nil ds)
  have hread := Number.read_numeral false (typedFraction ds)
    (hw ▸ isAsciiDigit_of_mem_shownWhole ds) (isAsciiDigit_of_mem_typedFraction ds)
  rw [← hw, numeralValue_literal] at hread
  exact hread

theorem plain_of_mem_literalChars (ds : List Digit) : ∀ c ∈ literalChars ds, Number.Plain c :=
  fun c hc => (Number.numeralChar_of_mem (isAsciiDigit_of_mem_shownWhole ds)
    (isAsciiDigit_of_mem_typedFraction ds) c hc).plain

theorem point_mem_literalChars (ds : List Digit) : '.' ∈ literalChars ds ↔ .point ∈ ds := by
  have hw : '.' ∉ shownWhole ds := fun h =>
    absurd (isAsciiDigit_of_mem_shownWhole ds _ h) (by decide)
  by_cases hp : .point ∈ ds
  · simp [literalChars, typedFraction, hp, Number.numeral]
  · simp [literalChars, typedFraction, hp, Number.numeral, hw]

theorem dropWhile_minus_literalChars (ds : List Digit) :
    (literalChars ds).dropWhile (· = '-') = literalChars ds := by
  obtain ⟨w, ws, hw⟩ := List.exists_cons_of_ne_nil (shownWhole_ne_nil ds)
  have hd := isAsciiDigit_of_mem_shownWhole ds w (by simp [hw])
  have hne : w ≠ '-' := by
    rintro rfl
    simp [Number.isAsciiDigit] at hd
  simp [literalChars, Number.numeral, hw, hne]

end PocketCalc
