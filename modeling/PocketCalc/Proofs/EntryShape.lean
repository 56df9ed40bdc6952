import PocketCalc.Proofs.SignToggle
namespace PocketCalc

namespace Number

structure EntryShape (cs : List Char) : Prop where
  ne_nil : cs ≠ []
  ne_minus : cs ≠ ['-']
  points : cs.count '.' ≤ 1
  minus_leads : '-' ∉ cs.tail
  no_point_lead : cs.head? ≠ some '.'
  no_minus_point : cs.take 2 ≠ ['-', '.']

theorem entryShape_signed (negative : Bool) {w : Char} {rest : List Char} (hw : w ≠ '-')
    (hwp : w ≠ '.') (hrest : '-' ∉ rest)
    (hp : ((if negative then ['-'] else []) ++ w :: rest).count '.' ≤ 1) :
    EntryShape ((if negative then ['-'] else []) ++ w :: rest) := by
  cases negative
  · exact ⟨by simp, by simp [hw], hp, hrest, by simpa using hwp, by cases rest <;> simp [hw]⟩
  · exact ⟨by simp, by simp, hp, by simp [hw.symm, hrest], by simp, by simp [hwp]⟩

theorem minus_not_mem_numeral {ws : List Char} {frac : Option (List Char)}
    (hws : ∀ c ∈ ws, isAsciiDigit c = true ∨ c = ',')
    (hf : ∀ f ∈ frac, ∀ c ∈ f, isAsciiDigit c = true) : '-' ∉ numeral false ws frac := by
  intro hm
  simp only [numeral, Bool.false_eq_true, if_false, List.nil_append, List.mem_append] at hm
  rcases hm with hm | hm
  · rcases hws '-' hm with h | h <;> exact absurd h (by decide)
  · cases frac with
    | none => simp at hm
    | some f =>
      rcases List.mem_cons.1 hm with h | h
      · exact absurd h (by decide)
      · exact absurd (hf f rfl '-' h) (by decide)

theorem EntryText.shape {cs : List Char} (h : EntryText cs) (hp : cs.count '.' ≤ 1) :
    EntryShape cs := by
  cases h with
  | @decimal negative w ws frac hw hws hf =>
    have heq : numeral negative (w :: ws) frac =
        (if negative then ['-'] else []) ++ w :: numeral false ws frac := by
      cases negative <;> rfl
    rw [heq] at hp ⊢
    exact entryShape_signed negative (ne_of_isAsciiDigit hw (by decide))
      (ne_of_isAsciiDigit hw (by decide)) (minus_not_mem_numeral hws hf) hp
  | nan negative => exact entryShape_signed negative (by decide) (by decide) (by decide) hp
  | infinity negative => exact entryShape_signed negative (by decide) (by decide) (by decide) hp
  | fragment hfr =>
    obtain ⟨negative, a, tail, ht, rfl⟩ := hfr
    refine entryShape_signed negative (by decide) (by decide) ?_ hp
    intro hm
    rcases List.mem_append.1 hm with hm | hm
    · cases a <;> simp at hm
    · rcases ht '-' hm with h | h
      · exact absurd h (by decide)
      · exact absurd h (by decide)

theorem count_point_numeral (negative : Bool) {whole : List Char} {frac : Option (List Char)}
    (hw : '.' ∉ whole) (hf : ∀ f ∈ frac, '.' ∉ f) : (numeral negative whole frac).count '.' ≤ 1 := by
  have hs : (if negative then ['-'] else []).count '.' = 0 := by cases negative <;> rfl
  cases frac with
  | none => simp [numeral, List.count_append, hs, List.count_eq_zero_of_not_mem hw]
  | some f =>
    simp [numeral, List.count_append, hs, List.count_eq_zero_of_not_mem hw,
      List.count_eq_zero_of_not_mem (hf f rfl)]

theorem point_not_mem_of_digits {cs : List Char} (h : ∀ c ∈ cs, isAsciiDigit c = true ∨ c = ',') :
    '.' ∉ cs := fun hm => by
  rcases h '.' hm with h | h
  · exact absurd h (by decide)
  · exact absurd h (by decide)

theorem count_point_display (x : Float) (places : Int) (grouping : Bool) :
    (display x places grouping).toList.count '.' ≤ 1 := by
  unfold display
  cases Binary64.parts x with
  | nan => exact (by decide : nanText.toList.count '.' ≤ 1)
  | infinity negative =>
    cases negative
    · exact (by decide : infinityText.toList.count '.' ≤ 1)
    · exact (by decide : ("-" ++ infinityText).toList.count '.' ≤ 1)
  | finite negative m q =>
    dsimp only
    generalize (if m = 0 then 0 else (Decimal.shortest m q).roundToPlaces
      (placesNeeded (Decimal.shortest m q) places)) = units
    split
    · exact (by decide : "0".toList.count '.' ≤ 1)
    · obtain ⟨w, ws, frac, heq, hw, hws, hf⟩ := fixedChars_shape units
        (placesNeeded (Decimal.shortest m q) places) grouping
      have hsign : (if negative then ['-'] else []) ++ numeral false (w :: ws) frac =
          numeral negative (w :: ws) frac := by
        cases negative <;> simp [numeral]
      rw [String.toList_ofList, heq, hsign]
      refine count_point_numeral negative (point_not_mem_of_digits ?_) fun f hfm =>
        point_not_mem_of_digits fun c hc => .inl (hf f hfm c hc)
      intro c hc
      rcases List.mem_cons.1 hc with rfl | hc
      · exact .inl hw
      · exact hws c hc

theorem count_point_toggleSign (cs : List Char) : (toggleSign cs).count '.' = cs.count '.' := by
  unfold toggleSign
  split <;> simp

end Number

namespace Session

variable {cfg : Settings}

inductive EntryEdit (cfg : Settings) (s : Session) : String → Prop
  | keep : EntryEdit cfg s s.entry
  | reset : EntryEdit cfg s "0"
  | shown (x : Float) (grouping : Bool) :
      EntryEdit cfg s (Number.display x cfg.fractionDigits grouping)
  | started (d : Digit) : EntryEdit cfg s (if d = .point then "0." else d.label)
  | typed (d : Digit) : s.entryIsNumber = true → (d = .point → '.' ∉ s.entry.toList) →
      EntryEdit cfg s (s.entry ++ d.label)
  | cut : s.entry.toList.dropLast ≠ [] → s.entry.toList.dropLast ≠ ['-'] →
      EntryEdit cfg s (String.ofList s.entry.toList.dropLast)
  | toggled : EntryEdit cfg s (toggled s.entry)
  | toggledShown (x : Float) : EntryEdit cfg s (toggled (formatPlain cfg x))

def Settled (cfg : Settings) (s : Session) (e : String) : Prop :=
  e = s.entry ∨ e = "0" ∨ ∃ x, e = format cfg x

theorem Settled.entryEdit {s : Session} {e : String} (h : Settled cfg s e) : EntryEdit cfg s e := by
  rcases h with rfl | rfl | ⟨x, rfl⟩
  · exact .keep
  · exact .reset
  · exact .shown x true

theorem Settled.failed {s t : Session} (ht : Settled cfg s t.entry) (e : ArithError) :
    Settled cfg s (failed cfg t e).entry := by
  unfold Session.failed
  cases cfg.errorPolicy
  · exact ht
  · exact .inr (.inl rfl)

theorem Settled.commit {s t : Session} (ht : Settled cfg s t.entry) (x : Float) :
    Settled cfg s (Halt.endOf (commit cfg t x).result).entry := by
  cases hc : t.acc.commit x with
  | ok acc =>
    rw [commit_of_ok hc, Halt.endOf_ok, committed_entry]
    exact .inr (.inr ⟨_, rfl⟩)
  | error e =>
    rw [commit_of_error hc, Halt.endOf_stop]
    exact ht.failed e

theorem settled_commitTyped (s : Session) :
    Settled cfg s (Halt.endOf (commitTyped cfg s).result).entry := by
  rcases commitTyped_cases cfg s with
    ⟨-, h⟩ | ⟨-, e, -, h⟩ | ⟨-, x, acc, -, -, h⟩ | ⟨-, x, e, -, -, h⟩ <;> rw [h]
  · exact .inl rfl
  · exact .inl rfl
  · exact .inr (.inr ⟨_, committed_entry s x acc⟩)
  · exact Settled.failed (s := s) (t := s) (.inl rfl) e

theorem entryEdit_inputDigit (s : Session) (d : Digit) :
    EntryEdit cfg s (Halt.endOf (inputDigit s d)).entry := by
  unfold inputDigit
  split
  · rw [entry_endOf_echo]
    exact .started d
  · rename_i hnew
    simp only [Bool.or_eq_true, Bool.not_eq_true', not_or, Bool.not_eq_false] at hnew
    split
    · exact .keep
    · rename_i hpoint
      rw [entry_endOf_echo]
      refine .typed d hnew.2 fun hd hm => hpoint ?_
      simp [hd, hm]

theorem entry_endOf_openParen (s : Session) : (Halt.endOf (openParen s)).entry = s.entry := by
  have he := entry_endOf_dropEcho s
  unfold openParen
  cases h : dropEcho s with
  | error e =>
    rw [h] at he
    exact he
  | ok t =>
    rw [h] at he
    exact he

theorem entryEdit_closeParen (s : Session) :
    EntryEdit cfg s (Halt.endOf (closeParen cfg s).result).entry := by
  by_cases hd : s.acc.depth = 0
  · simpa [Session.closeParen, hd] using (EntryEdit.keep : EntryEdit cfg s s.entry)
  · rw [closeParen_result hd]
    have hc : Settled cfg s _ := settled_commitTyped s
    cases h : (commitTyped cfg s).result with
    | error e =>
      rw [h] at hc
      exact hc.entryEdit
    | ok t =>
      rw [h] at hc
      simp only
      cases t.acc.closeParen with
      | none => exact hc.entryEdit
      | some p =>
        obtain ⟨inner, acc⟩ := p
        rw [entry_endOf_map _ (f := afterClose) (fun u => rfl)]
        exact (show Settled cfg s ({ t with acc } : Session).entry from hc).commit inner |>.entryEdit

theorem entryEdit_backspace (s : Session) : EntryEdit cfg s (Halt.endOf (backspace s)).entry := by
  unfold backspace
  split
  · exact .keep
  · dsimp only
    split
    · rw [entry_endOf_dropEcho]
      exact .reset
    · rename_i hleft
      simp only [Bool.or_eq_true, decide_eq_true_eq, not_or] at hleft
      rw [entry_endOf_echo]
      exact .cut (fun h => hleft.1 (by rw [h])) (fun h => hleft.2 (by rw [h]))

theorem negated_eq_toggled (text : String) :
    (match text.toList with
      | '-' :: rest => String.ofList rest
      | cs => String.ofList ('-' :: cs)) = toggled text := by
  unfold toggled
  split
  · rename_i rest hr
    simp [hr, Number.toggleSign]
  · rename_i cs hne
    rw [Number.toggleSign.eq_2 _ hne]

theorem entryEdit_negate (s : Session) : EntryEdit cfg s (Halt.endOf (negate cfg s)).entry := by
  unfold negate
  split
  · exact .keep
  · cases hn : s.startNew
    · simp only [Bool.false_eq_true, if_false, pure_bind]
      rw [entry_endOf_echo]
      -- the program's match is unfolded against the lemma's, so the lemma is used in `h`
      have h : EntryEdit cfg s (toggled s.entry) := .toggled
      rwa [← negated_eq_toggled] at h
    · simp only [if_true]
      cases hr : Number.read s.entry with
      | error e =>
        simp only [entryValue_of_error hr, bind, Except.bind]
        exact .keep
      | ok x =>
        simp only [entryValue_of_ok hr, bind, Except.bind, pure, Except.pure]
        rw [entry_endOf_echo]
        have h : EntryEdit cfg s (toggled (formatPlain cfg x)) := .toggledShown x
        rwa [← negated_eq_toggled] at h

theorem entryEdit_route (s : Session) (k : Key) :
    EntryEdit cfg s (Halt.endOf (route cfg s k).result).entry := by
  refine route_elim (fun _ r => EntryEdit cfg s (Halt.endOf r).entry) ?clear ?cancel ?ignored
    ?digit ?operator ?openParen ?closeParen ?backspace ?negate ?memory k
  case clear | cancel => exact .reset
  case ignored => exact fun _ _ => .keep
  case digit => exact fun _ d => entryEdit_inputDigit s d
  case operator =>
    intro _ op
    rw [inputOperator_result, entry_endOf_map _ (fun t => afterOperator_entry t op)]
    exact (settled_commitTyped s).entryEdit
  case openParen =>
    intro _
    rw [entry_endOf_openParen]
    exact .keep
  case closeParen => exact fun _ => entryEdit_closeParen s
  case backspace => exact fun _ => entryEdit_backspace s
  case negate => exact fun _ => entryEdit_negate s
  case memory =>
    intro _ c _
    rw [entry_memory]
    split
    · exact .shown _ false
    · exact .keep

def PointOnce (s : Session) : Prop := s.entry.toList.count '.' ≤ 1

theorem EntryEdit.pointOnce {s : Session} {e : String} (h : EntryEdit cfg s e) (hs : s.PointOnce) :
    e.toList.count '.' ≤ 1 := by
  cases h with
  | keep => exact hs
  | reset => decide
  | shown x grouping => exact Number.count_point_display x _ grouping
  | started d =>
    cases d with
    | point => decide
    | numeral n =>
      have : ∀ n : Fin 10, (Digit.numeral n).label.toList.count '.' = 0 := by decide
      have := this n
      simp only [reduceCtorEq, if_false]
      omega
  | typed d _ hpoint =>
    rw [String.toList_append, List.count_append]
    cases d with
    | point =>
      rw [List.count_eq_zero_of_not_mem (hpoint rfl)]
      decide
    | numeral n =>
      have : ∀ n : Fin 10, (Digit.numeral n).label.toList.count '.' = 0 := by decide
      rw [this n]
      exact hs
  | cut =>
    rw [String.toList_ofList]
    exact Nat.le_trans ((List.dropLast_sublist _).count_le '.') hs
  | toggled =>
    rw [Session.toggled, String.toList_ofList, Number.count_point_toggleSign]
    exact hs
  | toggledShown x =>
    rw [Session.toggled, String.toList_ofList, Number.count_point_toggleSign]
    exact Number.count_point_display x _ false

theorem Reachable.pointOnce {s : Session} (h : Reachable cfg s) : s.PointOnce := by
  induction h with
  | start => exact (by decide : "0".toList.count '.' ≤ 1)
  | @step s k _ ih =>
    rw [PointOnce, handle_session]
    exact (entryEdit_route { s with notice := none } k).pointOnce ih

theorem entry_shape (cfg : Settings) (keys : List Key) :
    Number.EntryShape (({} : Session).run cfg keys).entry.toList :=
  have h := Reachable.start.run keys
  h.shaped.shape h.pointOnce

end Session

end PocketCalc
