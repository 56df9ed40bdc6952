import PocketCalc.Settings
namespace PocketCalc

open Json Number

theorem Except.bind_eq_error {ε α β : Type} {x : Except ε α} {f : α → Except ε β} {e : ε} :
    (x >>= f) = .error e ↔ x = .error e ∨ ∃ a, x = .ok a ∧ f a = .error e := by
  cases x <;> simp [bind, Except.bind]

@[simp] theorem Except.mapError_error {ε ε' α : Type} (g : ε → ε') (c : ε) :
    (Except.error c : Except ε α).mapError g = .error (g c) := rfl

@[simp] theorem Except.mapError_ok {ε ε' α : Type} (g : ε → ε') (a : α) :
    (Except.ok a : Except ε α).mapError g = .ok a := rfl

theorem Except.mapError_eq_error {ε ε' α : Type} {x : Except ε α} {g : ε → ε'} {e : ε'} :
    x.mapError g = .error e ↔ ∃ c, x = .error c ∧ e = g c := by
  cases x <;> simp [eq_comm]

theorem Except.mapError_eq_ok {ε ε' α : Type} {x : Except ε α} {g : ε → ε'} {a : α} :
    x.mapError g = .ok a ↔ x = .ok a := by
  cases x <;> simp

namespace Number

theorem readWhole_ne_infinite (text : String) : readWhole text ≠ .error .infinite := by
  intro h
  unfold readWhole at h
  split at h
  · cases h
  · dsimp only at h
    split at h
    · cases h
    · split at h
      · cases h
      · split at h
        · cases h
        · cases h

theorem truncate_eq_infinite_iff (x : Float) :
    truncate x = .error .infinite ↔ ∃ negative, Binary64.parts x = .infinity negative := by
  unfold truncate
  split <;> simp_all

end Number

def Json.Value.IsInfinite (v : Value) : Prop :=
  ∃ x negative, v = .float x ∧ Binary64.parts x = .infinity negative

namespace Settings

def valueOf (fields : List (Name × Value)) (name : String) : Value :=
  (fields.lookup (Name.text name)).getD ((defaultFields.lookup (Name.text name)).getD .null)

theorem ofFields_eq (fields : List (Name × Value)) :
    ofFields fields = (do
      let errorPolicy ← (policyOf (valueOf fields "error_policy")).mapError .invalid
      let historyStyle ← (styleOf (valueOf fields "history_style")).mapError .invalid
      let historyLines ← countOf (valueOf fields "history_lines")
      let fractionDigits ← countOf (valueOf fields "fraction_digits")
      check { errorPolicy, historyStyle, historyLines, fractionDigits,
              errorText := (valueOf fields "error_text").plainText }) := rfl

theorem wholeOf_eq_infinite_iff (v : Value) : wholeOf v = .error .infinite ↔ v.IsInfinite := by
  cases v
  case float x => simp [wholeOf, Value.IsInfinite, truncate_eq_infinite_iff]
  case str s => simp [wholeOf, Value.IsInfinite, readWhole_ne_infinite]
  all_goals simp [wholeOf, Value.IsInfinite]

theorem countOf_eq_ok {v : Value} {n : Int} : countOf v = .ok n ↔ wholeOf v = .ok n := by
  unfold countOf
  split <;> simp_all

theorem countOf_eq_error {v : Value} {e : SettingsError} (h : countOf v = .error e) :
    e.className = "ValueError" ∨ e = .whole .infinite ∧ v.IsInfinite := by
  unfold countOf at h
  split at h
  · cases h
  · rename_i hw
    cases h
    exact .inr ⟨rfl, (wholeOf_eq_infinite_iff v).1 hw⟩
  · cases h
    exact .inl rfl

theorem check_className {s : Settings} {e : SettingsError} (h : s.check = .error e) :
    e.className = "ValueError" := by
  unfold check at h
  split at h
  · cases h
    rfl
  · split at h
    · cases h
      rfl
    · cases h

def OverflowsAt (fields : List (Name × Value)) : Prop :=
  (∃ p, policyOf (valueOf fields "error_policy") = .ok p) ∧
    (∃ st, styleOf (valueOf fields "history_style") = .ok st) ∧
    ((valueOf fields "history_lines").IsInfinite ∨
      (∃ n, wholeOf (valueOf fields "history_lines") = .ok n) ∧
        (valueOf fields "fraction_digits").IsInfinite)

theorem valid_of_ofFields {fields : List (Name × Value)} {st : Settings}
    (h : ofFields fields = .ok st) : st.Valid := by
  rw [ofFields_eq] at h
  simp only [bind, Except.bind] at h
  split at h
  · cases h
  split at h
  · cases h
  split at h
  · cases h
  split at h
  · cases h
  exact valid_of_check h

theorem ofFields_refusal {fields : List (Name × Value)} {e : SettingsError}
    (h : ofFields fields = .error e) :
    e.className = "ValueError" ∨ e = .whole .infinite ∧ OverflowsAt fields := by
  rw [ofFields_eq] at h
  obtain he | ⟨p, hp, h⟩ := Except.bind_eq_error.1 h
  · obtain ⟨c, -, rfl⟩ := Except.mapError_eq_error.1 he
    exact .inl rfl
  obtain he | ⟨st, hs, h⟩ := Except.bind_eq_error.1 h
  · obtain ⟨c, -, rfl⟩ := Except.mapError_eq_error.1 he
    exact .inl rfl
  have hconv : (∃ p, policyOf (valueOf fields "error_policy") = .ok p) ∧
      ∃ st, styleOf (valueOf fields "history_style") = .ok st :=
    ⟨⟨p, Except.mapError_eq_ok.1 hp⟩, ⟨st, Except.mapError_eq_ok.1 hs⟩⟩
  obtain he | ⟨n, hn, h⟩ := Except.bind_eq_error.1 h
  · rcases countOf_eq_error he with hv | ⟨rfl, hinf⟩
    · exact .inl hv
    · exact .inr ⟨rfl, hconv.1, hconv.2, .inl hinf⟩
  obtain he | ⟨m, -, h⟩ := Except.bind_eq_error.1 h
  · rcases countOf_eq_error he with hv | ⟨rfl, hinf⟩
    · exact .inl hv
    · exact .inr ⟨rfl, hconv.1, hconv.2, .inr ⟨⟨n, countOf_eq_ok.1 hn⟩, hinf⟩⟩
  · exact .inl (check_className h)

theorem ofFields_of_overflowsAt {fields : List (Name × Value)} (h : OverflowsAt fields) :
    ofFields fields = .error (.whole .infinite) := by
  obtain ⟨⟨p, hp⟩, ⟨st, hs⟩, hl⟩ := h
  rw [ofFields_eq]
  rcases hl with hl | ⟨⟨n, hn⟩, hd⟩
  · simp [hp, hs, countOf, (wholeOf_eq_infinite_iff _).2 hl, bind, Except.bind]
  · simp [hp, hs, countOf, hn, (wholeOf_eq_infinite_iff _).2 hd, bind, Except.bind]

theorem settings_refused_as_invalid_but_infinite_counts (fields : List (Name × Value)) :
    (∀ st, ofFields fields = .ok st → st.Valid) ∧
      (OverflowsAt fields → ofFields fields = .error (.whole .infinite)) ∧
      (SettingsError.whole .infinite).className = "OverflowError" ∧
      ∀ e, ofFields fields = .error e → ¬OverflowsAt fields → e.className = "ValueError" := by
  refine ⟨fun st h => valid_of_ofFields h, ofFields_of_overflowsAt, rfl, fun e h hno => ?_⟩
  rcases ofFields_refusal h with hv | ⟨-, ho⟩
  · exact hv
  · exact absurd ho hno

theorem infinite_line_count_overflows :
    ofFields [("history_lines", .float Binary64.infinity)] = .error (.whole .infinite) ∧
      (SettingsError.whole .infinite).className = "OverflowError" :=
  ⟨rfl, rfl⟩

end Settings

end PocketCalc
