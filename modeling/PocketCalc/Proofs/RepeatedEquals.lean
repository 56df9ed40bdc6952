import PocketCalc.Proofs.Handlers
namespace PocketCalc.Session

variable {cfg : Settings}

def AtRest (s : Session) : Prop :=
  s.latched = true ∨
    s.startNew = true ∧ s.echoOpen = false ∧ s.expression = [] ∧ s.acc.pending = .equals

theorem atRest_afterOperator_equals (s : Session) : (afterOperator cfg s .equals).AtRest :=
  .inr ⟨afterOperator_startNew s _, afterOperator_echoOpen s _, by simp [afterOperator], rfl⟩

theorem atRest_failed (s : Session) (e : ArithError) : (failed cfg s e).AtRest := by
  unfold failed
  cases cfg.errorPolicy
  · exact .inl rfl
  · exact .inr ⟨rfl, rfl, rfl, rfl⟩

theorem atRest_handle_equals (s : Session) (hf : (s.handle cfg (.operator .equals)).fault = none) :
    (s.handle cfg (.operator .equals)).session.AtRest := by
  rw [handle_fault] at hf
  rw [handle_session]
  rcases Bool.eq_false_or_eq_true s.latched with hl | hl
  · have h : (route cfg { s with notice := none } (.operator .equals)).result =
        .ok { s with notice := none } := by simp [route, hl]
    rw [h]
    exact .inl hl
  · have hl' : ({ s with notice := none } : Session).latched = false := hl
    rw [route_operator_of_unlatched hl', inputOperator_result] at hf ⊢
    rcases commitTyped_cases cfg { s with notice := none } with
      ⟨-, h⟩ | ⟨-, e, -, h⟩ | ⟨-, x, acc, -, -, h⟩ | ⟨-, x, e, -, -, h⟩ <;>
      simp only [h, Except.map] at hf ⊢
    · exact atRest_afterOperator_equals _
    · simp [Halt.faultOf] at hf
    · exact atRest_afterOperator_equals _
    · exact atRest_failed _ e

theorem inputOperator_equals_of_rest {t : Session} (hn : t.startNew = true)
    (ho : t.echoOpen = false) (he : t.expression = []) (hp : t.acc.pending = .equals) :
    inputOperator cfg t .equals = pure t := by
  obtain ⟨entry, startNew, latched, notice, expression, echoOpen, history, acc⟩ := t
  obtain ⟨result, pending, memory, frames⟩ := acc
  simp only at hn ho he hp
  subst hn ho he hp
  simp [inputOperator]
  rfl

theorem handle_equals_atRest {t : Session} (ht : t.AtRest) :
    t.handle cfg (.operator .equals) =
      { session := { t with notice := none },
        events := .key "=" :: if t.latched then [.ignored "="] else [] } := by
  rcases Bool.eq_false_or_eq_true t.latched with hl | hl
  · simp [handle, route, hl, Outcome.ofStep, Key.label, Operator.label]
  · obtain ⟨hn, ho, he, hp⟩ := ht.resolve_left (by simp [hl])
    have hr : route cfg { t with notice := none } (.operator .equals) =
        pure { t with notice := none } := by
      rw [route_operator_of_unlatched (show ({ t with notice := none } : Session).latched = false from hl)]
      exact inputOperator_equals_of_rest hn ho he hp
    simp only [handle, hr]
    simp [Outcome.ofStep, Key.label, Operator.label, hl]

theorem equals_twice_as_once (cfg : Settings) (s : Session)
    (hf : (s.handle cfg (.operator .equals)).fault = none) :
    let t := (s.handle cfg (.operator .equals)).session
    (t.handle cfg (.operator .equals)).session = { t with notice := none } ∧
      (t.handle cfg (.operator .equals)).refusal = none ∧
      (t.handle cfg (.operator .equals)).fault = none ∧
      (∀ e ∈ (t.handle cfg (.operator .equals)).events, e = .key "=" ∨ e = .ignored "=") ∧
      (t.latched = false → t.startNew = true ∧ t.acc.pending = .equals ∧ t.expression = []) := by
  intro t
  have ht : t.AtRest := atRest_handle_equals s hf
  rw [handle_equals_atRest ht]
  refine ⟨rfl, rfl, rfl, fun e he => ?_, fun hl => ?_⟩
  · cases hl : t.latched <;> simp_all
  · obtain ⟨hn, -, he, hp⟩ := ht.resolve_left (by simp [hl])
    exact ⟨hn, hp, he⟩

theorem equals_twice_after_sum :
    let s := ({} : Session).run {} [.digit (.numeral 2), .operator .add, .digit (.numeral 3)]
    let t := (s.handle {} (.operator .equals)).session
    (s.handle {} (.operator .equals)).fault = none ∧
      (t.handle {} (.operator .equals)).session = { t with notice := none } ∧
      (t.handle {} (.operator .equals)).refusal = none ∧
      (t.handle {} (.operator .equals)).fault = none ∧
      (∀ e ∈ (t.handle {} (.operator .equals)).events, e = .key "=" ∨ e = .ignored "=") ∧
      (t.latched = false → t.startNew = true ∧ t.acc.pending = .equals ∧ t.expression = []) :=
  have hf : ((({} : Session).run {} [.digit (.numeral 2), .operator .add, .digit (.numeral 3)]).handle
      {} (.operator .equals)).fault = none := by decide +kernel
  ⟨hf, equals_twice_as_once {} _ hf⟩

theorem refused_equals_keeps_divide :
    let s := ({} : Session).run {} [.digit (.numeral 1), .operator .divide, .digit (.numeral 0)]
    let t := (s.handle {} (.operator .equals)).session
    (s.handle {} (.operator .equals)).fault = none ∧ t.latched = true ∧
      (t.handle {} (.operator .equals)).session.acc.pending = .divide ∧
      (t.handle {} (.operator .equals)).session.expression = ["1", "/", "0"] := by
  decide +kernel

end PocketCalc.Session
