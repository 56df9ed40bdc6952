import PocketCalc.Proofs.Handlers
namespace PocketCalc.Session

theorem clear_true_eq (s : Session) : s.clear true = { acc := { memory := s.acc.memory } } := by
  cases s
  rfl

theorem clear_false_eq (s : Session) :
    s.clear false = { acc := { memory := s.acc.memory }, history := s.history } := by
  cases s
  rfl

theorem clear_clear (s : Session) (b c : Bool) : (s.clear b).clear c = s.clear (b || c) := by
  cases b <;> cases c <;> rfl

theorem handle_clear (cfg : Settings) (s : Session) (b : Bool) :
    (s.handle cfg (.command (if b then .clear else .cancel))).session = s.clear b ∧
      (s.handle cfg (.command (if b then .clear else .cancel))).fault = none := by
  rw [handle_session, handle_fault]
  cases b <;> exact ⟨rfl, rfl⟩

theorem clear_restores_fresh (cfg : Settings) (s : Session) :
    (s.handle cfg (.command .clear)).session = { acc := { memory := s.acc.memory } } ∧
    (s.handle cfg (.command .cancel)).session =
      { acc := { memory := s.acc.memory }, history := s.history } ∧
    (s.handle cfg (.command .clear)).fault = none ∧ (s.handle cfg (.command .cancel)).fault = none ∧
    s.run cfg [.command .clear, .command .clear] = s.run cfg [.command .clear] ∧
    s.run cfg [.command .cancel, .command .cancel] = s.run cfg [.command .cancel] ∧
    s.run cfg [.command .cancel, .command .clear] = s.run cfg [.command .clear] := by
  obtain ⟨hc, hcf⟩ := handle_clear cfg s true
  obtain ⟨he, hef⟩ := handle_clear cfg s false
  have hcc := (handle_clear cfg (s.clear true) true).1
  have hee := (handle_clear cfg (s.clear false) false).1
  have hec := (handle_clear cfg (s.clear false) true).1
  simp only [if_true, Bool.false_eq_true, if_false] at hc hcf he hef hcc hee hec
  refine ⟨by rw [hc, clear_true_eq], by rw [he, clear_false_eq], hcf, hef, ?_, ?_, ?_⟩
  · simp only [run_cons, run_nil, hc, hcc, clear_clear, Bool.or_self]
  · simp only [run_cons, run_nil, he, hee, clear_clear, Bool.or_self]
  · simp only [run_cons, run_nil, he, hc, hec, clear_clear, Bool.false_or]

end PocketCalc.Session
