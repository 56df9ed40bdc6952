import Mathlib
import PocketCalc.Arithmetic
namespace PocketCalc

section Binary64

open Float.Model Float.Model.UnpackedFloat

theorem pack_ne_packedNaN {v : UnpackedFloat} (hv : v ≠ notANumber) :
    UnpackedFloat.pack .binary64 v ≠ packedNaN .binary64 := by
  intro heq
  cases v with
  | notANumber => exact hv rfl
  | infinity s => cases s <;> exact absurd heq (by decide)
  | zero s => cases s <;> exact absurd heq (by decide)
  | finite s m e hm =>
    unfold UnpackedFloat.pack at heq
    simp only at heq
    split at heq
    · have := congrArg unpackMantissa heq
      simp only [packedInfinity, packedNaN, unpackMantissa_packComponents] at this
      exact absurd this (by decide)
    · split at heq
      · -- a normal value keeps its exponent field below all ones
        have := congrArg unpackExponent heq
        simp only [packedNaN, unpackExponent_packComponents] at this
        have h2 := congrArg BitVec.toNat this
        rename_i hb _
        have hbias : Format.binary64.exponentBias = 1023 := by decide
        rw [hbias] at h2 hb
        simp only [BitVec.toNat_ofNat] at h2
        change _ = (2047 : Nat) at h2
        omega
      · have := congrArg unpackExponent heq
        simp only [packedNaN, unpackExponent_packComponents] at this
        exact absurd this (by decide)

theorem lt_zero_iff_compare (x : Float) :
    x < 0 ↔ x.toModel.unpack.compare (.zero .positive) = some .lt := by
  have h0 : (0 : Float).toModel.unpack = .zero .positive := rfl
  simp only [LT.lt, Float.lt, Float.Model.lt, UnpackedFloat.lt, h0, decide_eq_true_eq, beq_iff_eq]

theorem isNaN_sqrt_unpacked (u : UnpackedFloat) :
    (UnpackedFloat.sqrt .binary64 u).isNaN = true ↔
      u.isNaN = true ∨ u.compare (.zero .positive) = some .lt := by
  cases u with
  | notANumber => simp [UnpackedFloat.sqrt, UnpackedFloat.isNaN]
  | infinity s => cases s <;> simp [UnpackedFloat.sqrt, UnpackedFloat.isNaN, UnpackedFloat.compare]
  | zero s => cases s <;> simp [UnpackedFloat.sqrt, UnpackedFloat.isNaN, UnpackedFloat.compare]
  | finite s m e h =>
    cases s
    · simp [UnpackedFloat.sqrt, UnpackedFloat.isNaN, UnpackedFloat.compare]
    · simp only [UnpackedFloat.sqrt, roundWithAccuracy]
      split <;> simp [UnpackedFloat.isNaN, UnpackedFloat.compare]

theorem isNaN_sqrt (x : Float) : x.sqrt.isNaN = true ↔ x.isNaN = true ∨ x < 0 := by
  rw [lt_zero_iff_compare]
  show (unpack .binary64 (UnpackedFloat.pack .binary64
      (UnpackedFloat.sqrt .binary64 x.toModel.unpack))).isNaN = true ↔
    x.toModel.unpack.isNaN = true ∨ _
  rw [isNaN_unpack_iff_of_valid valid_pack, ← isNaN_sqrt_unpacked, isNaN_iff]
  constructor
  · intro h
    by_contra hn
    exact pack_ne_packedNaN hn h
  · intro h
    rw [h]
    rfl

theorem isNaN_of_lt_zero {x : Float} (h : x < 0) : x.isNaN = false := by
  rw [lt_zero_iff_compare] at h
  show x.toModel.unpack.isNaN = false
  cases hu : x.toModel.unpack with
  | notANumber => simp [hu, UnpackedFloat.compare] at h
  | _ => rfl

theorem beq_zero_iff (x : Float) : (x == 0) = true ↔ x = 0 ∨ x = -0 := by
  have h0 : (0 : Float) ≠ Float.nan := by decide
  have hn : (-0 : Float) ≠ Float.nan := by decide
  rw [Float.beq_iff_ne_nan_and_eq]
  constructor
  · rintro ⟨-, -, h | ⟨h, -⟩ | ⟨h, -⟩⟩ <;> simp [h]
  · rintro (rfl | rfl)
    · exact ⟨h0, h0, .inl rfl⟩
    · exact ⟨hn, h0, .inr (.inr ⟨rfl, rfl⟩)⟩

end Binary64

theorem trueDiv_raises_iff (a b : Float) : (∃ e, trueDiv a b = .error e) ↔ (b == 0) = true := by
  unfold trueDiv
  cases b == 0 <;> simp

theorem mathSqrt_raises_iff (x : Float) : (∃ e, mathSqrt x = .error e) ↔ x < 0 := by
  have hcond : (x.sqrt.isNaN && !x.isNaN) = true ↔ x < 0 := by
    rw [Bool.and_eq_true, isNaN_sqrt, Bool.not_eq_true']
    constructor
    · rintro ⟨h | h, hn⟩
      · cases h.symm.trans hn
      · exact h
    · exact fun h => ⟨.inr h, isNaN_of_lt_zero h⟩
  unfold mathSqrt
  split <;> simp_all

namespace Operator

def Refuses (op : Operator) (x : Float) (e : ArithError) : Prop :=
  (e = .divisionByZero ∧ (op = .divide ∨ op = .reciprocal) ∧ (x == 0) = true) ∨
    (e = .invalidSquareRoot ∧ op = .sqrt ∧ x < 0)

theorem guard_eq_some_iff (op : Operator) (x : Float) (e : ArithError) :
    op.guard x = some e ↔ op.Refuses x e := by
  cases op <;> cases e <;> by_cases h0 : (x == 0) = true <;> by_cases hn : x < 0 <;>
    simp [guard, Refuses, h0, hn]

theorem eval_raises_iff (op : Operator) (r x : Float) :
    (∃ e, op.eval r x = .error e) ↔ ∃ e, op.guard x = some e := by
  cases op
  case divide | reciprocal =>
    rw [eval, trueDiv_raises_iff]
    by_cases h : (x == 0) = true <;> simp [guard, h]
  case sqrt =>
    rw [eval, mathSqrt_raises_iff]
    by_cases h : x < 0 <;> simp [guard, h]
  case percent =>
    have h : ((100 : Float) == 0) = false := by decide
    simp [eval, guard, trueDiv, h, Except.map]
  all_goals simp [eval, guard]

theorem eval_of_guard_none {op : Operator} {r x : Float} (h : op.guard x = none) :
    ∃ v, op.eval r x = .ok v := by
  cases hv : op.eval r x with
  | ok v => exact ⟨v, rfl⟩
  | error e =>
    obtain ⟨e', he'⟩ := (eval_raises_iff op r x).1 ⟨e, hv⟩
    simp [h] at he'

theorem apply_cases (op : Operator) (r x : Float) :
    (∃ e, op.guard x = some e ∧ op.apply r x = .ok (r, some e)) ∨
      op.guard x = none ∧ ∃ v, op.eval r x = .ok v ∧ op.apply r x = .ok (v, none) := by
  cases hg : op.guard x with
  | some e => exact .inl ⟨e, rfl, apply_of_guard_some hg⟩
  | none =>
    obtain ⟨v, hv⟩ := eval_of_guard_none (r := r) hg
    exact .inr ⟨rfl, v, hv, by rw [apply_of_guard_none hg, hv]; rfl⟩

theorem apply_refused_iff (op : Operator) (r x : Float) (e : ArithError) :
    op.apply r x = .ok (r, some e) ↔ op.Refuses x e := by
  rw [← guard_eq_some_iff]
  rcases apply_cases op r x with ⟨e', hg, ha⟩ | ⟨hg, v, -, ha⟩
  · rw [ha, hg]
    simp
  · rw [ha, hg]
    simp

theorem apply_returns (op : Operator) (r x : Float) : ∃ p, op.apply r x = .ok p := by
  rcases apply_cases op r x with ⟨e, -, ha⟩ | ⟨-, v, -, ha⟩
  · exact ⟨_, ha⟩
  · exact ⟨_, ha⟩

theorem guard_eq_none_iff (op : Operator) (r x : Float) :
    op.guard x = none ↔ ∃ v, op.eval r x = .ok v ∧ op.apply r x = .ok (v, none) := by
  rcases apply_cases op r x with ⟨e, hg, ha⟩ | ⟨hg, h⟩
  · rw [hg]
    constructor
    · intro h
      cases h
    · rintro ⟨v, -, hv⟩
      simp [ha] at hv
  · exact ⟨fun _ => h, fun _ => hg⟩

theorem apply_never_raises (op : Operator) (r x : Float) :
    (∃ p, op.apply r x = .ok p) ∧
    (op.apply r x = .ok (r, some .divisionByZero) ↔
      (op = .divide ∨ op = .reciprocal) ∧ (x = 0 ∨ x = -0)) ∧
    (op.apply r x = .ok (r, some .invalidSquareRoot) ↔ op = .sqrt ∧ x < 0) ∧
    (op.guard x = none ↔ ∃ v, op.eval r x = .ok v ∧ op.apply r x = .ok (v, none)) ∧
    ((∃ e, op.eval r x = .error e) ↔ ∃ e, op.guard x = some e) ∧
    Operator.sqrt.apply r (-0) = .ok (-0, none) ∧
    Operator.sqrt.apply r Float.nan = .ok (Float.nan, none) ∧
    Operator.sqrt.apply r (-Float.inf) = .ok (r, some .invalidSquareRoot) := by
  refine ⟨apply_returns op r x, ?_, ?_, guard_eq_none_iff op r x, eval_raises_iff op r x, ?_, ?_,
    apply_of_guard_some (by decide)⟩
  · rw [apply_refused_iff, ← beq_zero_iff]
    simp [Refuses]
  · rw [apply_refused_iff]
    simp [Refuses]
  · rw [apply_of_guard_none (by decide)]
    rfl
  · rw [apply_of_guard_none (by decide)]
    rfl

end Operator

end PocketCalc
