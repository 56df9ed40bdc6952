import PocketCalc.Key.Basic
namespace PocketCalc

inductive ArithError where
  | divisionByZero
  | invalidSquareRoot
  deriving DecidableEq, Repr

def ArithError.message : ArithError → String
  | .divisionByZero => "Division by zero"
  | .invalidSquareRoot => "Invalid square root"

inductive Raised where
  | zeroDivision
  | mathDomain
  deriving DecidableEq, Repr

def trueDiv (a b : Float) : Except Raised Float :=
  if b == 0 then .error .zeroDivision else .ok (a / b)

-- a NaN made from an argument that is not one is a domain error
def mathSqrt (x : Float) : Except Raised Float :=
  if x.sqrt.isNaN && !x.isNaN then .error .mathDomain else .ok x.sqrt

namespace Operator

def guard (op : Operator) (x : Float) : Option ArithError :=
  match op with
  | .divide | .reciprocal => if x == 0 then some .divisionByZero else none
  | .sqrt => if x < 0 then some .invalidSquareRoot else none
  | _ => none

def eval (op : Operator) (r x : Float) : Except Raised Float :=
  match op with
  | .add => .ok (r + x)
  | .subtract => .ok (r - x)
  | .multiply => .ok (r * x)
  | .divide => trueDiv r x
  | .percent => (trueDiv x 100).map (r * ·)
  | .sqrt => mathSqrt x
  | .square => .ok (x * x)
  | .reciprocal => trueDiv 1 x
  | .equals => .ok x

def apply (op : Operator) (r x : Float) : Except Raised (Float × Option ArithError) :=
  match op.guard x with
  | some e => .ok (r, some e)
  | none => (op.eval r x).map fun v => (v, none)

theorem apply_of_guard_some {op : Operator} {r x : Float} {e : ArithError}
    (h : op.guard x = some e) : op.apply r x = .ok (r, some e) := by
  simp [apply, h]

theorem apply_of_guard_none {op : Operator} {r x : Float} (h : op.guard x = none) :
    op.apply r x = (op.eval r x).map fun v => (v, none) := by
  simp [apply, h]

def ofLabel? (s : String) : Option Operator := all.find? (·.label == s)

end Operator

end PocketCalc
