import PocketCalc.Arithmetic
namespace PocketCalc

structure Frame where
  result : Float
  pending : Operator

structure Accumulator where
  result : Float := 0
  pending : Operator := .equals
  memory : Float := 0
  frames : List Frame := []

namespace Accumulator

def depth (a : Accumulator) : Nat := a.frames.length

def setPending (a : Accumulator) (op : Operator) : Accumulator := { a with pending := op }

def commit (a : Accumulator) (x : Float) : Except ArithError Accumulator :=
  match a.pending.apply a.result x with
  | .ok (r, none) => .ok { a with result := r }
  | .ok (_, some e) => .error e
  -- never taken: the guard refuses every operand on which the operation raises
  | .error .zeroDivision => .error .divisionByZero
  | .error .mathDomain => .error .invalidSquareRoot

def openParen (a : Accumulator) : Accumulator :=
  { a with frames := ⟨a.result, a.pending⟩ :: a.frames, result := 0, pending := .equals }

def closeParen (a : Accumulator) : Option (Float × Accumulator) :=
  match a.frames with
  | [] => none
  | f :: rest => some (a.result, { a with result := f.result, pending := f.pending, frames := rest })

def reset (a : Accumulator) : Accumulator := { memory := a.memory }

def memoryClear (a : Accumulator) : Accumulator := { a with memory := 0 }

def memoryAdd (a : Accumulator) (x : Float) : Accumulator := { a with memory := a.memory + x }

def memorySubtract (a : Accumulator) (x : Float) : Accumulator := { a with memory := a.memory - x }

def memoryStore (a : Accumulator) (x : Float) : Accumulator := { a with memory := x }

theorem closeParen_openParen (a : Accumulator) : a.openParen.closeParen = some (0, a) := by
  cases a
  rfl

theorem closeParen_eq_none {a : Accumulator} : a.closeParen = none ↔ a.frames = [] := by
  unfold closeParen
  split <;> simp_all

@[simp] theorem memory_reset (a : Accumulator) : a.reset.memory = a.memory := rfl

@[simp] theorem frames_reset (a : Accumulator) : a.reset.frames = [] := rfl

theorem commit_eq_ok {a b : Accumulator} {x : Float} :
    a.commit x = .ok b ↔
      ∃ r, a.pending.apply a.result x = .ok (r, none) ∧ b = { a with result := r } := by
  unfold commit
  rcases a.pending.apply a.result x with e | ⟨r, _ | e⟩
  · cases e <;> simp
  · simp [eq_comm]
  · simp

theorem frames_of_commit {a b : Accumulator} {x : Float} (h : a.commit x = .ok b) :
    b.frames = a.frames := by
  obtain ⟨r, -, rfl⟩ := commit_eq_ok.1 h
  rfl

inductive Call where
  | commit (x : Float)
  | setPending (op : Operator)
  | openParen
  | closeParen
  | reset
  | memoryClear
  | memoryRecall
  | memoryAdd (x : Float)
  | memorySubtract (x : Float)
  | memoryStore (x : Float)

def perform (a : Accumulator) : Call → Accumulator
  | .commit x =>
    match a.commit x with
    | .ok b => b
    | .error _ => a
  | .setPending op => a.setPending op
  | .openParen => a.openParen
  | .closeParen =>
    match a.closeParen with
    | some (_, b) => b
    | none => a
  | .reset => a.reset
  | .memoryClear => a.memoryClear
  | .memoryRecall => a
  | .memoryAdd x => a.memoryAdd x
  | .memorySubtract x => a.memorySubtract x
  | .memoryStore x => a.memoryStore x

def performAll (a : Accumulator) (cs : List Call) : Accumulator := cs.foldl perform a

@[simp] theorem performAll_nil (a : Accumulator) : a.performAll [] = a := rfl

@[simp] theorem performAll_cons (a : Accumulator) (c : Call) (cs : List Call) :
    a.performAll (c :: cs) = (a.perform c).performAll cs := rfl

end Accumulator

end PocketCalc
