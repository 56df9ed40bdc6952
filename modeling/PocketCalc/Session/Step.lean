import PocketCalc.Session.Basic
namespace PocketCalc

inductive Event where
  | key (label : String)
  | ignored (label : String)
  | cleared (withHistory : Bool)
  | committed (result : Float) (op : Operator) (operand : Float) (value : Float)
  | refused (e : ArithError) (op : Operator) (operand : Float)
  | latched (e : ArithError)
  | reported (e : ArithError)
  | recorded (line : String)
  | memoryNow (m : Float)

structure Refusal where
  error : ArithError
  operator : Operator
  operand : Float

inductive Halt where
  | stop (s : Session) (r : Refusal)
  | fault (s : Session) (f : Fault)

structure Step (α : Type) where
  events : List Event
  result : Except Halt α

namespace Step

def pure (a : α) : Step α := ⟨[], .ok a⟩

def bind (x : Step α) (f : α → Step β) : Step β :=
  match x.result with
  | .ok a => ⟨x.events ++ (f a).events, (f a).result⟩
  | .error h => ⟨x.events, .error h⟩

instance : Monad Step where
  pure := pure
  bind := bind

def note (e : Event) : Step Unit := ⟨[e], .ok ()⟩

def halt (h : Halt) : Step α := ⟨[], .error h⟩

def lift (x : Except Halt α) : Step α := ⟨[], x⟩

@[simp] theorem result_bind (x : Step α) (f : α → Step β) :
    (x >>= f).result = (match x.result with | .ok a => (f a).result | .error h => .error h) := by
  show (bind x f).result = _
  unfold bind
  split <;> simp_all

@[simp] theorem result_pure (a : α) : (Pure.pure a : Step α).result = .ok a := rfl

@[simp] theorem result_note (e : Event) : (note e).result = .ok () := rfl

@[simp] theorem result_lift (x : Except Halt α) : (lift x).result = x := rfl

@[simp] theorem result_halt (h : Halt) : (halt h : Step α).result = .error h := rfl

@[simp] theorem events_bind (x : Step α) (f : α → Step β) :
    (x >>= f).events = x.events ++ (match x.result with | .ok a => (f a).events | .error _ => []) := by
  show (bind x f).events = _
  unfold bind
  split <;> simp_all

@[simp] theorem events_pure (a : α) : (Pure.pure a : Step α).events = [] := rfl

@[simp] theorem events_note (e : Event) : (note e).events = [e] := rfl

@[simp] theorem events_lift (x : Except Halt α) : (lift x).events = [] := rfl

@[simp] theorem events_halt (h : Halt) : (halt h : Step α).events = [] := rfl

@[simp] theorem pure_bind (a : α) (f : α → Step β) : (Pure.pure a : Step α) >>= f = f a := rfl

end Step

end PocketCalc
