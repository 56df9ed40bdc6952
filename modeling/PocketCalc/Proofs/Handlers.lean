import PocketCalc.Session.Run
namespace PocketCalc

def Halt.session : Halt → Session
  | .stop s _ => s
  | .fault s _ => s

def Halt.endOf : Except Halt Session → Session
  | .ok s => s
  | .error h => h.session

def Halt.faultOf : Except Halt Session → Option Fault
  | .error (.fault _ f) => some f
  | _ => none

@[simp] theorem Halt.endOf_ok (s : Session) : Halt.endOf (.ok s) = s := rfl

@[simp] theorem Halt.endOf_stop (s : Session) (r : Refusal) :
    Halt.endOf (.error (.stop s r)) = s := rfl

@[simp] theorem Halt.endOf_fault (s : Session) (f : Fault) :
    Halt.endOf (.error (.fault s f)) = s := rfl

namespace Step

@[simp] theorem result_ite (c : Prop) [Decidable c] (x y : Step α) :
    (if c then x else y).result = if c then x.result else y.result := by
  split <;> rfl

@[simp] theorem lift_ok_bind (a : α) (f : α → Step β) : (lift (.ok a) >>= f) = f a := rfl

@[simp] theorem lift_error_bind (h : Halt) (f : α → Step β) : (lift (.error h) >>= f) = halt h :=
  rfl

end Step

theorem Outcome.session_ofStep (x : Step Session) :
    (Outcome.ofStep x).session = Halt.endOf x.result := by
  unfold Outcome.ofStep
  split <;> simp_all [Halt.endOf, Halt.session]

theorem Outcome.fault_ofStep (x : Step Session) :
    (Outcome.ofStep x).fault = Halt.faultOf x.result := by
  unfold Outcome.ofStep
  split <;> simp_all [Halt.faultOf]

namespace Session

variable {cfg : Settings}

theorem handle_session (s : Session) (k : Key) :
    (s.handle cfg k).session = Halt.endOf (route cfg { s with notice := none } k).result := by
  simp [handle, Outcome.session_ofStep]

theorem handle_fault (s : Session) (k : Key) :
    (s.handle cfg k).fault = Halt.faultOf (route cfg { s with notice := none } k).result := by
  simp [handle, Outcome.fault_ofStep]

@[simp] theorem record_result (s : Session) (line : String) :
    (record s line).result = .ok { s with history := s.history.add line } := rfl

theorem entryValue_of_ok {s : Session} {x : Float} (h : Number.read s.entry = .ok x) :
    entryValue s = .ok x := by
  simp [entryValue, h]

theorem entryValue_of_error {s : Session} {e : Number.ReadError}
    (h : Number.read s.entry = .error e) : entryValue s = .error (.fault s (.unreadable e)) := by
  simp [entryValue, h]

variable (cfg) in
def failed (s : Session) (e : ArithError) : Session :=
  match cfg.errorPolicy with
  | .latch => { s with latched := true }
  | .dialog => { s.clear false with notice := some e }

variable (cfg) in
def committed (s : Session) (x : Float) (acc : Accumulator) : Session :=
  match cfg.historyStyle with
  | .step =>
    { s with acc, entry := format cfg acc.result,
             history := s.history.add
               (format cfg x ++ " " ++ s.acc.pending.label ++ " = " ++ format cfg acc.result) }
  | .expression => { s with acc, entry := format cfg acc.result }

section Committed

variable (s : Session) (x : Float) (acc : Accumulator)

@[simp] theorem committed_acc : (committed cfg s x acc).acc = acc := by
  unfold committed; cases cfg.historyStyle <;> rfl

@[simp] theorem committed_entry : (committed cfg s x acc).entry = format cfg acc.result := by
  unfold committed; cases cfg.historyStyle <;> rfl

@[simp] theorem committed_startNew : (committed cfg s x acc).startNew = s.startNew := by
  unfold committed; cases cfg.historyStyle <;> rfl

@[simp] theorem committed_latched : (committed cfg s x acc).latched = s.latched := by
  unfold committed; cases cfg.historyStyle <;> rfl

@[simp] theorem committed_echoOpen : (committed cfg s x acc).echoOpen = s.echoOpen := by
  unfold committed; cases cfg.historyStyle <;> rfl

@[simp] theorem committed_expression : (committed cfg s x acc).expression = s.expression := by
  unfold committed; cases cfg.historyStyle <;> rfl

theorem committed_history_expression (h : cfg.historyStyle = .expression) :
    (committed cfg s x acc).history = s.history := by
  unfold committed; rw [h]

theorem committed_history_step (h : cfg.historyStyle = .step) :
    (committed cfg s x acc).history = s.history.add
      (format cfg x ++ " " ++ s.acc.pending.label ++ " = " ++ format cfg acc.result) := by
  unfold committed; rw [h]

end Committed

theorem fail_result (s : Session) (e : ArithError) : (fail cfg s e).result = .ok (failed cfg s e) := by
  unfold fail failed
  cases cfg.errorPolicy <;> rfl

theorem commit_of_ok {s : Session} {x : Float} {acc : Accumulator} (h : s.acc.commit x = .ok acc) :
    (commit cfg s x).result = .ok (committed cfg s x acc) := by
  unfold commit committed
  rw [h]
  cases cfg.historyStyle <;> rfl

theorem commit_of_error {s : Session} {x : Float} {e : ArithError} (h : s.acc.commit x = .error e) :
    (commit cfg s x).result = .error (.stop (failed cfg s e) ⟨e, s.acc.pending, x⟩) := by
  unfold commit
  rw [h]
  simp [fail_result]

theorem commitTyped_cases (cfg : Settings) (s : Session) :
    (s.startNew = true ∧ (commitTyped cfg s).result = .ok s) ∨
    (s.startNew = false ∧ ∃ e, Number.read s.entry = .error e ∧
      (commitTyped cfg s).result = .error (.fault s (.unreadable e))) ∨
    (s.startNew = false ∧ ∃ x acc, Number.read s.entry = .ok x ∧ s.acc.commit x = .ok acc ∧
      (commitTyped cfg s).result = .ok (committed cfg s x acc)) ∨
    (s.startNew = false ∧ ∃ x e, Number.read s.entry = .ok x ∧ s.acc.commit x = .error e ∧
      (commitTyped cfg s).result = .error (.stop (failed cfg s e) ⟨e, s.acc.pending, x⟩)) := by
  cases hn : s.startNew
  · cases hr : Number.read s.entry with
    | error e =>
      exact .inr (.inl ⟨rfl, e, rfl, by simp [commitTyped, hn, entryValue_of_error hr]⟩)
    | ok x =>
      cases hc : s.acc.commit x with
      | ok acc =>
        refine .inr (.inr (.inl ⟨rfl, x, acc, rfl, hc, ?_⟩))
        simp [commitTyped, hn, entryValue_of_ok hr, commit_of_ok hc]
      | error e =>
        refine .inr (.inr (.inr ⟨rfl, x, e, rfl, hc, ?_⟩))
        simp [commitTyped, hn, entryValue_of_ok hr, commit_of_error hc]
  · exact .inl ⟨rfl, by simp [commitTyped, hn]⟩

theorem echo_eq {t : Session} (hne : t.echoOpen = true → t.expression ≠ []) :
    echo t = .ok { t with
      expression := (if t.echoOpen then t.expression.dropLast else t.expression) ++ [t.entry]
      echoOpen := true } := by
  cases t with
  | mk entry startNew latched notice expression echoOpen history acc =>
    cases echoOpen <;> simp_all [echo]

theorem dropEcho_eq {t : Session} (hne : t.echoOpen = true → t.expression ≠ []) :
    dropEcho t = .ok { t with
      expression := if t.echoOpen then t.expression.dropLast else t.expression
      echoOpen := false } := by
  cases t with
  | mk entry startNew latched notice expression echoOpen history acc =>
    cases echoOpen <;> simp_all [dropEcho]

variable (cfg) in
def afterOperator (s : Session) (op : Operator) : Session :=
  let t := { s with startNew := true, echoOpen := false, acc := s.acc.setPending op }
  if op = .equals then
    { t with
      expression := []
      history := if cfg.historyStyle = .expression ∧ t.expression ≠ [] then
        t.history.add (" ".intercalate (t.expression ++ ["=", format cfg t.acc.result]))
      else t.history }
  else
    { t with expression := t.expression ++
      ((if t.expression = [] ∧ op.isBinary then [format cfg t.acc.result] else []) ++ [op.label]) }

section AfterOperator

variable (s : Session) (op : Operator)

@[simp] theorem afterOperator_acc : (afterOperator cfg s op).acc = s.acc.setPending op := by
  unfold afterOperator; split <;> rfl

@[simp] theorem afterOperator_latched : (afterOperator cfg s op).latched = s.latched := by
  unfold afterOperator; split <;> rfl

@[simp] theorem afterOperator_startNew : (afterOperator cfg s op).startNew = true := by
  unfold afterOperator; split <;> rfl

@[simp] theorem afterOperator_echoOpen : (afterOperator cfg s op).echoOpen = false := by
  unfold afterOperator; split <;> rfl

@[simp] theorem afterOperator_entry : (afterOperator cfg s op).entry = s.entry := by
  unfold afterOperator; split <;> rfl

end AfterOperator

theorem inputOperator_result (s : Session) (op : Operator) :
    (inputOperator cfg s op).result = (commitTyped cfg s).result.map (afterOperator cfg · op) := by
  unfold inputOperator afterOperator
  cases hn : s.startNew
  · simp
    cases (commitTyped cfg s).result with
    | error h => rfl
    | ok a =>
      by_cases hop : op = .equals
      · simp only [hop, if_true, Except.map]
        split <;> simp
      · simp [hop, Except.map]
  · simp [hn, commitTyped, Except.map]
    by_cases hop : op = .equals
    · simp only [hop, if_true]
      split <;> simp_all
    · simp [hop]

def afterOpen (s : Session) : Session :=
  { s with acc := s.acc.openParen, startNew := true, echoOpen := false,
           expression := (if s.echoOpen then s.expression.dropLast else s.expression) ++ ["("] }

theorem openParen_eq {s : Session} (hne : s.echoOpen = true → s.expression ≠ []) :
    openParen s = .ok s.afterOpen := by
  simp only [openParen, dropEcho_eq hne]
  rfl

def afterClose (s : Session) : Session :=
  { s with startNew := true, echoOpen := false, expression := s.expression ++ [")"] }

theorem closeParen_result {s : Session} (h : s.acc.depth ≠ 0) :
    (closeParen cfg s).result =
      match (commitTyped cfg s).result with
      | .error h => .error h
      | .ok t =>
        match t.acc.closeParen with
        | none => .ok t
        | some (inner, acc) => (commit cfg { t with acc } inner).result.map afterClose := by
  simp only [closeParen, h, if_false]
  simp
  cases (commitTyped cfg s).result with
  | error h => rfl
  | ok t =>
    simp only
    cases t.acc.closeParen with
    | none => rfl
    | some p =>
      obtain ⟨inner, acc⟩ := p
      simp only [Step.result_bind, Step.result_pure]
      cases (commit cfg { t with acc } inner).result <;> rfl

theorem route_elim (P : Key → Except Halt Session → Prop) {s : Session}
    (clear : P (.command .clear) (.ok (s.clear true)))
    (cancel : P (.command .cancel) (.ok (s.clear false)))
    (ignored : s.latched = true → ∀ k, P k (.ok s))
    (digit : s.latched = false → ∀ d, P (.digit d) (inputDigit s d))
    (operator : s.latched = false → ∀ op, P (.operator op) (inputOperator cfg s op).result)
    (openParen : s.latched = false → P (.command .openParen) (openParen s))
    (closeParen : s.latched = false → P (.command .closeParen) (closeParen cfg s).result)
    (backspace : s.latched = false → P (.command .backspace) (backspace s))
    (negate : s.latched = false → P (.command .negate) (negate cfg s))
    (memory : s.latched = false → ∀ c ∈ [Command.memoryClear, .memoryRecall, .memoryAdd,
      .memorySubtract, .memoryStore], P (.command c) (memory cfg s c).result)
    (k : Key) : P k (route cfg s k).result := by
  cases hl : s.latched
  · cases k with
    | digit d => simpa [route, hl] using digit hl d
    | operator op => simpa [route, hl] using operator hl op
    | command c =>
      cases c
      case clear => simpa [route] using clear
      case cancel => simpa [route] using cancel
      case openParen => simpa [route, hl] using openParen hl
      case closeParen => simpa [route, hl] using closeParen hl
      case backspace => simpa [route, hl] using backspace hl
      case negate => simpa [route, hl] using negate hl
      all_goals simpa [route, hl] using memory hl _ (by simp)
  · -- a latched error ignores every key but the two clears
    cases k with
    | digit d => simpa [route, hl] using ignored hl _
    | operator op => simpa [route, hl] using ignored hl _
    | command c =>
      cases c
      case clear => simpa [route] using clear
      case cancel => simpa [route] using cancel
      all_goals simpa [route, hl] using ignored hl _

theorem route_operator_of_unlatched {s : Session} (hl : s.latched = false) (op : Operator) :
    route cfg s (.operator op) = inputOperator cfg s op := by
  simp [route, hl]

theorem route_digit_of_unlatched {s : Session} (hl : s.latched = false) (d : Digit) :
    (route cfg s (.digit d)).result = inputDigit s d := by
  simp [route, hl]

theorem route_backspace_of_unlatched {s : Session} (hl : s.latched = false) :
    (route cfg s (.command .backspace)).result = backspace s := by
  simp [route, hl]

variable (cfg) in
theorem handle_of_quiet {s : Session} (hq : s.notice = none) (k : Key) :
    (s.handle cfg k).session = Halt.endOf (route cfg s k).result ∧
      (s.handle cfg k).fault = Halt.faultOf (route cfg s k).result := by
  have hs : ({ s with notice := none } : Session) = s := by
    cases s
    simp_all
  rw [handle_session, handle_fault, hs]
  exact ⟨rfl, rfl⟩

end Session

end PocketCalc
