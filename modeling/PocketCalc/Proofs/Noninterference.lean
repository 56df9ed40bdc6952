import Mathlib.Tactic.SplitIfs
import PocketCalc.Proofs.Handlers
namespace PocketCalc

structure Settings.SameArithmetic (c d : Settings) : Prop where
  policy : c.errorPolicy = d.errorPolicy
  places : c.fractionDigits = d.fractionDigits

namespace Session

def calculation (s : Session) : Session := { s with history := {} }

end Session

def Halt.calculation : Halt → Halt
  | .stop s r => .stop s.calculation r
  | .fault s f => .fault s.calculation f

def Halt.calculationOf : Except Halt Session → Except Halt Session
  | .ok s => .ok s.calculation
  | .error h => .error h.calculation

namespace Session

open Halt (calculationOf)

variable {c d : Settings}

theorem calculation_eq_iff {s t : Session} :
    s.calculation = t.calculation ↔ s.entry = t.entry ∧ s.startNew = t.startNew ∧
      s.latched = t.latched ∧ s.notice = t.notice ∧ s.expression = t.expression ∧
      s.echoOpen = t.echoOpen ∧ s.acc = t.acc := by
  cases s
  cases t
  simp [calculation]

theorem exists_history_of_calculation {s t : Session} (h : s.calculation = t.calculation) :
    ∃ hist, t = { s with history := hist } := by
  obtain ⟨he, hn, hl, hno, hx, ho, ha⟩ := calculation_eq_iff.1 h
  exact ⟨t.history, by cases t; simp_all⟩

section History

variable (s : Session) (hist : History)

-- The handlers test the entry inside decidability instances, where `dsimp` does not reach;
-- these let `rw` put both runs' conditions in one form.

theorem entry_history : ({ s with history := hist } : Session).entry = s.entry := rfl

theorem unsigned_history : ({ s with history := hist } : Session).unsigned = s.unsigned := rfl

theorem entryIsNumber_history :
    ({ s with history := hist } : Session).entryIsNumber = s.entryIsNumber := rfl

end History

theorem format_congr (hc : c.SameArithmetic d) : format d = format c := by
  unfold format
  rw [hc.places]

theorem formatPlain_congr (hc : c.SameArithmetic d) : formatPlain d = formatPlain c := by
  unfold formatPlain
  rw [hc.places]

theorem calculationOf_map {r₁ r₂ : Except Halt Session} {f g : Session → Session}
    (hr : calculationOf r₁ = calculationOf r₂)
    (hfg : ∀ u hist, (f u).calculation = (g { u with history := hist }).calculation) :
    calculationOf (r₁.map f) = calculationOf (r₂.map g) := by
  cases r₁ <;> cases r₂ <;> simp only [calculationOf, Except.map, Except.ok.injEq,
    Except.error.injEq, reduceCtorEq] at hr ⊢
  · exact hr
  · obtain ⟨hist, rfl⟩ := exists_history_of_calculation hr
    exact hfg _ hist

theorem calculationOf_bind {x₁ x₂ : Step Session} {f g : Session → Step Session}
    (hx : calculationOf x₁.result = calculationOf x₂.result)
    (hfg : ∀ u hist,
      calculationOf (f u).result = calculationOf (g { u with history := hist }).result) :
    calculationOf (x₁ >>= f).result = calculationOf (x₂ >>= g).result := by
  rw [Step.result_bind, Step.result_bind]
  cases h₁ : x₁.result <;> cases h₂ : x₂.result <;> rw [h₁, h₂] at hx <;>
    simp only [calculationOf, Except.ok.injEq, Except.error.injEq, reduceCtorEq] at hx
  · simpa [calculationOf] using hx
  · obtain ⟨hist, rfl⟩ := exists_history_of_calculation hx
    exact hfg _ hist

section Handlers

variable (s : Session) (hist : History)

theorem calculationOf_echo :
    calculationOf (echo s) = calculationOf (echo { s with history := hist }) := by
  unfold echo
  dsimp only
  split_ifs <;> rfl

theorem calculationOf_dropEcho :
    calculationOf (dropEcho s) = calculationOf (dropEcho { s with history := hist }) := by
  unfold dropEcho
  dsimp only
  split_ifs <;> rfl

theorem calculationOf_inputDigit (dg : Digit) :
    calculationOf (inputDigit s dg) = calculationOf (inputDigit { s with history := hist } dg) := by
  unfold inputDigit
  rw [entryIsNumber_history s hist]
  dsimp only
  split_ifs
  · exact calculationOf_echo _ hist
  · exact calculationOf_echo _ hist
  · rfl
  · exact calculationOf_echo _ hist

theorem calculationOf_openParen :
    calculationOf (openParen s) = calculationOf (openParen { s with history := hist }) := by
  unfold openParen dropEcho
  dsimp only
  split_ifs <;> rfl

theorem calculationOf_backspace :
    calculationOf (backspace s) = calculationOf (backspace { s with history := hist }) := by
  unfold backspace
  rw [entry_history s hist]
  dsimp only
  split_ifs
  · rfl
  · exact calculationOf_dropEcho _ hist
  · exact calculationOf_echo _ hist

theorem calculationOf_negate (hc : c.SameArithmetic d) :
    calculationOf (negate c s) = calculationOf (negate d { s with history := hist }) := by
  unfold negate
  rw [formatPlain_congr hc, unsigned_history s hist, entry_history s hist]
  dsimp only
  split_ifs
  · rfl
  · simp only [entryValue]
    cases Number.read s.entry
    · rfl
    · exact calculationOf_echo _ hist
  · exact calculationOf_echo _ hist

theorem calculation_failed (hc : c.SameArithmetic d) (e : ArithError) :
    (failed c s e).calculation = (failed d { s with history := hist } e).calculation := by
  unfold failed
  rw [hc.policy]
  cases d.errorPolicy <;> rfl

theorem calculation_committed (hc : c.SameArithmetic d) (x : Float) (acc : Accumulator) :
    (committed c s x acc).calculation =
      (committed d { s with history := hist } x acc).calculation := by
  unfold committed
  rw [format_congr hc]
  cases c.historyStyle <;> cases d.historyStyle <;> rfl

theorem calculationOf_commit (hc : c.SameArithmetic d) (x : Float) :
    calculationOf (commit c s x).result =
      calculationOf (commit d { s with history := hist } x).result := by
  cases hx : s.acc.commit x with
  | ok acc =>
    rw [commit_of_ok hx, commit_of_ok (s := { s with history := hist }) hx]
    exact congrArg Except.ok (calculation_committed s hist hc x acc)
  | error e =>
    rw [commit_of_error hx, commit_of_error (s := { s with history := hist }) hx]
    exact congrArg (fun u => Except.error (Halt.stop u ⟨e, s.acc.pending, x⟩))
      (calculation_failed s hist hc e)

end Handlers

theorem commitTyped_result (cfg : Settings) (s : Session) :
    (commitTyped cfg s).result = if s.startNew then .ok s else
      match Number.read s.entry with
      | .ok x => (commit cfg s x).result
      | .error e => .error (.fault s (.unreadable e)) := by
  unfold commitTyped
  cases s.startNew
  · cases hr : Number.read s.entry <;> simp [entryValue, hr]
  · rfl

theorem calculationOf_commitTyped (hc : c.SameArithmetic d) (s : Session) (hist : History) :
    calculationOf (commitTyped c s).result =
      calculationOf (commitTyped d { s with history := hist }).result := by
  rw [commitTyped_result, commitTyped_result]
  dsimp only
  split_ifs
  · rfl
  · cases Number.read s.entry
    · rfl
    · exact calculationOf_commit s hist hc _

theorem calculation_afterOperator (hc : c.SameArithmetic d) (s : Session) (hist : History)
    (op : Operator) :
    (afterOperator c s op).calculation =
      (afterOperator d { s with history := hist } op).calculation := by
  unfold afterOperator
  rw [format_congr hc]
  split <;> rfl

theorem calculationOf_inputOperator (hc : c.SameArithmetic d) (s : Session) (hist : History)
    (op : Operator) :
    calculationOf (inputOperator c s op).result =
      calculationOf (inputOperator d { s with history := hist } op).result := by
  rw [inputOperator_result, inputOperator_result]
  exact calculationOf_map (calculationOf_commitTyped hc s hist) fun u hist' =>
    calculation_afterOperator hc u hist' op

theorem calculationOf_closeParen (hc : c.SameArithmetic d) (s : Session) (hist : History) :
    calculationOf (closeParen c s).result =
      calculationOf (closeParen d { s with history := hist }).result := by
  unfold closeParen
  dsimp only
  split
  · rfl
  · refine calculationOf_bind (calculationOf_commitTyped hc s hist) fun u hist' => ?_
    dsimp only
    split
    · rfl
    · refine calculationOf_bind (calculationOf_commit _ hist' hc _) fun v hist'' => rfl

theorem calculationOf_memory (hc : c.SameArithmetic d) (s : Session) (hist : History)
    (cmd : Command) :
    calculationOf (memory c s cmd).result =
      calculationOf (memory d { s with history := hist } cmd).result := by
  unfold memory
  rw [formatPlain_congr hc, format_congr hc]
  split
  · exact calculationOf_bind (calculationOf_echo _ hist) fun u hist' => rfl
  · simp only [entryValue]
    cases Number.read s.entry
    · rfl
    · cases cmd <;> exact calculationOf_bind (calculationOf_dropEcho _ hist) fun u hist' => rfl

theorem calculationOf_route (hc : c.SameArithmetic d) (s : Session) (hist : History) (k : Key) :
    calculationOf (route c s k).result =
      calculationOf (route d { s with history := hist } k).result := by
  unfold route
  split
  · rfl
  · rfl
  · dsimp only
    split
    · rfl
    · split
      · exact calculationOf_inputDigit s hist _
      · exact calculationOf_inputOperator hc s hist _
      · exact calculationOf_openParen s hist
      · exact calculationOf_closeParen hc s hist
      · exact calculationOf_backspace s hist
      · exact calculationOf_negate s hist hc
      · exact calculationOf_memory hc s hist _

theorem endOf_calculationOf (r : Except Halt Session) :
    Halt.endOf (calculationOf r) = (Halt.endOf r).calculation := by
  rcases r with (⟨t, _⟩ | ⟨t, _⟩) | t <;> rfl

theorem faultOf_calculationOf (r : Except Halt Session) :
    Halt.faultOf (calculationOf r) = Halt.faultOf r := by
  rcases r with (⟨t, _⟩ | ⟨t, _⟩) | t <;> rfl

theorem handle_calculation (hc : c.SameArithmetic d) {s t : Session}
    (h : s.calculation = t.calculation) (k : Key) :
    (s.handle c k).session.calculation = (t.handle d k).session.calculation ∧
      (s.handle c k).fault = (t.handle d k).fault := by
  obtain ⟨hist, rfl⟩ := exists_history_of_calculation h
  have hr := calculationOf_route hc { s with notice := none } hist k
  rw [handle_session, handle_session, handle_fault, handle_fault]
  constructor
  · rw [← endOf_calculationOf, ← endOf_calculationOf]
    exact congrArg Halt.endOf hr
  · rw [← faultOf_calculationOf, ← faultOf_calculationOf (route d _ k).result]
    exact congrArg Halt.faultOf hr

theorem run_calculation (hc : c.SameArithmetic d) {s t : Session}
    (h : s.calculation = t.calculation) (keys : List Key) :
    (s.run c keys).calculation = (t.run d keys).calculation := by
  induction keys generalizing s t with
  | nil => exact h
  | cons k keys ih => exact ih (handle_calculation hc h k).1

theorem history_settings_do_not_interfere (c d : Settings) (hp : c.errorPolicy = d.errorPolicy)
    (hf : c.fractionDigits = d.fractionDigits) (keys : List Key) (k : Key) :
    let s := ({} : Session).run c keys
    let t := ({} : Session).run d keys
    (s.handle c k).fault = (t.handle d k).fault ∧
      s.entry = t.entry ∧ s.startNew = t.startNew ∧ s.latched = t.latched ∧
      s.notice = t.notice ∧ s.expression = t.expression ∧ s.echoOpen = t.echoOpen ∧
      s.acc = t.acc ∧
      (s.view c).errorActive = (t.view d).errorActive ∧ (s.view c).notice = (t.view d).notice ∧
      (s.view c).expression = (t.view d).expression ∧
      (s.latched = false → (s.view c).displayText = (t.view d).displayText) := by
  intro s t
  have hc : c.SameArithmetic d := ⟨hp, hf⟩
  have h : s.calculation = t.calculation := run_calculation hc rfl keys
  obtain ⟨he, hn, hl, hno, hx, ho, ha⟩ := calculation_eq_iff.1 h
  refine ⟨(handle_calculation hc h k).2, he, hn, hl, hno, hx, ho, ha, hl, ?_, ?_, fun hs => ?_⟩
  · simp only [view, hno]
  · simp only [view, hx]
  · simp only [view, ← hl, hs, Bool.false_eq_true, if_false, he]

theorem step_history_keeps_calculation :
    let d : Settings := { historyStyle := .step, historyLines := 1, errorText := "E" }
    let keys : List Key := [.digit (.numeral 2), .operator .add, .digit (.numeral 3)]
    let s := ({} : Session).run {} keys
    let t := ({} : Session).run d keys
    ({} : Settings).errorPolicy = d.errorPolicy ∧
      ({} : Settings).fractionDigits = d.fractionDigits ∧
      (s.handle {} (.operator .equals)).fault = (t.handle d (.operator .equals)).fault ∧
      s.entry = t.entry ∧ s.acc = t.acc := by
  intro d keys s t
  have h := history_settings_do_not_interfere {} d rfl rfl keys (.operator .equals)
  exact ⟨rfl, rfl, h.1, h.2.1, h.2.2.2.2.2.2.2.1⟩

end Session

end PocketCalc
