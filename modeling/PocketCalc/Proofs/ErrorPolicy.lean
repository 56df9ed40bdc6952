import PocketCalc.Proofs.Guard
import PocketCalc.Proofs.Handlers
namespace PocketCalc

def Halt.refusalOf : Except Halt Session → Option Refusal
  | .error (.stop _ r) => some r
  | _ => none

theorem Outcome.refusal_ofStep (x : Step Session) :
    (Outcome.ofStep x).refusal = Halt.refusalOf x.result := by
  unfold Outcome.ofStep
  split <;> simp_all [Halt.refusalOf]

namespace Accumulator

theorem memory_of_commit {a b : Accumulator} {x : Float} (h : a.commit x = .ok b) :
    b.memory = a.memory := by
  obtain ⟨r, -, rfl⟩ := commit_eq_ok.1 h
  rfl

theorem commit_eq_error {a : Accumulator} {x : Float} {e : ArithError} :
    a.commit x = .error e ↔ a.pending.apply a.result x = .ok (a.result, some e) := by
  unfold commit
  rcases Operator.apply_cases a.pending a.result x with ⟨e', -, ha⟩ | ⟨-, v, -, ha⟩ <;> simp [ha]

theorem refuses_of_commit {a : Accumulator} {x : Float} {e : ArithError}
    (h : a.commit x = .error e) : a.pending.Refuses x e :=
  (Operator.apply_refused_iff _ _ _ _).1 (commit_eq_error.1 h)

end Accumulator

namespace Session

variable {cfg : Settings}

theorem handle_refusal (s : Session) (k : Key) :
    (s.handle cfg k).refusal = Halt.refusalOf (route cfg { s with notice := none } k).result := by
  simp [handle, Outcome.refusal_ofStep]

def Quiet (s : Session) : Prop := s.latched = false ∧ s.notice = none

def QuietEnd (r : Except Halt Session) : Prop := Halt.refusalOf r = none ∧ (Halt.endOf r).Quiet

def TypedIn (cfg : Settings) (s : Session) (h : History) : Prop :=
  s.startNew = false ∧ ∃ x acc, Number.read s.entry = .ok x ∧ s.acc.commit x = .ok acc ∧
    h = (committed cfg s x acc).history

structure RefusedAt (cfg : Settings) (s : Session) (k : Key) (u : Session) : Prop where
  commits : (∃ op, k = .operator op) ∨ k = .command .closeParen
  quiet : u.Quiet
  memory : u.acc.memory = s.acc.memory
  history : u.history = s.history ∨ k = .command .closeParen ∧ TypedIn cfg s u.history

def Settles (cfg : Settings) (s : Session) (k : Key) (r : Except Halt Session) : Prop :=
  QuietEnd r ∨ ∃ u ref, r = .error (.stop (failed cfg u ref.error) ref) ∧
    ref.operator.Refuses ref.operand ref.error ∧ RefusedAt cfg s k u

theorem quietEnd_ok {t : Session} (ht : t.Quiet) : QuietEnd (.ok t) := ⟨rfl, ht⟩

theorem quietEnd_fault {t : Session} (ht : t.Quiet) (f : Fault) : QuietEnd (.error (.fault t f)) :=
  ⟨rfl, ht⟩

theorem quietEnd_echo {t : Session} (ht : t.Quiet) : QuietEnd (echo t) := by
  unfold echo
  split
  · split
    · exact quietEnd_fault ht _
    · exact quietEnd_ok ht
  · exact quietEnd_ok ht

theorem quietEnd_dropEcho {t : Session} (ht : t.Quiet) : QuietEnd (dropEcho t) := by
  unfold dropEcho
  split
  · split
    · exact quietEnd_fault ht _
    · exact quietEnd_ok ht
  · exact quietEnd_ok ht

theorem quietEnd_lift_bind {x : Except Halt Session} {f : Session → Step Session}
    (hx : QuietEnd x) (hf : ∀ u, u.Quiet → QuietEnd (f u).result) :
    QuietEnd (Step.lift x >>= f).result := by
  cases x with
  | error h => exact hx
  | ok u => exact hf u hx.2

theorem Quiet.committed {s : Session} (hs : s.Quiet) (x : Float) (acc : Accumulator) :
    (committed cfg s x acc).Quiet := by
  unfold Session.committed
  cases cfg.historyStyle <;> exact hs

theorem Quiet.afterOperator {s : Session} (hs : s.Quiet) (op : Operator) :
    (afterOperator cfg s op).Quiet := by
  unfold Session.afterOperator
  split <;> exact hs

theorem failed_latched (u : Session) (e : ArithError) :
    (failed cfg u e).latched = true ↔ cfg.errorPolicy = .latch := by
  unfold failed
  cases cfg.errorPolicy <;> simp [clear]

theorem failed_notice {u : Session} (hu : u.Quiet) (e : ArithError) :
    (failed cfg u e).notice = match cfg.errorPolicy with
      | .latch => none
      | .dialog => some e := by
  unfold failed
  cases cfg.errorPolicy
  · exact hu.2
  · rfl

section Handlers

variable {s : Session} (hs : s.Quiet)
include hs

theorem quietEnd_inputDigit (d : Digit) : QuietEnd (inputDigit s d) := by
  unfold inputDigit
  split
  · exact quietEnd_echo hs
  · split
    · exact quietEnd_ok hs
    · exact quietEnd_echo hs

theorem quietEnd_openParen : QuietEnd (openParen s) := by
  unfold openParen
  have h := quietEnd_dropEcho hs
  cases hd : dropEcho s with
  | error e =>
    rw [hd] at h
    exact h
  | ok t =>
    rw [hd] at h
    exact quietEnd_ok h.2

theorem quietEnd_backspace : QuietEnd (backspace s) := by
  unfold backspace
  split
  · exact quietEnd_ok hs
  · dsimp only
    split
    · exact quietEnd_dropEcho hs
    · exact quietEnd_echo hs

theorem quietEnd_negate : QuietEnd (negate cfg s) := by
  unfold negate
  split
  · exact quietEnd_ok hs
  · cases hn : s.startNew
    · simp only [Bool.false_eq_true, if_false, pure_bind]
      exact quietEnd_echo hs
    · simp only [if_true]
      cases hr : Number.read s.entry with
      | error e =>
        simp only [entryValue_of_error hr, bind, Except.bind]
        exact quietEnd_fault hs _
      | ok x =>
        simp only [entryValue_of_ok hr, bind, Except.bind, pure, Except.pure]
        exact quietEnd_echo hs

theorem quietEnd_memory (c : Command) : QuietEnd (memory cfg s c).result := by
  unfold memory
  by_cases hc : c = .memoryRecall
  · simp only [hc, if_true]
    refine quietEnd_lift_bind ?_ fun u hu => ?_
    · exact quietEnd_echo hs
    · simp
      exact quietEnd_ok hu
  · simp only [hc, if_false]
    cases hr : Number.read s.entry with
    | error e =>
      simp only [entryValue_of_error hr, Step.lift_error_bind, Step.result_halt]
      exact quietEnd_fault hs _
    | ok v =>
      simp only [entryValue_of_ok hr, Step.lift_ok_bind]
      split <;>
      · refine quietEnd_lift_bind ?_ fun u hu => ?_
        · exact quietEnd_dropEcho hs
        · simp
          exact quietEnd_ok hu

theorem settles_typed {k : Key} (hk : (∃ op, k = .operator op) ∨ k = .command .closeParen)
    {x : Float} {e : ArithError} (hc : s.acc.commit x = .error e) :
    Settles cfg s k (.error (.stop (failed cfg s e) ⟨e, s.acc.pending, x⟩)) :=
  .inr ⟨s, ⟨e, s.acc.pending, x⟩, rfl, Accumulator.refuses_of_commit hc,
    ⟨hk, hs, rfl, .inl rfl⟩⟩

theorem settles_inputOperator (op : Operator) :
    Settles cfg s (.operator op) (inputOperator cfg s op).result := by
  rcases commitTyped_cases cfg s with
    ⟨-, h⟩ | ⟨-, e, -, h⟩ | ⟨-, x, acc, -, -, h⟩ | ⟨-, x, e, -, hc, h⟩ <;>
    simp only [inputOperator_result, h, Except.map]
  · exact .inl (quietEnd_ok (hs.afterOperator op))
  · exact .inl (quietEnd_fault hs _)
  · exact .inl (quietEnd_ok ((hs.committed x acc).afterOperator op))
  · exact settles_typed hs (.inl ⟨op, rfl⟩) hc

end Handlers

theorem settles_fold {s t : Session} (ht : t.Quiet) (acc : Accumulator) (inner : Float)
    (hm : acc.memory = s.acc.memory) (hh : t.history = s.history ∨ TypedIn cfg s t.history) :
    Settles cfg s (.command .closeParen)
      ((commit cfg { t with acc } inner).result.map afterClose) := by
  cases hc : acc.commit inner with
  | ok acc' =>
    rw [commit_of_ok hc]
    exact .inl (quietEnd_ok ((show Quiet { t with acc } from ht).committed inner acc'))
  | error e =>
    rw [commit_of_error hc]
    refine .inr ⟨{ t with acc }, ⟨e, acc.pending, inner⟩, rfl,
      Accumulator.refuses_of_commit hc, ⟨.inr rfl, ht, hm, ?_⟩⟩
    rcases hh with hh | hh
    · exact .inl hh
    · exact .inr ⟨rfl, hh⟩

theorem settles_close {s t : Session} (ht : t.Quiet) (hf : t.acc.frames ≠ [])
    (hm : t.acc.memory = s.acc.memory) (hh : t.history = s.history ∨ TypedIn cfg s t.history) :
    Settles cfg s (.command .closeParen) (match t.acc.closeParen with
      | none => .ok t
      | some (inner, acc) => (commit cfg { t with acc } inner).result.map afterClose) := by
  obtain ⟨f, rest, hfr⟩ := List.exists_cons_of_ne_nil hf
  simp only [Accumulator.closeParen, hfr]
  exact settles_fold ht _ _ hm hh

theorem settles_closeParen {s : Session} (hs : s.Quiet) :
    Settles cfg s (.command .closeParen) (closeParen cfg s).result := by
  by_cases hd : s.acc.depth = 0
  · have h : (closeParen cfg s).result = .ok s := by simp [closeParen, hd]
    rw [h]
    exact .inl (quietEnd_ok hs)
  · have hf : s.acc.frames ≠ [] := by simpa [Accumulator.depth] using hd
    rw [closeParen_result hd]
    rcases commitTyped_cases cfg s with
      ⟨-, h⟩ | ⟨-, e, -, h⟩ | ⟨hn, x, acc, hr, hc, h⟩ | ⟨-, x, e, -, hc, h⟩ <;>
      simp only [h]
    · exact settles_close hs hf rfl (.inl rfl)
    · exact .inl (quietEnd_fault hs _)
    · refine settles_close (hs.committed x acc)
        (by simpa [Accumulator.frames_of_commit hc] using hf)
        (by simpa using Accumulator.memory_of_commit hc) (.inr ⟨hn, x, acc, hr, hc, rfl⟩)
    · exact settles_typed hs (.inr rfl) hc

variable (cfg) in
theorem settles_route {s : Session} (hs : s.Quiet) (k : Key) :
    Settles cfg s k (route cfg s k).result := by
  refine route_elim (Settles cfg s) ?clear ?cancel ?ignored ?digit ?operator ?openParen
    ?closeParen ?backspace ?negate ?memory k
  case clear | cancel => exact .inl (quietEnd_ok ⟨rfl, rfl⟩)
  case ignored => exact fun hl => absurd hl (by simp [hs.1])
  case digit => exact fun _ d => .inl (quietEnd_inputDigit hs d)
  case operator => exact fun _ op => settles_inputOperator hs op
  case openParen => exact fun _ => .inl (quietEnd_openParen hs)
  case closeParen => exact fun _ => settles_closeParen hs
  case backspace => exact fun _ => .inl (quietEnd_backspace hs)
  case negate => exact fun _ => .inl (quietEnd_negate hs)
  case memory => exact fun _ c _ => .inl (quietEnd_memory hs c)

theorem route_of_latched {s : Session} (hl : s.latched = true) (k : Key) :
    (route cfg s k).result = .ok (if k = .command .clear then s.clear true
      else if k = .command .cancel then s.clear false else s) := by
  cases k with
  | digit d => simp [route, hl]
  | operator op => simp [route, hl]
  | command c => cases c <;> simp [route, hl]

theorem quiet_of_unlatched {s : Session} (hl : s.latched = false) :
    Quiet { s with notice := none } :=
  ⟨hl, rfl⟩

variable (cfg) in
theorem handle_of_latched {s : Session} (hl : s.latched = true) (k : Key) :
    (s.handle cfg k).session = (if k = .command .clear then s.clear true
      else if k = .command .cancel then s.clear false else { s with notice := none }) ∧
      (s.handle cfg k).refusal = none := by
  have hl' : ({ s with notice := none } : Session).latched = true := hl
  rw [handle_session, handle_refusal, route_of_latched hl']
  refine ⟨?_, rfl⟩
  by_cases hc : k = .command .clear
  · simp [hc, clear]
  · by_cases hx : k = .command .cancel
    · simp [hx, clear]
    · simp [hc, hx]

variable (cfg) in
theorem handle_latched (s : Session) (k : Key) :
    (s.handle cfg k).session.latched = true ↔
      (s.latched = true ∧ k ≠ .command .clear ∧ k ≠ .command .cancel) ∨
        (cfg.errorPolicy = .latch ∧
          ∃ r, (s.handle cfg k).refusal = some r ∧ r.operator.Refuses r.operand r.error) := by
  cases hl : s.latched
  · rw [handle_session, handle_refusal]
    rcases settles_route cfg (quiet_of_unlatched hl) k with
      ⟨hr, hq⟩ | ⟨u, ref, h, href, -⟩
    · simp [hr, hq.1]
    · rw [h]
      simp [Halt.refusalOf, failed_latched, href]
  · obtain ⟨hs, hr⟩ := handle_of_latched cfg hl k
    rw [hs, hr]
    by_cases hc : k = .command .clear
    · simp [hc, clear]
    · by_cases hx : k = .command .cancel
      · simp [hx, clear]
      · simp [hc, hx, hl]

theorem handle_notice (s : Session) (k : Key) :
    (s.handle cfg k).session.notice =
      if cfg.errorPolicy = .dialog then (s.handle cfg k).refusal.map Refusal.error else none := by
  cases hl : s.latched
  · rw [handle_session, handle_refusal]
    rcases settles_route cfg (quiet_of_unlatched hl) k with
      ⟨hr, hq⟩ | ⟨u, ref, h, -, hu⟩
    · rw [hr, hq.2]
      simp
    · rw [h]
      simp only [Halt.endOf, Halt.session, Halt.refusalOf, failed_notice hu.quiet]
      cases cfg.errorPolicy <;> rfl
  · obtain ⟨hs, hr⟩ := handle_of_latched cfg hl k
    rw [hs, hr]
    split <;> (try split) <;> simp [clear]

theorem clear_of_memory {u s : Session} (hm : u.acc.memory = s.acc.memory) :
    u.clear false = { s.clear false with history := u.history } := by
  cases u
  cases s
  simp_all [clear, Accumulator.reset]

def Reported (cfg : Settings) (s : Session) (k : Key) (r : Refusal) (t : Session) : Prop :=
  t = { s.clear false with notice := some r.error } ∨
    cfg.historyStyle = .step ∧ k = .command .closeParen ∧ s.startNew = false ∧
      ∃ x acc, Number.read s.entry = .ok x ∧ s.acc.commit x = .ok acc ∧
        t = { s.clear false with
          notice := some r.error
          history := s.history.add
            (format cfg x ++ " " ++ s.acc.pending.label ++ " = " ++ format cfg acc.result) }

theorem handle_refused (hp : cfg.errorPolicy = .dialog) {s : Session} {k : Key} {r : Refusal}
    (h : (s.handle cfg k).refusal = some r) :
    r.operator.Refuses r.operand r.error ∧
      ((∃ op, k = .operator op) ∨ k = .command .closeParen) ∧
      Reported cfg s k r (s.handle cfg k).session := by
  cases hl : s.latched
  · rw [handle_refusal] at h
    rw [handle_session]
    rcases settles_route cfg (quiet_of_unlatched hl) k with
      ⟨hr, -⟩ | ⟨u, ref, hu, href, hat⟩
    · simp [hr] at h
    · rw [hu] at h ⊢
      cases h
      have hreset : failed cfg u r.error =
          { s.clear false with notice := some r.error, history := u.history } := by
        simp only [failed, hp, clear_of_memory (s := s) hat.memory]
      refine ⟨href, hat.commits, ?_⟩
      simp only [Halt.endOf, Halt.session]
      rw [hreset]
      rcases hat.history with hh | ⟨hk, hn, x, acc, hx, hc, hh⟩
      · exact .inl (by rw [hh]; rfl)
      · cases hst : cfg.historyStyle
        · exact .inl (by rw [hh, committed_history_expression _ x acc hst]; rfl)
        · exact .inr ⟨hst, hk, hn, x, acc, hx, hc, by rw [hh, committed_history_step _ x acc hst]⟩
  · simp [(handle_of_latched cfg hl k).2] at h

theorem Reachable.notice_none (hp : cfg.errorPolicy = .latch) {s : Session} (h : Reachable cfg s) :
    s.notice = none := by
  induction h with
  | start => rfl
  | step k _ _ =>
    rw [handle_notice]
    simp [hp]

theorem Reachable.unlatched (hp : cfg.errorPolicy = .dialog) {s : Session} (h : Reachable cfg s) :
    s.latched = false := by
  induction h with
  | start => rfl
  | @step s k _ ih =>
    cases hl : (s.handle cfg k).session.latched
    · rfl
    · rcases (handle_latched cfg s k).1 hl with ⟨h, -⟩ | ⟨h, -⟩
      · simp [ih] at h
      · simp [hp] at h

theorem latch_policy (cfg : Settings) (hp : cfg.errorPolicy = .latch) :
    (∀ s : Session, Reachable cfg s → s.notice = none) ∧
    (∀ (s : Session) (k : Key), (s.handle cfg k).session.latched = true ↔
      (s.latched = true ∧ k ≠ .command .clear ∧ k ≠ .command .cancel) ∨
        ∃ r, (s.handle cfg k).refusal = some r ∧ r.operator.Refuses r.operand r.error) ∧
    (∀ s : Session, Reachable cfg s → s.latched = true →
      (∀ k, k ≠ .command .clear → k ≠ .command .cancel →
        (s.handle cfg k).session = s ∧
          ((s.handle cfg k).session.view cfg).displayText = cfg.errorText) ∧
      (s.handle cfg (.command .clear)).session.latched = false ∧
      (s.handle cfg (.command .cancel)).session.latched = false) := by
  refine ⟨fun s hs => hs.notice_none hp,
    fun s k => by simpa [hp] using handle_latched cfg s k, ?_⟩
  intro s hs hl
  -- a reachable session shows no notice, so clearing it first changes nothing
  have hn : ({ s with notice := none } : Session) = s := by
    rw [← hs.notice_none hp]
  refine ⟨fun k hc hx => ?_, ?_, ?_⟩
  · have hk : (s.handle cfg k).session = s := by
      rw [(handle_of_latched cfg hl k).1, if_neg hc, if_neg hx, hn]
    exact ⟨hk, by simp [hk, view, hl]⟩
  · simp [(handle_of_latched cfg hl _).1, clear]
  · simp [(handle_of_latched cfg hl _).1, clear]

theorem division_by_zero_latches :
    let s := ({} : Session).run {}
      [.digit (.numeral 1), .operator .divide, .digit (.numeral 0), .operator .equals]
    s.latched = true ∧ (s.handle {} (.digit (.numeral 5))).session = s := by
  intro s
  have hl : s.latched = true := by decide +kernel
  exact ⟨hl, (((latch_policy {} rfl).2.2 s (Reachable.start.run _) hl).1 _ (by decide)
    (by decide)).1⟩

theorem dialog_policy (cfg : Settings) (hp : cfg.errorPolicy = .dialog) :
    (∀ s : Session, Reachable cfg s → s.latched = false) ∧
    (∀ (s : Session) (k : Key) (r : Refusal), (s.handle cfg k).refusal = some r →
      r.operator.Refuses r.operand r.error ∧
        ((∃ op, k = .operator op) ∨ k = .command .closeParen) ∧
        Reported cfg s k r (s.handle cfg k).session) ∧
    (∀ (s : Session) (k : Key), (s.handle cfg k).refusal = none →
      (s.handle cfg k).session.notice = none) := by
  refine ⟨fun s hs => hs.unlatched hp, fun s k r h => handle_refused hp h, fun s k h => ?_⟩
  rw [handle_notice, h]
  simp

theorem refused_root_reported_once :
    let cfg : Settings := { errorPolicy := .dialog }
    let s := ({} : Session).run cfg [.operator .sqrt, .digit (.numeral 4), .command .negate]
    let t := (s.handle cfg (.operator .equals)).session
    (∃ r, (s.handle cfg (.operator .equals)).refusal = some r ∧ r.error = .invalidSquareRoot ∧
      Reported cfg s (.operator .equals) r t) ∧
      (t.handle cfg (.digit (.numeral 3))).session.notice = none := by
  intro cfg s t
  obtain ⟨r, hr⟩ := Option.isSome_iff_exists.1
    (show (s.handle cfg (.operator .equals)).refusal.isSome = true by decide +kernel)
  have he : r.error = .invalidSquareRoot := by
    have h : (s.handle cfg (.operator .equals)).refusal.map Refusal.error =
        some .invalidSquareRoot := by decide +kernel
    simpa [hr] using h
  refine ⟨⟨r, hr, he, ((dialog_policy cfg rfl).2.1 s _ r hr).2.2⟩,
    (dialog_policy cfg rfl).2.2 t _ (Option.isNone_iff_eq_none.1 ?_)⟩
  decide +kernel

end Session

end PocketCalc
