import PocketCalc.Proofs.Handlers
namespace PocketCalc.Session

variable {cfg : Settings}

def Echoes (s : Session) : Prop :=
  (s.echoOpen = true ↔ s.startNew = false) ∧
    (s.echoOpen = true → s.expression.getLast? = some s.entry)

def EchoInv (s : Session) : Prop := s.latched = false → s.Echoes

def FaultsOnRead (s : Session) (r : Except Halt Session) : Prop :=
  ∀ t f, r = .error (.fault t f) → t = s ∧ ∃ e, f = .unreadable e ∧ Number.read s.entry = .error e

def Keeps (s : Session) (r : Except Halt Session) : Prop :=
  (Halt.endOf r).EchoInv ∧ FaultsOnRead s r

theorem Echoes.nonempty {s : Session} (h : s.Echoes) (ho : s.echoOpen = true) :
    s.expression ≠ [] := by
  intro he
  simpa [he] using h.2 ho

theorem Echoes.open_of_typing {s : Session} (h : s.Echoes) (hn : s.startNew = false) :
    s.echoOpen = true := h.1.2 hn

theorem Echoes.closed_of_new {s : Session} (h : s.Echoes) (hn : s.startNew = true) :
    s.echoOpen = false := by
  cases ho : s.echoOpen
  · rfl
  · simpa [hn] using h.1.1 ho

theorem echoInv_failed (s : Session) (e : ArithError) : (failed cfg s e).EchoInv := by
  unfold failed
  cases cfg.errorPolicy <;> simp [EchoInv, Echoes, clear]

theorem echoes_afterOperator (s : Session) (op : Operator) : (afterOperator cfg s op).Echoes := by
  unfold afterOperator
  split <;> simp [Echoes]

theorem echoes_afterClose (s : Session) : s.afterClose.Echoes := by
  simp [afterClose, Echoes]

theorem keeps_ok {s t : Session} (h : t.Echoes) : Keeps s (.ok t) :=
  ⟨fun _ => h, by simp [FaultsOnRead]⟩

theorem keeps_self {s : Session} (hs : s.Echoes) : Keeps s (.ok s) := keeps_ok hs

theorem keeps_unreadable {s : Session} (hs : s.Echoes) {e : Number.ReadError}
    (hr : Number.read s.entry = .error e) : Keeps s (.error (.fault s (.unreadable e))) :=
  ⟨fun _ => hs, by simp [FaultsOnRead, hr]⟩

theorem keeps_failed {s : Session} (t : Session) (e : ArithError) (r : Refusal) :
    Keeps s (.error (.stop (failed cfg t e) r)) :=
  ⟨echoInv_failed t e, by simp [FaultsOnRead]⟩

section Handlers

variable {s : Session} (hs : s.Echoes)
include hs

theorem inputDigit_keeps (d : Digit) : Keeps s (inputDigit s d) := by
  unfold inputDigit
  split
  · rw [echo_eq (by simpa using hs.nonempty)]
    exact keeps_ok (by simp [Echoes])
  · split
    · exact keeps_self hs
    · have hn : s.startNew = false := by simp_all
      rw [echo_eq (by simpa using fun _ => hs.nonempty (hs.open_of_typing hn))]
      exact keeps_ok (by simp [Echoes, hn])

theorem openParen_keeps : Keeps s (openParen s) := by
  unfold openParen
  rw [dropEcho_eq hs.nonempty]
  exact keeps_ok (by simp [Echoes])

theorem backspace_keeps : Keeps s (backspace s) := by
  unfold backspace
  split
  · exact keeps_self hs
  · have hn : s.startNew = false := by simp_all
    have ho := hs.open_of_typing hn
    dsimp only
    split
    · rw [dropEcho_eq (by simpa using fun _ => hs.nonempty ho)]
      exact keeps_ok (by simp [Echoes])
    · rw [echo_eq (by simpa using fun _ => hs.nonempty ho)]
      exact keeps_ok (by simp [Echoes, hn])

theorem negate_keeps : Keeps s (negate cfg s) := by
  unfold negate
  split
  · exact keeps_self hs
  · cases hn : s.startNew
    · have ho := hs.open_of_typing hn
      simp only [Bool.false_eq_true, if_false, pure_bind]
      rw [echo_eq (by simpa using fun _ => hs.nonempty ho)]
      exact keeps_ok (by simp [Echoes, hn])
    · have hc := hs.closed_of_new hn
      simp only [if_true]
      cases hr : Number.read s.entry with
      | error e =>
        simp only [entryValue_of_error hr, bind, Except.bind]
        exact keeps_unreadable hs hr
      | ok x =>
        simp only [entryValue_of_ok hr, bind, Except.bind, pure, Except.pure]
        rw [echo_eq (by simp [hc])]
        exact keeps_ok (by simp [Echoes])

theorem memory_keeps (c : Command) : Keeps s (memory cfg s c).result := by
  unfold memory
  by_cases hc : c = .memoryRecall
  · simp only [hc, if_true]
    rw [echo_eq (by simpa using hs.nonempty)]
    exact keeps_ok (by simp [Echoes])
  · simp only [hc, if_false]
    cases hr : Number.read s.entry with
    | error e =>
      simp only [entryValue_of_error hr, Step.lift_error_bind, Step.result_halt]
      exact keeps_unreadable hs hr
    | ok v =>
      simp only [entryValue_of_ok hr, Step.lift_ok_bind]
      rw [dropEcho_eq (by simpa using hs.nonempty)]
      simpa using (keeps_ok (by simp [Echoes]) : Keeps s _)

theorem inputOperator_keeps (op : Operator) : Keeps s (inputOperator cfg s op).result := by
  rcases commitTyped_cases cfg s with
    ⟨-, h⟩ | ⟨-, e, hr, h⟩ | ⟨-, x, acc, -, -, h⟩ | ⟨-, x, e, -, -, h⟩ <;>
    simp only [inputOperator_result, h, Except.map]
  · exact keeps_ok (echoes_afterOperator s op)
  · exact keeps_unreadable hs hr
  · exact keeps_ok (echoes_afterOperator _ op)
  · exact keeps_failed s e _

end Handlers

theorem fold_keeps (s u : Session) (x : Float) :
    Keeps s ((commit cfg u x).result.map afterClose) := by
  cases hc : u.acc.commit x with
  | ok acc =>
    rw [commit_of_ok hc]
    exact keeps_ok (echoes_afterClose _)
  | error e =>
    rw [commit_of_error hc]
    exact keeps_failed _ e _

theorem close_keeps (s t : Session) (ht : t.acc.frames ≠ []) :
    Keeps s (match t.acc.closeParen with
      | none => .ok t
      | some (inner, acc) => (commit cfg { t with acc } inner).result.map afterClose) := by
  obtain ⟨f, rest, hf⟩ := List.exists_cons_of_ne_nil ht
  simp only [Accumulator.closeParen, hf]
  exact fold_keeps s _ _

theorem closeParen_keeps {s : Session} (hs : s.Echoes) : Keeps s (closeParen cfg s).result := by
  by_cases hd : s.acc.depth = 0
  · have h : (closeParen cfg s).result = .ok s := by simp [closeParen, hd]
    rw [h]
    exact keeps_self hs
  · have hf : s.acc.frames ≠ [] := by simpa [Accumulator.depth] using hd
    rw [closeParen_result hd]
    rcases commitTyped_cases cfg s with
      ⟨-, h⟩ | ⟨-, e, hr, h⟩ | ⟨-, x, acc, -, hc, h⟩ | ⟨-, x, e, -, -, h⟩ <;> simp only [h]
    · exact close_keeps s s hf
    · exact keeps_unreadable hs hr
    · exact close_keeps s _ (by simpa [Accumulator.frames_of_commit hc] using hf)
    · exact keeps_failed s e _

theorem route_keeps {s : Session} (hs : s.EchoInv) (k : Key) : Keeps s (route cfg s k).result := by
  refine route_elim (fun _ r => Keeps s r) ?clear ?cancel ?ignored ?digit ?operator ?openParen
    ?closeParen ?backspace ?negate ?memory k
  case clear | cancel => exact keeps_ok (by simp [Echoes, clear])
  case ignored => exact fun _ _ => ⟨hs, by simp [FaultsOnRead]⟩
  case digit => exact fun hl d => inputDigit_keeps (hs hl) d
  case operator => exact fun hl op => inputOperator_keeps (hs hl) op
  case openParen => exact fun hl => openParen_keeps (hs hl)
  case closeParen => exact fun hl => closeParen_keeps (hs hl)
  case backspace => exact fun hl => backspace_keeps (hs hl)
  case negate => exact fun hl => negate_keeps (hs hl)
  case memory => exact fun hl c _ => memory_keeps (hs hl) c

theorem handle_keeps {s : Session} (hs : s.EchoInv) (k : Key) :
    (s.handle cfg k).session.EchoInv ∧ ∀ f, (s.handle cfg k).fault = some f → ∃ e, f = .unreadable e := by
  obtain ⟨hend, hread⟩ : Keeps { s with notice := none } (route cfg { s with notice := none } k).result :=
    route_keeps (show ({ s with notice := none } : Session).EchoInv from hs) k
  refine ⟨by simpa [handle_session] using hend, fun f hf => ?_⟩
  rw [handle_fault] at hf
  revert hf
  cases h : (route cfg { s with notice := none } k).result with
  | ok t => simp [Halt.faultOf]
  | error e =>
    cases e with
    | stop t r => simp [Halt.faultOf]
    | fault t f' =>
      obtain ⟨-, e, rfl, -⟩ := hread t f' h
      simp only [Halt.faultOf, Option.some.injEq]
      exact fun hf => ⟨e, hf.symm⟩

theorem Reachable.echoInv {s : Session} (h : Reachable cfg s) : s.EchoInv := by
  induction h with
  | start => simp [EchoInv, Echoes]
  | step k _ ih => exact (handle_keeps ih k).1

theorem echo_follows_entry (cfg : Settings) (keys : List Key) :
    let s := ({} : Session).run cfg keys
    (s.latched = false →
      (s.echoOpen = true ↔ s.startNew = false) ∧
        (s.echoOpen = true → s.expression.getLast? = some s.entry)) ∧
      ∀ k, (s.handle cfg k).fault ≠ some .echoMissing ∧ (s.handle cfg k).fault ≠ some .dropMissing := by
  intro s
  have inv : s.EchoInv := (Reachable.start.run keys).echoInv
  refine ⟨inv, fun k => ⟨fun hf => ?_, fun hf => ?_⟩⟩
  · obtain ⟨e, he⟩ := (handle_keeps inv k).2 _ hf
    cases he
  · obtain ⟨e, he⟩ := (handle_keeps inv k).2 _ hf
    cases he

end PocketCalc.Session
