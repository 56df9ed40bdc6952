import PocketCalc.Proofs.Clearing
import PocketCalc.Proofs.ErrorPolicy
namespace PocketCalc

namespace History

theorem recent_suffix (h : History) (count : Int) :
    ∃ older, h.lines = older ++ h.recent count ∧
      (h.recent count).length = min count.toNat h.size := by
  unfold recent
  split
  · exact ⟨h.lines, by simp, by simp [Int.toNat_of_nonpos ‹count ≤ 0›]⟩
  · refine ⟨h.lines.take (h.lines.length - count.toNat), (List.take_append_drop _ _).symm, ?_⟩
    simp only [List.length_drop, size]
    omega

end History

namespace Accumulator

def writeMemory (a : Accumulator) (v : Float) : Command → Accumulator
  | .memoryClear => a.memoryClear
  | .memoryAdd => a.memoryAdd v
  | .memorySubtract => a.memorySubtract v
  | _ => a.memoryStore v

end Accumulator

namespace Session

def memoryWrites : List Key :=
  [.command .memoryClear, .command .memoryAdd, .command .memorySubtract, .command .memoryStore]

theorem exists_command_of_mem_memoryWrites {k : Key} (hk : k ∈ memoryWrites) :
    ∃ c, k = .command c := by
  simp only [memoryWrites, List.mem_cons, List.not_mem_nil, or_false] at hk
  rcases hk with rfl | rfl | rfl | rfl <;> exact ⟨_, rfl⟩

theorem ne_memoryRecall_of_mem {c : Command} (hk : Key.command c ∈ memoryWrites) :
    c ≠ .memoryRecall := by
  rintro rfl
  simp [memoryWrites] at hk

def commitLines (cfg : Settings) : Nat := if cfg.historyStyle = .step then 1 else 0

theorem commitLines_of_expression {cfg : Settings} (h : cfg.historyStyle = .expression) :
    commitLines cfg = 0 := by
  simp [commitLines, h]

theorem commitLines_of_step {cfg : Settings} (h : cfg.historyStyle = .step) :
    commitLines cfg = 1 := by
  simp [commitLines, h]

def lineBound (cfg : Settings) (k : Key) : Nat :=
  if cfg.historyStyle = .step ∧ k = .command .closeParen then 2 else 1

def Appends (n : Nat) (s t : Session) : Prop :=
  ∃ added, t.history.lines = s.history.lines ++ added ∧ added.length ≤ n

structure Extends (n : Nat) (s t : Session) : Prop where
  memory : t.acc.memory = s.acc.memory
  appends : Appends n s t

variable {cfg : Settings} {m n : Nat} {s t u : Session}

theorem Appends.of_eq (h : t.history = s.history) : Appends n s t := ⟨[], by simp [h], by simp⟩

theorem Appends.trans (h₁ : Appends m s t) (h₂ : Appends n t u) : Appends (m + n) s u := by
  obtain ⟨a, ha, hal⟩ := h₁
  obtain ⟨b, hb, hbl⟩ := h₂
  refine ⟨a ++ b, by rw [hb, ha, List.append_assoc], ?_⟩
  simp only [List.length_append]
  omega

theorem Appends.mono (hmn : m ≤ n) (h : Appends m s t) : Appends n s t := by
  obtain ⟨a, ha, hal⟩ := h
  exact ⟨a, ha, by omega⟩

theorem Appends.length_le (h : Appends n s t) {added : List String}
    (ha : t.history.lines = s.history.lines ++ added) : added.length ≤ n := by
  obtain ⟨b, hb, hbl⟩ := h
  rw [ha] at hb
  rw [List.append_cancel_left hb]
  exact hbl

theorem Appends.add (h : Appends n s t) (hu : ∃ line, u.history = t.history.add line) :
    Appends (n + 1) s u := by
  obtain ⟨a, ha, hal⟩ := h
  obtain ⟨line, hu⟩ := hu
  refine ⟨a ++ [line], by simp [hu, ha], ?_⟩
  simp only [List.length_append, List.length_singleton]
  omega

theorem Extends.of_eq (hm : t.acc.memory = s.acc.memory) (hh : t.history = s.history) :
    Extends n s t :=
  ⟨hm, .of_eq hh⟩

theorem Extends.trans (h₁ : Extends m s t) (h₂ : Extends n t u) : Extends (m + n) s u :=
  ⟨h₂.memory.trans h₁.memory, h₁.appends.trans h₂.appends⟩

theorem Extends.mono (hmn : m ≤ n) (h : Extends m s t) : Extends n s t :=
  ⟨h.memory, h.appends.mono hmn⟩

theorem Extends.of_records (h : Extends n s t) (hm : u.acc.memory = t.acc.memory)
    (hh : u.history = t.history) : Extends n s u :=
  ⟨hm.trans h.memory, by simpa only [Appends, hh] using h.appends⟩

theorem Extends.of_start (h : Extends n t u) (hm : t.acc.memory = s.acc.memory)
    (hh : t.history = s.history) : Extends n s u :=
  ⟨h.memory.trans hm, by simpa only [Appends, hh] using h.appends⟩

theorem Extends.afterClose (h : Extends n s t) : Extends n s t.afterClose := h.of_records rfl rfl

theorem extends_echo (h : Extends n s t) : Extends n s (Halt.endOf (echo t)) := by
  unfold echo
  split
  · split <;> exact h.of_records rfl rfl
  · exact h.of_records rfl rfl

theorem extends_dropEcho (h : Extends n s t) : Extends n s (Halt.endOf (dropEcho t)) := by
  unfold dropEcho
  split
  · split <;> exact h.of_records rfl rfl
  · exact h.of_records rfl rfl

theorem extends_failed (s : Session) (e : ArithError) : Extends 0 s (failed cfg s e) := by
  unfold failed
  cases cfg.errorPolicy
  · exact .of_eq rfl rfl
  · exact .of_eq (Accumulator.memory_reset s.acc) rfl

theorem extends_committed {x : Float} {acc : Accumulator} (hc : s.acc.commit x = .ok acc) :
    Extends (commitLines cfg) s (committed cfg s x acc) := by
  refine ⟨by simpa using Accumulator.memory_of_commit hc, ?_⟩
  cases hst : cfg.historyStyle
  · rw [commitLines_of_expression hst]
    exact .of_eq (committed_history_expression s x acc hst)
  · rw [commitLines_of_step hst]
    exact (Appends.of_eq rfl : Appends 0 s s).add ⟨_, committed_history_step s x acc hst⟩

theorem extends_commitTyped (s : Session) :
    Extends (commitLines cfg) s (Halt.endOf (commitTyped cfg s).result) := by
  rcases commitTyped_cases cfg s with
    ⟨-, h⟩ | ⟨-, e, -, h⟩ | ⟨-, x, acc, -, hc, h⟩ | ⟨-, x, e, -, hc, h⟩ <;> rw [h]
  · exact .of_eq rfl rfl
  · exact .of_eq rfl rfl
  · exact extends_committed hc
  · exact (extends_failed s e).mono (Nat.zero_le _)

theorem inputDigit_extends (s : Session) (d : Digit) :
    Extends 0 s (Halt.endOf (inputDigit s d)) := by
  unfold inputDigit
  split
  · exact extends_echo (.of_eq rfl rfl)
  · split
    · exact .of_eq rfl rfl
    · exact extends_echo (.of_eq rfl rfl)

theorem openParen_extends (s : Session) : Extends 0 s (Halt.endOf (openParen s)) := by
  unfold openParen
  have h := extends_dropEcho (.of_eq rfl rfl : Extends 0 s s)
  cases hd : dropEcho s with
  | error e =>
    rw [hd] at h
    exact h
  | ok u =>
    rw [hd] at h
    exact h.of_records rfl rfl

theorem backspace_extends (s : Session) : Extends 0 s (Halt.endOf (backspace s)) := by
  unfold backspace
  split
  · exact .of_eq rfl rfl
  · dsimp only
    split
    · exact extends_dropEcho (.of_eq rfl rfl)
    · exact extends_echo (.of_eq rfl rfl)

theorem negate_extends (s : Session) : Extends 0 s (Halt.endOf (negate cfg s)) := by
  unfold negate
  split
  · exact .of_eq rfl rfl
  · cases hn : s.startNew
    · simp only [Bool.false_eq_true, if_false, pure_bind]
      exact extends_echo (.of_eq rfl rfl)
    · simp only [if_true]
      cases hr : Number.read s.entry with
      | error e =>
        simp only [entryValue_of_error hr, bind, Except.bind]
        exact .of_eq rfl rfl
      | ok x =>
        simp only [entryValue_of_ok hr, bind, Except.bind, pure, Except.pure]
        exact extends_echo (.of_eq rfl rfl)

theorem afterOperator_extends (s : Session) (op : Operator) :
    Extends (1 - commitLines cfg) s (afterOperator cfg s op) := by
  refine ⟨by simp [Accumulator.setPending], ?_⟩
  unfold afterOperator
  by_cases hop : op = .equals
  · simp only [hop, if_true]
    cases hst : cfg.historyStyle
    · rw [commitLines_of_expression hst]
      by_cases he : s.expression = []
      · exact .of_eq (by simp [he])
      · refine (Appends.of_eq rfl : Appends 0 s s).add ?_
        exact ⟨_, if_pos (show HistoryStyle.expression = .expression ∧ s.expression ≠ [] from
          ⟨rfl, he⟩)⟩
    · exact .of_eq (by simp)
  · simp only [hop, if_false]
    exact .of_eq rfl

theorem inputOperator_extends (s : Session) (op : Operator) :
    Extends 1 s (Halt.endOf (inputOperator cfg s op).result) := by
  rw [inputOperator_result]
  have hc : Extends (commitLines cfg) s (Halt.endOf (commitTyped cfg s).result) :=
    extends_commitTyped s
  have hle : commitLines cfg + (1 - commitLines cfg) = 1 := by
    unfold commitLines
    split <;> rfl
  cases h : (commitTyped cfg s).result with
  | error e =>
    rw [h] at hc
    exact hc.mono (by omega)
  | ok u =>
    rw [h] at hc
    exact hle ▸ hc.trans (afterOperator_extends u op)

theorem fold_extends (cfg : Settings) (t : Session) (acc : Accumulator) (inner : Float)
    (hm : acc.memory = t.acc.memory) :
    (∃ u, (commit cfg { t with acc } inner).result.map afterClose = .ok u) ∧
        Extends (commitLines cfg) t
          (Halt.endOf ((commit cfg { t with acc } inner).result.map afterClose)) ∨
      Extends 0 t (Halt.endOf ((commit cfg { t with acc } inner).result.map afterClose)) := by
  cases hc : acc.commit inner with
  | ok acc' =>
    rw [commit_of_ok hc]
    have h : Extends (commitLines cfg) t (committed cfg { t with acc } inner acc') :=
      (extends_committed hc).of_start hm rfl
    exact .inl ⟨⟨_, rfl⟩, h.afterClose⟩
  | error e =>
    rw [commit_of_error hc]
    exact .inr ((extends_failed _ e).of_start hm rfl)

theorem closeParen_extends (cfg : Settings) (s : Session) :
    Extends (commitLines cfg) s (Halt.endOf (closeParen cfg s).result) ∨
      s.startNew = false ∧ s.acc.depth ≠ 0 ∧ (∃ t, (closeParen cfg s).result = .ok t) ∧
        Extends (commitLines cfg + commitLines cfg) s (Halt.endOf (closeParen cfg s).result) := by
  by_cases hd : s.acc.depth = 0
  · have h : (closeParen cfg s).result = .ok s := by simp [closeParen, hd]
    rw [h]
    exact .inl (.of_eq rfl rfl)
  · have hf : s.acc.frames ≠ [] := by simpa [Accumulator.depth] using hd
    obtain ⟨f, rest, hfr⟩ := List.exists_cons_of_ne_nil hf
    rw [closeParen_result hd]
    rcases commitTyped_cases cfg s with
      ⟨-, h⟩ | ⟨-, e, -, h⟩ | ⟨hn, x, acc, -, hc, h⟩ | ⟨-, x, e, -, -, h⟩ <;> simp only [h]
    · simp only [Accumulator.closeParen, hfr]
      rcases fold_extends cfg s ⟨f.result, f.pending, s.acc.memory, rest⟩ s.acc.result rfl
        with ⟨-, h⟩ | h
      · exact .inl h
      · exact .inl (h.mono (Nat.zero_le _))
    · exact .inl (.of_eq rfl rfl)
    · -- the typed number went in and wrote its line; the fold writes the second
      have hfr' : acc.frames = f :: rest := by rw [Accumulator.frames_of_commit hc, hfr]
      have ht : Extends (commitLines cfg) s (committed cfg s x acc) := extends_committed hc
      simp only [committed_acc, Accumulator.closeParen, hfr']
      rcases fold_extends cfg (committed cfg s x acc)
        ⟨f.result, f.pending, acc.memory, rest⟩ acc.result (by simp) with ⟨hok, h⟩ | h
      · exact .inr ⟨hn, hd, hok, ht.trans h⟩
      · exact .inl (ht.trans h)
    · exact .inl ((extends_failed s e).mono (Nat.zero_le _))

theorem endOf_echo_bind {P : Session → Prop} {t : Session} {f : Session → Step Session}
    (ht : P t) (hf : ∀ u, u.acc = t.acc → u.history = t.history → P (Halt.endOf (f u).result)) :
    P (Halt.endOf (Step.lift (echo t) >>= f).result) := by
  unfold echo
  split
  · split
    · exact ht
    · exact hf _ rfl rfl
  · exact hf _ rfl rfl

theorem endOf_dropEcho_bind {P : Session → Prop} {t : Session} {f : Session → Step Session}
    (ht : P t) (hf : ∀ u, u.acc = t.acc → u.history = t.history → P (Halt.endOf (f u).result)) :
    P (Halt.endOf (Step.lift (dropEcho t) >>= f).result) := by
  unfold dropEcho
  split
  · split
    · exact ht
    · exact hf _ rfl rfl
  · exact hf _ rfl rfl

theorem memoryRecall_extends (s : Session) :
    Extends 1 s (Halt.endOf (memory cfg s .memoryRecall).result) := by
  unfold memory
  simp only [if_true]
  refine endOf_echo_bind (.of_eq rfl rfl) fun u hacc hhist => ?_
  simp only [record_result, Halt.endOf_ok]
  exact ⟨by rw [hacc], (Appends.of_eq hhist : Appends 0 s u).add ⟨_, rfl⟩⟩

theorem memory_write (s : Session) {c : Command} (hc : c ≠ .memoryRecall) {v : Float}
    (hr : Number.read s.entry = .ok v) :
    (Halt.endOf (memory cfg s c).result).acc = s.acc.writeMemory v c ∧
      Appends 1 s (Halt.endOf (memory cfg s c).result) := by
  unfold memory
  simp only [hc, if_false, entryValue_of_ok hr, Step.lift_ok_bind]
  cases c
  case memoryRecall => exact absurd rfl hc
  all_goals
    refine endOf_dropEcho_bind (P := fun r => r.acc = _ ∧ Appends 1 s r) ⟨rfl, .of_eq rfl⟩
      fun u hacc hhist => ?_
    simp only [Step.result_bind, record_result, Step.result_note, Step.result_pure, Halt.endOf_ok]
    exact ⟨hacc, (Appends.of_eq hhist : Appends 0 s u).add ⟨_, rfl⟩⟩

theorem commitLines_le_one (cfg : Settings) : commitLines cfg ≤ 1 := by
  unfold commitLines
  split <;> omega

theorem commitLines_twice_le (cfg : Settings) :
    commitLines cfg + commitLines cfg ≤ lineBound cfg (.command .closeParen) := by
  unfold commitLines lineBound
  split <;> simp_all

theorem one_le_lineBound (cfg : Settings) (k : Key) : 1 ≤ lineBound cfg k := by
  unfold lineBound
  split <;> omega

theorem lineBound_le_two (cfg : Settings) (k : Key) : lineBound cfg k ≤ 2 := by
  unfold lineBound
  split <;> omega

theorem lineBound_of_expression (h : cfg.historyStyle = .expression) (k : Key) :
    lineBound cfg k = 1 := by
  simp [lineBound, h]

theorem closeParen_of_lineBound (cfg : Settings) {k : Key} (h : 2 ≤ lineBound cfg k) :
    k = .command .closeParen := by
  unfold lineBound at h
  split at h
  · exact ‹_ ∧ _›.2
  · omega

theorem route_extends (s : Session) {k : Key} (hk : k ∉ memoryWrites) (hc : k ≠ .command .clear) :
    Extends (lineBound cfg k) s (Halt.endOf (route cfg s k).result) := by
  refine route_elim (fun k r => k ∉ memoryWrites → k ≠ .command .clear →
      Extends (lineBound cfg k) s (Halt.endOf r))
    ?clear ?cancel ?ignored ?digit ?operator ?openParen ?closeParen ?backspace ?negate ?memory k
    hk hc
  case clear => exact fun _ h => absurd rfl h
  case cancel => exact fun _ _ => .of_eq (Accumulator.memory_reset s.acc) rfl
  case ignored => exact fun _ _ _ _ => .of_eq rfl rfl
  case digit => exact fun _ d _ _ => (inputDigit_extends s d).mono (Nat.zero_le _)
  case operator => exact fun _ op _ _ => (inputOperator_extends s op).mono (one_le_lineBound cfg _)
  case openParen => exact fun _ _ _ => (openParen_extends s).mono (Nat.zero_le _)
  case closeParen =>
    intro _ _ _
    rcases closeParen_extends cfg s with h | ⟨-, -, -, h⟩
    · exact h.mono (by have := commitLines_twice_le cfg; omega)
    · exact h.mono (commitLines_twice_le cfg)
  case backspace => exact fun _ _ _ => (backspace_extends s).mono (Nat.zero_le _)
  case negate => exact fun _ _ _ => (negate_extends s).mono (Nat.zero_le _)
  case memory =>
    intro _ c hc hk _
    have hr : c = .memoryRecall := by
      cases c <;> simp_all [memoryWrites]
    subst hr
    exact (memoryRecall_extends s).mono (one_le_lineBound cfg _)

theorem route_memory_of_unlatched {s : Session} (hl : s.latched = false) {c : Command}
    (hk : Key.command c ∈ memoryWrites) : route cfg s (.command c) = memory cfg s c := by
  simp only [memoryWrites, List.mem_cons, Key.command.injEq, List.not_mem_nil, or_false] at hk
  rcases hk with rfl | rfl | rfl | rfl <;> simp [route, hl]

theorem memory_unreadable (cfg : Settings) (s : Session) {c : Command} (hc : c ≠ .memoryRecall)
    {e : Number.ReadError} (hr : Number.read s.entry = .error e) :
    (memory cfg s c).result = .error (.fault s (.unreadable e)) := by
  unfold memory
  simp [hc, entryValue_of_error hr]

theorem handle_write {s : Session} (hl : s.latched = false) {c : Command}
    (hk : Key.command c ∈ memoryWrites) :
    (∀ v, Number.read s.entry = .ok v →
      (s.handle cfg (.command c)).session.acc = s.acc.writeMemory v c ∧
        Appends 1 s (s.handle cfg (.command c)).session) ∧
    (∀ e, Number.read s.entry = .error e →
      (s.handle cfg (.command c)).session = { s with notice := none } ∧
        (s.handle cfg (.command c)).fault = some (.unreadable e)) := by
  have hc := ne_memoryRecall_of_mem hk
  have hroute : route cfg { s with notice := none } (.command c) =
      memory cfg { s with notice := none } c :=
    route_memory_of_unlatched (s := { s with notice := none }) hl hk
  rw [handle_session, handle_fault, hroute]
  refine ⟨fun v hr => memory_write _ hc hr, fun e hr => ?_⟩
  rw [memory_unreadable cfg { s with notice := none } hc hr]
  exact ⟨rfl, rfl⟩

theorem handle_clear_session (cfg : Settings) (s : Session) :
    (s.handle cfg (.command .clear)).session = { acc := { memory := s.acc.memory } } := by
  have h := (handle_clear cfg s true).1
  simp only [if_true] at h
  rw [h, clear_true_eq]

theorem handle_memory {s : Session} {k : Key} (h : s.latched = true ∨ k ∉ memoryWrites) :
    (s.handle cfg k).session.acc.memory = s.acc.memory := by
  by_cases hc : k = .command .clear
  · subst hc
    rw [handle_clear_session]
  · cases hl : s.latched
    · have hk : k ∉ memoryWrites := by simpa [hl] using h
      rw [handle_session]
      exact (route_extends { s with notice := none } hk hc).memory
    · rw [(handle_of_latched cfg hl k).1, if_neg hc]
      split <;> rfl

theorem handle_appends (cfg : Settings) (s : Session) {k : Key} (hc : k ≠ .command .clear) :
    Appends (if s.latched then 0 else lineBound cfg k) s (s.handle cfg k).session := by
  cases hl : s.latched
  · simp only [Bool.false_eq_true, if_false]
    by_cases hk : k ∈ memoryWrites
    · obtain ⟨c, rfl⟩ := exists_command_of_mem_memoryWrites hk
      cases hr : Number.read s.entry with
      | ok v => exact ((handle_write hl hk).1 v hr).2.mono (one_le_lineBound cfg _)
      | error e => exact .of_eq (by rw [((handle_write hl hk).2 e hr).1])
    · rw [handle_session]
      exact (route_extends { s with notice := none } hk hc).appends
  · simp only [if_true]
    rw [(handle_of_latched cfg hl k).1, if_neg hc]
    split <;> exact .of_eq rfl

theorem handle_two_lines {s : Session} (hl : s.latched = false) {added : List String}
    (ha : (s.handle cfg (.command .closeParen)).session.history.lines = s.history.lines ++ added)
    (h2 : added.length = 2) :
    s.startNew = false ∧ s.acc.depth ≠ 0 ∧ (s.handle cfg (.command .closeParen)).refusal = none ∧
      (s.handle cfg (.command .closeParen)).fault = none := by
  have hroute : route cfg { s with notice := none } (.command .closeParen) =
      closeParen cfg { s with notice := none } := by
    simp [route, hl]
  rw [handle_session, hroute] at ha
  rw [handle_refusal, handle_fault, hroute]
  rcases closeParen_extends cfg { s with notice := none } with h | ⟨hn, hd, ⟨t, ht⟩, -⟩
  · have := h.appends.length_le ha
    have := commitLines_le_one cfg
    omega
  · exact ⟨hn, hd, by rw [ht]; rfl, by rw [ht]; rfl⟩

theorem memory_changes_only_by_memory_keys (cfg : Settings) (s : Session) (k : Key) :
    let o := s.handle cfg k
    (s.latched = true ∨ k ∉ memoryWrites → o.session.acc.memory = s.acc.memory) ∧
    (s.latched = false → ∀ v, Number.read s.entry = .ok v →
      (k = .command .memoryClear → o.session.acc.memory = 0) ∧
      (k = .command .memoryAdd → o.session.acc.memory = s.acc.memory + v) ∧
      (k = .command .memorySubtract → o.session.acc.memory = s.acc.memory - v) ∧
      (k = .command .memoryStore → o.session.acc.memory = v)) ∧
    (s.latched = false → k ∈ memoryWrites → ∀ e, Number.read s.entry = .error e →
      o.fault = some (.unreadable e) ∧ o.session.acc.memory = s.acc.memory) := by
  dsimp only
  refine ⟨handle_memory, fun hl v hr => ?_, fun hl hk e hr => ?_⟩
  · have hw : ∀ c, Key.command c ∈ memoryWrites →
        (s.handle cfg (.command c)).session.acc = s.acc.writeMemory v c :=
      fun c hk => ((handle_write hl hk).1 v hr).1
    refine ⟨?_, ?_, ?_, ?_⟩ <;> rintro rfl <;> rw [hw _ (by simp [memoryWrites])] <;> rfl
  · obtain ⟨c, rfl⟩ := exists_command_of_mem_memoryWrites hk
    obtain ⟨hs, hf⟩ := (handle_write hl hk).2 e hr
    exact ⟨hf, by rw [hs]⟩

theorem memory_clear_on_cut_nan_keeps_memory :
    let s := ({} : Session).run {}
      (.digit (.numeral 1) :: List.replicate 10 (.digit (.numeral 0)) ++
        (List.replicate 5 [.command .memoryStore, .operator .square, .command .memoryRecall,
          .operator .equals]).flatten ++
        [.command .memoryStore, .command .memorySubtract, .command .memoryRecall,
          .command .backspace])
    s.latched = false ∧ (s.handle {} (.command .memoryClear)).session.acc.memory ≠ 0 ∧
      (s.handle {} (.command .memoryClear)).fault = some (.unreadable (.notANumber "Na")) := by
  decide +kernel

theorem history_append_only (cfg : Settings) (s : Session) (k : Key) :
    let o := s.handle cfg k
    (k = .command .clear → o.session.history.lines = []) ∧
    (k ≠ .command .clear → ∃ added, o.session.history.lines = s.history.lines ++ added ∧
      (s.latched = true → added = []) ∧ (cfg.historyStyle = .expression → added.length ≤ 1) ∧
      added.length ≤ 2 ∧
      (added.length = 2 → k = .command .closeParen ∧ s.startNew = false ∧ s.acc.depth ≠ 0 ∧
        o.refusal = none ∧ o.fault = none)) ∧
    ∃ older, s.history.lines = older ++ (s.view cfg).historyLines ∧
      (s.view cfg).historyLines.length = min cfg.historyLines.toNat s.history.size := by
  dsimp only
  refine ⟨fun hk => ?_, fun hk => ?_, History.recent_suffix _ _⟩
  · subst hk
    rw [handle_clear_session]
  · obtain ⟨added, ha, hlen⟩ := handle_appends cfg s hk
    refine ⟨added, ha, ?_⟩
    cases hl : s.latched
    · simp only [hl, Bool.false_eq_true, if_false] at hlen
      refine ⟨fun h => absurd h (by simp), fun hst => ?_,
        Nat.le_trans hlen (lineBound_le_two cfg k), fun h2 => ?_⟩
      · rwa [lineBound_of_expression hst] at hlen
      · obtain rfl := closeParen_of_lineBound cfg (h2 ▸ hlen)
        exact ⟨rfl, handle_two_lines hl ha h2⟩
    · simp only [hl, if_true] at hlen
      obtain rfl : added = [] := List.eq_nil_of_length_eq_zero (by omega)
      exact ⟨fun _ => rfl, by simp, by simp, by simp⟩

end Session

end PocketCalc
