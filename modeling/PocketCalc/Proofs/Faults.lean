import PocketCalc.Proofs.EntryText
import PocketCalc.Proofs.Typing
import PocketCalc.Proofs.Echo
namespace PocketCalc.Session

variable {cfg : Settings}

def readsEntry (s : Session) : Key → Bool
  | .operator _ => !s.latched && !s.startNew
  | .command .closeParen => !s.latched && s.acc.depth != 0 && !s.startNew
  | .command .negate => !s.latched && s.startNew && s.entry != "0" && s.unsigned != Number.nanText
  | .command .memoryClear | .command .memoryAdd | .command .memorySubtract
  | .command .memoryStore => !s.latched
  | _ => false

def readFault (text : String) : Option Fault :=
  match Number.read text with
  | .ok _ => none
  | .error e => some (.unreadable e)

theorem faultOf_echo {t : Session} (hne : t.echoOpen = true → t.expression ≠ []) :
    Halt.faultOf (echo t) = none := by
  rw [echo_eq hne]
  rfl

theorem faultOf_dropEcho {t : Session} (hne : t.echoOpen = true → t.expression ≠ []) :
    Halt.faultOf (dropEcho t) = none := by
  rw [dropEcho_eq hne]
  rfl

theorem faultOf_map (r : Except Halt Session) (f : Session → Session) :
    Halt.faultOf (r.map f) = Halt.faultOf r := by
  cases r <;> rfl

theorem faultOf_commit (s : Session) (x : Float) : Halt.faultOf (commit cfg s x).result = none := by
  cases hc : s.acc.commit x with
  | ok acc => rw [commit_of_ok hc]; rfl
  | error e => rw [commit_of_error hc]; rfl

theorem faultOf_commitTyped (s : Session) :
    Halt.faultOf (commitTyped cfg s).result = if s.startNew then none else readFault s.entry := by
  rcases commitTyped_cases cfg s with
    ⟨hn, h⟩ | ⟨hn, e, hr, h⟩ | ⟨hn, x, acc, hr, -, h⟩ | ⟨hn, x, e, hr, -, h⟩
  · simp [h, hn, Halt.faultOf]
  · simp [h, hn, readFault, hr, Halt.faultOf]
  · simp [h, hn, readFault, hr, Halt.faultOf]
  · simp [h, hn, readFault, hr, Halt.faultOf]

theorem faultOf_inputOperator (s : Session) (op : Operator) :
    Halt.faultOf (inputOperator cfg s op).result = Halt.faultOf (commitTyped cfg s).result := by
  rw [inputOperator_result, faultOf_map]

theorem faultOf_closeParen (s : Session) :
    Halt.faultOf (closeParen cfg s).result =
      if s.acc.depth = 0 then none else Halt.faultOf (commitTyped cfg s).result := by
  by_cases hd : s.acc.depth = 0
  · simp [closeParen, hd, Halt.faultOf]
  · rw [closeParen_result hd, if_neg hd]
    cases (commitTyped cfg s).result with
    | error h => rfl
    | ok t =>
      simp only
      cases t.acc.closeParen with
      | none => rfl
      | some p => rw [faultOf_map, faultOf_commit]; rfl

section Handlers

variable {s : Session} (hs : s.Echoes)
include hs

theorem faultOf_inputDigit (d : Digit) : Halt.faultOf (inputDigit s d) = none := by
  unfold inputDigit
  split
  · exact faultOf_echo hs.nonempty
  · split
    · rfl
    · exact faultOf_echo hs.nonempty

theorem faultOf_backspace : Halt.faultOf (backspace s) = none := by
  unfold backspace
  split
  · rfl
  · dsimp only
    split
    · exact faultOf_dropEcho hs.nonempty
    · exact faultOf_echo hs.nonempty

theorem faultOf_openParen : Halt.faultOf (openParen s) = none := by
  rw [openParen_eq hs.nonempty]
  rfl

theorem faultOf_negate :
    Halt.faultOf (negate cfg s) =
      if s.startNew = true ∧ s.entry ≠ "0" ∧ s.unsigned ≠ Number.nanText then readFault s.entry
      else none := by
  unfold negate
  split
  · rename_i h0
    have hc : ¬(s.startNew = true ∧ s.entry ≠ "0" ∧ s.unsigned ≠ Number.nanText) := by
      simp only [Bool.or_eq_true, decide_eq_true_eq] at h0
      rintro ⟨-, h1, h2⟩
      rcases h0 with h0 | h0
      · exact h1 h0
      · exact h2 h0
    rw [if_neg hc]
    rfl
  · rename_i h0
    simp only [Bool.or_eq_true, decide_eq_true_eq, not_or] at h0
    cases hn : s.startNew
    · simp only [Bool.false_eq_true, if_false, pure_bind, false_and]
      exact faultOf_echo hs.nonempty
    · rw [if_pos (show true = true ∧ s.entry ≠ "0" ∧ s.unsigned ≠ Number.nanText from
        ⟨rfl, h0.1, h0.2⟩)]
      cases hr : Number.read s.entry with
      | error e => simp [entryValue_of_error hr, bind, Except.bind, readFault, hr, Halt.faultOf]
      | ok x =>
        simp only [entryValue_of_ok hr, bind, Except.bind, pure, Except.pure, if_true]
        rw [faultOf_echo (by simp [hs.closed_of_new hn])]
        simp [readFault, hr]

theorem faultOf_memory (c : Command) :
    Halt.faultOf (memory cfg s c).result =
      if c = .memoryRecall then none else readFault s.entry := by
  unfold memory
  by_cases hc : c = .memoryRecall
  · simp only [hc, if_true]
    rw [echo_eq (by simpa using hs.nonempty)]
    rfl
  · simp only [hc, if_false]
    cases hr : Number.read s.entry with
    | error e =>
      simp [entryValue_of_error hr, Step.lift_error_bind, readFault, hr, Halt.faultOf]
    | ok v =>
      simp only [entryValue_of_ok hr, Step.lift_ok_bind]
      rw [dropEcho_eq (by simpa using hs.nonempty)]
      simp [readFault, hr, Halt.faultOf]

end Handlers

theorem readsEntry_of_latched {s : Session} (hl : s.latched = true) (k : Key) :
    s.readsEntry k = false := by
  unfold readsEntry
  split <;> simp [hl]

theorem faultOf_route {s : Session} (hs : s.EchoInv) (k : Key) :
    Halt.faultOf (route cfg s k).result = if s.readsEntry k then readFault s.entry else none := by
  refine route_elim (fun k r => Halt.faultOf r = if s.readsEntry k then readFault s.entry else none)
    ?clear ?cancel ?ignored ?digit ?operator ?openParen ?closeParen ?backspace ?negate ?memory k
  case clear | cancel => simp [readsEntry, Halt.faultOf]
  case ignored =>
    intro hl k
    simp [readsEntry_of_latched hl, Halt.faultOf]
  case digit =>
    intro hl d
    simp [readsEntry, faultOf_inputDigit (hs hl)]
  case operator =>
    intro hl op
    cases hn : s.startNew <;> simp [readsEntry, hl, hn, faultOf_inputOperator, faultOf_commitTyped]
  case openParen =>
    intro hl
    simp [readsEntry, faultOf_openParen (hs hl)]
  case closeParen =>
    intro hl
    simp only [faultOf_closeParen, faultOf_commitTyped]
    by_cases hd : s.acc.depth = 0 <;> cases hn : s.startNew <;> simp [readsEntry, hl, hd, hn]
  case backspace =>
    intro hl
    simp [readsEntry, faultOf_backspace (hs hl)]
  case negate =>
    intro hl
    simp [readsEntry, hl, faultOf_negate (hs hl), and_assoc]
  case memory =>
    intro hl c hc
    simp only [List.mem_cons, List.not_mem_nil, or_false] at hc
    rcases hc with rfl | rfl | rfl | rfl | rfl <;> simp [readsEntry, hl, faultOf_memory (hs hl)]

def Shaped (s : Session) : Prop := Number.EntryText s.entry.toList

theorem shaped_format (s : Session) (x : Float) : Shaped { s with entry := format cfg x } :=
  Number.entryText_display _ _ _

theorem shaped_formatPlain (s : Session) (x : Float) : Shaped { s with entry := formatPlain cfg x } :=
  Number.entryText_display _ _ _

theorem entryText_zero : Number.EntryText "0".toList := by
  rw [show "0".toList = Number.numeral false ['0'] none by decide]
  exact .decimal (by decide) (by simp) (by simp)

theorem shaped_clear (s : Session) (b : Bool) : Shaped (s.clear b) := entryText_zero

theorem entry_endOf_echo (t : Session) : (Halt.endOf (echo t)).entry = t.entry := by
  unfold echo
  split
  · split <;> rfl
  · rfl

theorem entry_endOf_dropEcho (t : Session) : (Halt.endOf (dropEcho t)).entry = t.entry := by
  unfold dropEcho
  split
  · split <;> rfl
  · rfl

theorem entry_endOf_map (r : Except Halt Session) {f : Session → Session}
    (hf : ∀ t, (f t).entry = t.entry) : (Halt.endOf (r.map f)).entry = (Halt.endOf r).entry := by
  cases r with
  | error h => rfl
  | ok t => exact hf t

theorem entry_endOf_lift_bind {x : Except Halt Session} {e : String} {f : Session → Step Session}
    (hx : (Halt.endOf x).entry = e) (hf : ∀ u, u.entry = e → (Halt.endOf (f u).result).entry = e) :
    (Halt.endOf (Step.lift x >>= f).result).entry = e := by
  cases x with
  | error h => exact hx
  | ok u => exact hf u hx

theorem Shaped.failed {s : Session} (hs : s.Shaped) (e : ArithError) : (failed cfg s e).Shaped := by
  unfold Session.failed
  cases cfg.errorPolicy
  · exact hs
  · exact entryText_zero

theorem Shaped.commit {s : Session} (hs : s.Shaped) (x : Float) :
    (Halt.endOf (commit cfg s x).result).Shaped := by
  cases hc : s.acc.commit x with
  | ok acc =>
    rw [commit_of_ok hc]
    simpa [Shaped] using shaped_format s acc.result
  | error e =>
    rw [commit_of_error hc]
    exact hs.failed e

theorem Shaped.commitTyped {s : Session} (hs : s.Shaped) :
    (Halt.endOf (commitTyped cfg s).result).Shaped := by
  rcases commitTyped_cases cfg s with
    ⟨-, h⟩ | ⟨-, e, -, h⟩ | ⟨-, x, acc, -, -, h⟩ | ⟨-, x, e, -, -, h⟩ <;> rw [h]
  · exact hs
  · exact hs
  · simpa [Shaped] using shaped_format s acc.result
  · exact hs.failed e

theorem entryText_negated {cs : List Char} (h : Number.EntryText cs) :
    Number.EntryText (match cs with
      | '-' :: rest => String.ofList rest
      | cs => String.ofList ('-' :: cs)).toList := by
  have ht := h.toggle
  split
  · rename_i rest
    simpa [Number.toggleSign] using ht
  · rename_i cs hne
    rw [Number.toggleSign.eq_2 _ hne] at ht
    simpa using ht

theorem entry_memory (c : Command) :
    (Halt.endOf (memory cfg s c).result).entry =
      if c = .memoryRecall then formatPlain cfg s.acc.memory else s.entry := by
  unfold Session.memory
  by_cases hc : c = .memoryRecall
  · simp only [hc, if_true]
    refine entry_endOf_lift_bind (entry_endOf_echo _) fun u hu => ?_
    simp [hu]
  · simp only [hc, if_false]
    cases hr : Number.read s.entry with
    | error e => simp [entryValue_of_error hr, Step.lift_error_bind]
    | ok v =>
      simp only [entryValue_of_ok hr, Step.lift_ok_bind]
      split <;>
        exact entry_endOf_lift_bind (entry_endOf_dropEcho _) fun u hu => by simp [hu]

section Keys

variable {s : Session} (hs : s.Shaped)
include hs

theorem Shaped.inputDigit (d : Digit) : (Halt.endOf (inputDigit s d)).Shaped := by
  unfold Session.inputDigit
  split
  · simp only [Shaped, entry_endOf_echo]
    cases d with
    | point =>
      rw [if_pos rfl, show "0.".toList = Number.numeral false ['0'] (some []) by decide]
      exact .decimal (by decide) (by simp) (by simp)
    | numeral n =>
      simp only [reduceCtorEq, if_false, Digit.label, String.toList_singleton]
      show Number.EntryText (Number.numeral false [digitChar n.val] none)
      exact .decimal (isAsciiDigit_digitChar n.isLt) (by simp) (by simp)
  · rename_i hnew
    simp only [Bool.or_eq_true, Bool.not_eq_true', not_or, Bool.not_eq_false] at hnew
    split
    · exact hs
    · rename_i hpoint
      simp only [Shaped, entry_endOf_echo, String.toList_append, Digit.label,
        String.toList_singleton]
      have hnum := hnew.2
      simp only [entryIsNumber, Bool.and_eq_true, bne_iff_ne, ne_eq] at hnum
      have hnan : s.entry.toList.dropWhile (· = '-') ≠ Number.nanText.toList := fun h =>
        hnum.2 (by rw [unsigned, h, String.ofList_toList])
      have hinf : s.entry.toList.dropWhile (· = '-') ≠ Number.infinityText.toList := fun h =>
        hnum.1 (by rw [unsigned, h, String.ofList_toList])
      refine Number.EntryText.push hs hnan hinf ?_
      cases d with
      | point =>
        refine .inr ⟨rfl, fun hm => hpoint ?_⟩
        simpa using hm
      | numeral n => exact .inl (isAsciiDigit_digitChar n.isLt)

theorem Shaped.backspace : (Halt.endOf (backspace s)).Shaped := by
  unfold Session.backspace
  split
  · exact hs
  · dsimp only
    split
    · simp only [Shaped, entry_endOf_dropEcho]
      exact entryText_zero
    · rename_i hleft
      simp only [Bool.or_eq_true, decide_eq_true_eq, not_or] at hleft
      simp only [Shaped, entry_endOf_echo, String.toList_ofList]
      exact Number.EntryText.dropLast hs (fun h => hleft.1 (by rw [h]))
        (fun h => hleft.2 (by rw [h]))

theorem Shaped.negate : (Halt.endOf (negate cfg s)).Shaped := by
  unfold Session.negate
  split
  · exact hs
  · cases hn : s.startNew
    · simp only [Bool.false_eq_true, if_false, pure_bind, Shaped, entry_endOf_echo]
      exact entryText_negated hs
    · simp only [if_true]
      cases hr : Number.read s.entry with
      | error e =>
        simp only [entryValue_of_error hr, bind, Except.bind]
        exact hs
      | ok x =>
        simp only [entryValue_of_ok hr, bind, Except.bind, pure, Except.pure, Shaped,
          entry_endOf_echo]
        exact entryText_negated (shaped_formatPlain s x)

theorem Shaped.inputOperator (op : Operator) : (Halt.endOf (inputOperator cfg s op).result).Shaped := by
  unfold Shaped
  rw [inputOperator_result, entry_endOf_map _ (fun t => afterOperator_entry t op)]
  exact hs.commitTyped

theorem Shaped.openParen : (Halt.endOf (openParen s)).Shaped := by
  unfold Session.openParen
  have he := entry_endOf_dropEcho s
  cases h : dropEcho s with
  | error e =>
    rw [h] at he
    simpa [Shaped, bind, Except.bind, he] using hs
  | ok t =>
    rw [h] at he
    have ht : t.entry = s.entry := he
    simp only [Shaped, bind, Except.bind, pure, Except.pure, Halt.endOf]
    rw [ht]
    exact hs

theorem Shaped.closeParen : (Halt.endOf (closeParen cfg s).result).Shaped := by
  by_cases hd : s.acc.depth = 0
  · simpa [Session.closeParen, hd] using hs
  · rw [closeParen_result hd]
    have hc : (Halt.endOf (Session.commitTyped cfg s).result).Shaped := hs.commitTyped
    cases h : (Session.commitTyped cfg s).result with
    | error e => simpa [h] using hc
    | ok t =>
      have ht : t.Shaped := by simpa [h] using hc
      simp only
      cases t.acc.closeParen with
      | none => exact ht
      | some p =>
        obtain ⟨inner, acc⟩ := p
        simp only [Shaped]
        rw [entry_endOf_map _ (f := afterClose) (fun u => rfl)]
        exact (show Shaped { t with acc } from ht).commit inner

theorem Shaped.memory (c : Command) : (Halt.endOf (memory cfg s c).result).Shaped := by
  unfold Shaped
  rw [entry_memory]
  split
  · exact shaped_formatPlain s _
  · exact hs

theorem Shaped.route (k : Key) : (Halt.endOf (route cfg s k).result).Shaped := by
  refine route_elim (fun _ r => (Halt.endOf r).Shaped) ?clear ?cancel ?ignored ?digit ?operator
    ?openParen ?closeParen ?backspace ?negate ?memory k
  case clear | cancel => exact shaped_clear s _
  case ignored => exact fun _ _ => hs
  case digit => exact fun _ d => hs.inputDigit d
  case operator => exact fun _ op => hs.inputOperator op
  case openParen => exact fun _ => hs.openParen
  case closeParen => exact fun _ => hs.closeParen
  case backspace => exact fun _ => hs.backspace
  case negate => exact fun _ => hs.negate
  case memory => exact fun _ c _ => hs.memory c

end Keys

theorem Reachable.shaped {s : Session} (h : Reachable cfg s) : s.Shaped := by
  induction h with
  | start => exact entryText_zero
  | @step s k _ ih =>
    rw [handle_session]
    exact Shaped.route (show Shaped { s with notice := none } from ih) k

theorem readFault_ne_none_iff {text : String} (h : Number.EntryText text.toList) :
    readFault text ≠ none ↔ Number.NanFragment text.toList := by
  constructor
  · intro hf
    refine Classical.byContradiction fun hn => ?_
    obtain ⟨x, hx⟩ := h.read_ok hn
    rw [String.ofList_toList] at hx
    simp [readFault, hx] at hf
  · intro hn
    obtain ⟨e, he⟩ := hn.read_error
    rw [String.ofList_toList] at he
    simp [readFault, he]

theorem faults_exactly_on_nan_fragments (cfg : Settings) (keys : List Key) (k : Key) :
    let s := ({} : Session).run cfg keys
    (s.handle cfg k).fault ≠ none ↔ s.readsEntry k = true ∧ Number.NanFragment s.entry.toList := by
  intro s
  have hreach : Reachable cfg s := Reachable.start.run keys
  have hfault : (s.handle cfg k).fault = if s.readsEntry k then readFault s.entry else none := by
    rw [handle_fault]
    exact faultOf_route (s := { s with notice := none }) hreach.echoInv k
  rw [hfault]
  cases hr : s.readsEntry k
  · simp
  · simpa using readFault_ne_none_iff hreach.shaped

theorem recalled_nan_cut_by_backspace_faults :
    ((({} : Session).run {} (.digit (.numeral 1) :: List.replicate 10 (.digit (.numeral 0)) ++
        (List.replicate 5 [.command .memoryStore, .operator .square, .command .memoryRecall,
          .operator .equals]).flatten ++
        [.command .memoryStore, .command .memorySubtract, .command .memoryRecall,
          .command .backspace])).handle {} (.operator .equals)).fault =
      some (.unreadable (.notANumber "Na")) := by
  decide +kernel

end PocketCalc.Session
