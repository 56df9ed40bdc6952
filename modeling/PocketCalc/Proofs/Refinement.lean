import Mathlib.Data.List.Chain
import PocketCalc.Proofs.Typing
import PocketCalc.Proofs.Echo
namespace PocketCalc

def Piece.isLiteral : Piece → Bool
  | .literal _ => true
  | _ => false

structure Keyable (ps : List Piece) : Prop where
  digits : ∀ p ∈ ps, p ≠ .literal []
  apart : ps.IsChain fun p q => ¬(p.isLiteral = true ∧ q.isLiteral = true)

def closesFrom : Nat → List Piece → Bool
  | _, [] => true
  | d, .literal _ :: rest => closesFrom d rest
  | d, .operator _ :: rest => closesFrom d rest
  | d, .openParen :: rest => closesFrom (d + 1) rest
  | d, .closeParen :: rest => d != 0 && closesFrom (d - 1) rest

theorem Keyable.take {ps : List Piece} (h : Keyable ps) (n : Nat) : Keyable (ps.take n) :=
  ⟨fun p hp => h.digits p (List.mem_of_mem_take hp), h.apart.take n⟩

theorem Keyable.tail {p : Piece} {ps : List Piece} (h : Keyable (p :: ps)) : Keyable ps :=
  ⟨fun q hq => h.digits q (List.mem_cons_of_mem p hq), h.apart.tail⟩

theorem Keyable.literal_ne_nil {ds : List Digit} {rest : List Piece}
    (hk : Keyable (.literal ds :: rest)) : ds ≠ [] :=
  fun h => hk.digits (.literal ds) (by simp) (by rw [h])

theorem Keyable.not_literal_head {ds : List Digit} {rest : List Piece}
    (hk : Keyable (.literal ds :: rest)) : ∀ es qs, rest ≠ .literal es :: qs := by
  rintro es qs rfl
  simpa [Piece.isLiteral] using (List.isChain_cons_cons.1 hk.apart).1

theorem closesFrom_take {d : Nat} {ps : List Piece} (h : closesFrom d ps = true) (n : Nat) :
    closesFrom d (ps.take n) = true := by
  induction ps generalizing d n with
  | nil => simp [closesFrom]
  | cons p ps ih =>
    cases n with
    | zero => simp [closesFrom]
    | succ n =>
      rw [List.take_succ_cons]
      cases p with
      | literal ds => exact ih h n
      | operator op => exact ih h n
      | openParen => exact ih h n
      | closeParen =>
        simp only [closesFrom, Bool.and_eq_true] at h ⊢
        exact ⟨h.1, ih h.2 n⟩

def Accumulator.commitLiteral (a : Accumulator) (ds : List Digit) : Except ArithError Accumulator :=
  if ds = [] then .ok a else a.commit (literalValue ds)

theorem Accumulator.frames_of_commitLiteral {a b : Accumulator} {ds : List Digit}
    (h : a.commitLiteral ds = .ok b) : b.frames = a.frames := by
  unfold commitLiteral at h
  split at h
  · cases h; rfl
  · exact frames_of_commit h

@[simp] theorem Accumulator.commitLiteral_nil (a : Accumulator) : a.commitLiteral [] = .ok a := rfl

theorem Except.bind_eq_ok {ε α β : Type} {x : Except ε α} {f : α → Except ε β} {b : β} :
    (x >>= f) = .ok b ↔ ∃ a, x = .ok a ∧ f a = .ok b := by
  cases x <;> simp [bind, Except.bind]

@[simp] theorem keysOf_nil : keysOf [] = [] := rfl

@[simp] theorem keysOf_cons (p : Piece) (ps : List Piece) : keysOf (p :: ps) = p.keys ++ keysOf ps :=
  List.flatMap_cons

theorem evaluate_closeParen {a b : Accumulator} {rest : List Piece} (hd : a.depth ≠ 0)
    (he : evaluate a (.closeParen :: rest) = .ok b) :
    ∃ inner outer b', a.closeParen = some (inner, outer) ∧ outer.commit inner = .ok b' ∧
      b'.depth = a.depth - 1 ∧ evaluate b' rest = .ok b := by
  obtain ⟨f, fs, hf⟩ := List.exists_cons_of_ne_nil (by simpa [Accumulator.depth] using hd)
  have hp : a.closeParen = some (a.result, { a with result := f.result, pending := f.pending, frames := fs }) := by
    simp [Accumulator.closeParen, hf]
  simp only [evaluate, hp] at he
  obtain ⟨b', hb, he⟩ := Except.bind_eq_ok.1 he
  refine ⟨_, _, b', hp, hb, ?_, he⟩
  simp [Accumulator.depth, Accumulator.frames_of_commit hb, hf]

namespace Session

variable {cfg : Settings}

structure Follows (s : Session) (a : Accumulator) (ds : List Digit) : Prop where
  unlatched : s.latched = false
  echoes : s.Echoes
  acc : s.acc = a
  fresh : s.startNew = true ↔ ds = []
  entry : ds ≠ [] → s.entry = literalText ds

section Follows

variable {s : Session} {a : Accumulator} {ds : List Digit}

theorem Follows.notice (h : Follows s a ds) : Follows { s with notice := none } a ds :=
  ⟨h.unlatched, h.echoes, h.acc, h.fresh, h.entry⟩

theorem Follows.typing (h : Follows s a ds) (hds : ds ≠ []) : s.startNew = false := by
  cases hn : s.startNew
  · rfl
  · exact absurd (h.fresh.1 hn) hds

theorem entryIsNumber_of_literal (h : s.entry = literalText ds) : s.entryIsNumber = true := by
  have hu : s.unsigned = literalText ds := by
    simp only [unsigned, h, literalText, String.toList_ofList, dropWhile_minus_literalChars]
  have hp := plain_of_mem_literalChars ds
  have hinf : literalText ds ≠ Number.infinityText :=
    Number.ofList_ne_of_not_mem (by decide) fun hc => (hp _ hc).not_infinity rfl
  have hnan : literalText ds ≠ Number.nanText :=
    Number.ofList_ne_of_not_mem (by decide) fun hc => (hp _ hc).not_n rfl
  simp [entryIsNumber, hu, hinf, hnan]

theorem Follows.inputDigit_ok (h : Follows s a ds) (d : Digit) :
    ∃ t, inputDigit s d = .ok t ∧ Follows t a (ds ++ [d]) := by
  unfold Session.inputDigit
  by_cases hds : ds = []
  · subst hds
    have hn := h.fresh.2 rfl
    simp only [hn, Bool.true_or, if_true]
    rw [echo_eq (by simp [h.echoes.closed_of_new hn])]
    refine ⟨_, rfl, h.unlatched, by simp [Echoes], h.acc, by simp, fun _ => ?_⟩
    simp [literalText_singleton]
  · have hn := h.typing hds
    have he := h.entry hds
    have ho := h.echoes.open_of_typing hn
    have hdot : '.' ∈ s.entry.toList ↔ .point ∈ ds := by
      rw [he, literalText, String.toList_ofList]
      exact point_mem_literalChars ds
    simp only [hn, entryIsNumber_of_literal he, Bool.false_or, Bool.not_true, Bool.false_eq_true,
      if_false]
    by_cases hp : d = .point ∧ .point ∈ ds
    · obtain ⟨rfl, hp⟩ := hp
      have hc : (decide (Digit.point = Digit.point) && s.entry.toList.contains '.') = true := by
        simpa using hdot.2 hp
      rw [if_pos hc]
      refine ⟨s, rfl, h.unlatched, h.echoes, h.acc, by simp [hn], fun _ => ?_⟩
      rw [literalText_append_point, if_pos hp, he]
    · have hc : ¬(decide (d = Digit.point) && s.entry.toList.contains '.') = true := by
        simpa [hdot] using hp
      rw [if_neg hc, echo_eq (by simpa using fun _ => h.echoes.nonempty ho)]
      refine ⟨_, rfl, h.unlatched, by simp [Echoes], h.acc, by simp, fun _ => ?_⟩
      cases d with
      | point =>
        have hp' : .point ∉ ds := fun hm => hp ⟨rfl, hm⟩
        simp only [literalText_append_point, if_neg hp', he]
      | numeral n => simp only [literalText_append_numeral hds, he]

variable (cfg) in
theorem Follows.commitTyped_ok (h : Follows s a ds) {b : Accumulator}
    (hc : a.commitLiteral ds = .ok b) :
    ∃ t, (commitTyped cfg s).result = .ok t ∧ t.latched = false ∧ t.acc = b := by
  by_cases hds : ds = []
  · have hn := h.fresh.2 hds
    have hab : a = b := by simpa [Accumulator.commitLiteral, hds] using hc
    exact ⟨s, by simp [Session.commitTyped, hn], h.unlatched, h.acc.trans hab⟩
  · have hn := h.typing hds
    have hread : Number.read s.entry = .ok (literalValue ds) := by
      rw [h.entry hds]
      exact read_literalText ds
    have hcommit : s.acc.commit (literalValue ds) = .ok b := by
      rw [h.acc]
      simpa [Accumulator.commitLiteral, hds] using hc
    refine ⟨committed cfg s (literalValue ds) b, ?_, by simp [h.unlatched], by simp⟩
    simp [Session.commitTyped, hn, entryValue_of_ok hread, commit_of_ok hcommit]

theorem Follows.digit (h : Follows s a ds) (d : Digit) :
    Follows (Halt.endOf (route cfg s (.digit d)).result) a (ds ++ [d]) := by
  obtain ⟨t, ht, hf⟩ := h.inputDigit_ok d
  simpa [route, h.unlatched, ht] using hf

theorem Follows.operator (h : Follows s a ds) {b : Accumulator} (hc : a.commitLiteral ds = .ok b)
    (op : Operator) : Follows (Halt.endOf (route cfg s (.operator op)).result) (b.setPending op) [] := by
  obtain ⟨t, ht, htl, hta⟩ := h.commitTyped_ok cfg hc
  simp only [route, h.unlatched, Bool.false_eq_true, if_false, inputOperator_result, ht, Except.map,
    Halt.endOf_ok]
  exact ⟨by simp [htl], echoes_afterOperator t op, by simp [hta], by simp, fun h => absurd rfl h⟩

theorem Follows.openParen (h : Follows s a ds) :
    Follows (Halt.endOf (route cfg s (.command .openParen)).result) a.openParen [] := by
  simp only [route, h.unlatched, Bool.false_eq_true, if_false, Step.result_lift,
    openParen_eq h.echoes.nonempty, Halt.endOf_ok]
  exact ⟨h.unlatched, by simp [afterOpen, Echoes], by simp [afterOpen, h.acc], by simp [afterOpen],
    fun h => absurd rfl h⟩

variable (cfg) in
theorem Follows.closeParen_ok (h : Follows s a ds) {a' outer b : Accumulator} {inner : Float}
    (hc : a.commitLiteral ds = .ok a') (hp : a'.closeParen = some (inner, outer))
    (hb : outer.commit inner = .ok b) :
    ∃ t, (commitTyped cfg s).result = .ok t ∧ t.latched = false ∧
      (Session.closeParen cfg s).result = .ok (committed cfg { t with acc := outer } inner b).afterClose := by
  obtain ⟨t, ht, htl, hta⟩ := h.commitTyped_ok cfg hc
  have hd : s.acc.depth ≠ 0 := by
    have hf : a'.frames ≠ [] := fun hf => by simp [Accumulator.closeParen_eq_none.2 hf] at hp
    simpa [Accumulator.depth, h.acc, ← Accumulator.frames_of_commitLiteral hc] using hf
  refine ⟨t, ht, htl, ?_⟩
  rw [closeParen_result hd, ht]
  simp only [hta, hp]
  rw [commit_of_ok (s := { t with acc := outer }) hb]
  rfl

theorem Follows.closeParen (h : Follows s a ds) {a' outer b : Accumulator} {inner : Float}
    (hc : a.commitLiteral ds = .ok a') (hp : a'.closeParen = some (inner, outer))
    (hb : outer.commit inner = .ok b) :
    Follows (Halt.endOf (route cfg s (.command .closeParen)).result) b [] := by
  obtain ⟨t, -, htl, hcl⟩ := h.closeParen_ok cfg hc hp hb
  simp only [route, h.unlatched, Bool.false_eq_true, if_false, hcl, Halt.endOf_ok]
  exact ⟨by simp [afterClose, htl], echoes_afterClose _, by simp [afterClose], by simp [afterClose],
    fun h => absurd rfl h⟩

theorem Follows.handle {k : Key} {b : Accumulator} {es : List Digit}
    (hk : ∀ t : Session, Follows t a ds → Follows (Halt.endOf (route cfg t k).result) b es)
    (h : Follows s a ds) : Follows (s.handle cfg k).session b es := by
  rw [handle_session]
  exact hk _ h.notice

theorem Follows.run_digits (h : Follows s a ds) (es : List Digit) :
    Follows (s.run cfg (es.map .digit)) a (ds ++ es) := by
  induction es generalizing s ds with
  | nil => simpa using h
  | cons e es ih => simpa using ih (h.handle fun t ht => ht.digit e)

theorem Follows.run_evaluate : ∀ {s : Session} {a b : Accumulator} {ps : List Piece},
    Follows s a [] → Keyable ps → closesFrom a.depth ps = true → evaluate a ps = .ok b →
    (s.run cfg (keysOf ps)).acc = b
  | s, a, b, [], h, _, _, he => by
    simp only [evaluate, Except.ok.injEq] at he
    simpa [← he] using h.acc
  | s, a, b, [.literal ds], h, _, _, he => by
    simp only [evaluate, Except.ok.injEq] at he
    simpa [Piece.keys, ← he] using (h.run_digits ds).acc
  | s, a, b, .literal ds :: .literal es :: _, _, hk, _, _ =>
    absurd rfl (hk.not_literal_head es _)
  | s, a, b, .literal ds :: .openParen :: rest, h, hk, hc, he => by
    have h1 : Follows (s.run cfg (ds.map .digit)) a ds := by simpa using h.run_digits ds
    have h2 : Follows ((s.run cfg (ds.map .digit)).handle cfg (.command .openParen)).session
        a.openParen [] := h1.handle fun t ht => ht.openParen
    simp only [evaluate] at he
    have hc' : closesFrom a.openParen.depth rest = true := by
      simpa [closesFrom, Accumulator.depth, Accumulator.openParen] using hc
    simpa [Piece.keys, run_append] using run_evaluate h2 hk.tail.tail hc' he
  | s, a, b, .literal ds :: .operator op :: rest, h, hk, hc, he => by
    obtain ⟨a', hcm, he⟩ := Except.bind_eq_ok.1 (by simpa only [evaluate] using he)
    have hds := hk.literal_ne_nil
    have h1 : Follows (s.run cfg (ds.map .digit)) a ds := by simpa using h.run_digits ds
    have h2 : Follows ((s.run cfg (ds.map .digit)).handle cfg (.operator op)).session
        (a'.setPending op) [] :=
      h1.handle fun t ht => ht.operator (by simp [Accumulator.commitLiteral, hds, hcm]) op
    have hc' : closesFrom (a'.setPending op).depth rest = true := by
      simpa [closesFrom, Accumulator.depth, Accumulator.setPending,
        Accumulator.frames_of_commit hcm] using hc
    simpa [Piece.keys, run_append] using run_evaluate h2 hk.tail.tail hc' he
  | s, a, b, .literal ds :: .closeParen :: rest, h, hk, hc, he => by
    obtain ⟨a', hcm, he⟩ := Except.bind_eq_ok.1 (by simpa only [evaluate] using he)
    have hds := hk.literal_ne_nil
    have hdepth : a'.depth = a.depth := by
      simp [Accumulator.depth, Accumulator.frames_of_commit hcm]
    simp only [closesFrom, Bool.and_eq_true, bne_iff_ne] at hc
    obtain ⟨inner, outer, b', hp, hb, hb', he⟩ := evaluate_closeParen (hdepth ▸ hc.1) he
    have h1 : Follows (s.run cfg (ds.map .digit)) a ds := by simpa using h.run_digits ds
    have h2 : Follows ((s.run cfg (ds.map .digit)).handle cfg (.command .closeParen)).session b' [] :=
      h1.handle fun t ht => ht.closeParen (by simp [Accumulator.commitLiteral, hds, hcm]) hp hb
    have hc' : closesFrom b'.depth rest = true := by rw [hb', hdepth]; exact hc.2
    simpa [Piece.keys, run_append] using run_evaluate h2 hk.tail.tail hc' he
  | s, a, b, .operator op :: rest, h, hk, hc, he => by
    have h2 : Follows (s.handle cfg (.operator op)).session (a.setPending op) [] :=
      h.handle fun t ht => ht.operator (Accumulator.commitLiteral_nil a) op
    simp only [evaluate] at he
    have hc' : closesFrom (a.setPending op).depth rest = true := by
      simpa [closesFrom, Accumulator.depth, Accumulator.setPending] using hc
    simpa [Piece.keys] using run_evaluate h2 hk.tail hc' he
  | s, a, b, .openParen :: rest, h, hk, hc, he => by
    have h2 : Follows (s.handle cfg (.command .openParen)).session a.openParen [] :=
      h.handle fun t ht => ht.openParen
    simp only [evaluate] at he
    have hc' : closesFrom a.openParen.depth rest = true := by
      simpa [closesFrom, Accumulator.depth, Accumulator.openParen] using hc
    simpa [Piece.keys] using run_evaluate h2 hk.tail hc' he
  | s, a, b, .closeParen :: rest, h, hk, hc, he => by
    simp only [closesFrom, Bool.and_eq_true, bne_iff_ne] at hc
    obtain ⟨inner, outer, b', hp, hb, hb', he⟩ := evaluate_closeParen hc.1 he
    have h2 : Follows (s.handle cfg (.command .closeParen)).session b' [] :=
      h.handle fun t ht => ht.closeParen (Accumulator.commitLiteral_nil a) hp hb
    have hc' : closesFrom b'.depth rest = true := by rw [hb']; exact hc.2
    simpa [Piece.keys] using run_evaluate h2 hk.tail hc' he

end Follows

end Session

theorem router_refines_evaluate (cfg : Settings) (keys : List Key) (ps : List Piece) :
    let s := ({} : Session).run cfg keys
    s.latched = false → s.startNew = true → Keyable ps → closesFrom s.acc.depth ps = true →
    ∀ n b, evaluate s.acc (ps.take n) = .ok b → (s.run cfg (keysOf (ps.take n))).acc = b := by
  intro s hl hn hk hc n b he
  have hs : Session.Follows s s.acc [] :=
    ⟨hl, (Session.Reachable.start.run keys).echoInv hl, rfl, by simp [hn], fun h => absurd rfl h⟩
  exact hs.run_evaluate (hk.take n) (closesFrom_take hc n) he

theorem two_times_three_plus_four_follows_evaluate :
    (({} : Session).run {} (keysOf ([.literal [.numeral 2], .operator .multiply, .openParen,
      .literal [.numeral 3], .operator .add, .literal [.numeral 4], .closeParen,
      .operator .equals].take 8))).acc =
      { result := literalValue [.numeral 2] * (literalValue [.numeral 3] + literalValue [.numeral 4]) } :=
  router_refines_evaluate {} [] [.literal [.numeral 2], .operator .multiply, .openParen,
      .literal [.numeral 3], .operator .add, .literal [.numeral 4], .closeParen,
      .operator .equals] rfl rfl ⟨by decide, by decide⟩ rfl 8 _ rfl

end PocketCalc
