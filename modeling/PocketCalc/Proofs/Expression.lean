import PocketCalc.Proofs.Refinement
namespace PocketCalc

def echoOf : List Piece → List String
  | [] => []
  | .literal _ :: .openParen :: rest => "(" :: echoOf rest
  | .literal ds :: rest => literalText ds :: echoOf rest
  | .operator op :: rest => op.label :: echoOf rest
  | .openParen :: rest => "(" :: echoOf rest
  | .closeParen :: rest => ")" :: echoOf rest

def leadOf (cfg : Settings) (r : Float) : List Piece → List String
  | .operator op :: _ => if op.isBinary then [Session.format cfg r] else []
  | _ => []

def echoPieces (cfg : Settings) (r : Float) (ps : List Piece) : List String :=
  leadOf cfg r ps ++ echoOf ps

def prependDigit (d : Digit) : List Piece → List Piece
  | .literal ds :: ps => .literal (d :: ds) :: ps
  | ps => .literal [d] :: ps

def piecesOf : List Key → List Piece
  | [] => []
  | .digit d :: ks => prependDigit d (piecesOf ks)
  | .operator op :: ks => .operator op :: piecesOf ks
  | .command .openParen :: ks => .openParen :: piecesOf ks
  | .command .closeParen :: ks => .closeParen :: piecesOf ks
  | .command _ :: ks => piecesOf ks

def trailingLiteral : List Piece → List Digit
  | [] => []
  | [.literal ds] => ds
  | _ :: rest => trailingLiteral rest

theorem prependDigit_of_ne {d : Digit} {ps : List Piece} (h : ∀ ds qs, ps ≠ .literal ds :: qs) :
    prependDigit d ps = .literal [d] :: ps := by
  unfold prependDigit
  split
  · rename_i ds qs
    exact absurd rfl (h ds qs)
  · rfl

theorem piecesOf_digits {es : List Digit} (hes : es ≠ []) {ks : List Key}
    (hks : ∀ ds qs, piecesOf ks ≠ .literal ds :: qs) :
    piecesOf (es.map .digit ++ ks) = .literal es :: piecesOf ks := by
  induction es with
  | nil => exact absurd rfl hes
  | cons e es ih =>
    cases es with
    | nil => exact prependDigit_of_ne hks
    | cons e' es =>
      show prependDigit e (piecesOf ((e' :: es).map .digit ++ ks)) = _
      rw [ih (List.cons_ne_nil _ _)]
      rfl

theorem piecesOf_keysOf {ps : List Piece} (hk : Keyable ps) : piecesOf (keysOf ps) = ps := by
  induction ps with
  | nil => rfl
  | cons p rest ih =>
    have hrest := ih hk.tail
    cases p with
    | literal ds =>
      have hds := hk.literal_ne_nil
      have hne : ∀ es qs, piecesOf (keysOf rest) ≠ .literal es :: qs := by
        rw [hrest]
        exact hk.not_literal_head
      rw [keysOf_cons, Piece.keys, piecesOf_digits hds hne, hrest]
    | operator op => simp [Piece.keys, piecesOf, hrest]
    | openParen => simp [Piece.keys, piecesOf, hrest]
    | closeParen => simp [Piece.keys, piecesOf, hrest]

example : piecesOf [.digit (.numeral 1), .digit .point, .digit (.numeral 5), .operator .add,
    .command .openParen] = [.literal [.numeral 1, .point, .numeral 5], .operator .add, .openParen] := by
  decide

inductive TypedPrefix : List Piece → List Piece → Prop
  | nil (ps : List Piece) : TypedPrefix [] ps
  | literal {es ds : List Digit} (ps : List Piece) : es ≠ [] → es <+: ds →
      TypedPrefix [.literal es] (.literal ds :: ps)
  | cons (p : Piece) {qs ps : List Piece} : TypedPrefix qs ps → TypedPrefix (p :: qs) (p :: ps)

theorem exists_typedPrefix (ps : List Piece) (m : Nat) :
    ∃ qs, TypedPrefix qs ps ∧ keysOf qs = (keysOf ps).take m := by
  induction ps generalizing m with
  | nil => exact ⟨[], .nil [], by simp⟩
  | cons p ps ih =>
    rw [keysOf_cons, List.take_append]
    by_cases hm : p.keys.length ≤ m
    · obtain ⟨qs, hq, hk⟩ := ih (m - p.keys.length)
      exact ⟨p :: qs, .cons p hq, by rw [keysOf_cons, hk, List.take_of_length_le hm]⟩
    · rw [show m - p.keys.length = 0 by omega, List.take_zero, List.append_nil]
      rcases Nat.eq_zero_or_pos m with rfl | hpos
      · exact ⟨[], .nil _, by simp⟩
      · cases p with
        | literal ds =>
          have hne : ds.take m ≠ [] := by
            simp only [Piece.keys, List.length_map] at hm
            simp only [ne_eq, List.take_eq_nil_iff, not_or]
            exact ⟨by omega, by rintro rfl; simp at hm⟩
          exact ⟨[.literal (ds.take m)], .literal ps hne (List.take_prefix m ds),
            by simp [Piece.keys, List.map_take]⟩
        | operator op => simp [Piece.keys] at hm; omega
        | openParen => simp [Piece.keys] at hm; omega
        | closeParen => simp [Piece.keys] at hm; omega

section TypedPrefix

variable {qs ps : List Piece}

theorem TypedPrefix.head_isLiteral {q : Piece} {qs : List Piece} (h : TypedPrefix (q :: qs) ps) :
    ∃ p rest, ps = p :: rest ∧ p.isLiteral = q.isLiteral := by
  cases h with
  | literal rest _ _ => exact ⟨_, rest, rfl, rfl⟩
  | cons _ _ => exact ⟨q, _, rfl, rfl⟩

theorem TypedPrefix.keyable (h : TypedPrefix qs ps) (hk : Keyable ps) : Keyable qs := by
  induction h with
  | nil => exact ⟨by simp, .nil⟩
  | literal rest hes _ =>
    exact ⟨by simpa using fun h => hes h, .singleton _⟩
  | @cons p qs ps h ih =>
    have hq := ih hk.tail
    refine ⟨?_, List.isChain_cons.2 ⟨?_, hq.apart⟩⟩
    · intro q hmem
      rcases List.mem_cons.1 hmem with rfl | hmem
      · exact hk.digits q (by simp)
      · exact hq.digits q hmem
    · intro q hq'
      obtain ⟨qs', rfl⟩ := List.head?_eq_some_iff.1 hq'
      obtain ⟨p', rest, rfl, hl⟩ := h.head_isLiteral
      rw [← hl]
      exact (List.isChain_cons_cons.1 hk.apart).1

theorem TypedPrefix.closesFrom (h : TypedPrefix qs ps) {d : Nat} (hc : closesFrom d ps = true) :
    closesFrom d qs = true := by
  induction h generalizing d with
  | nil => rfl
  | literal => rfl
  | cons p h ih =>
    cases p with
    | literal ds => exact ih hc
    | operator op => exact ih hc
    | openParen => exact ih hc
    | closeParen =>
      simp only [PocketCalc.closesFrom, Bool.and_eq_true] at hc ⊢
      exact ⟨hc.1, ih hc.2⟩

theorem TypedPrefix.equals_not_mem (h : TypedPrefix qs ps) (hp : .operator .equals ∉ ps) :
    .operator .equals ∉ qs := by
  induction h with
  | nil => simp
  | literal => simp
  | cons p h ih =>
    simp only [List.mem_cons, not_or] at hp ⊢
    exact ⟨hp.1, ih hp.2⟩

theorem TypedPrefix.evaluate_ok (h : TypedPrefix qs ps) (hk : Keyable ps) :
    ∀ {a b : Accumulator}, evaluate a ps = .ok b → ∃ c, evaluate a qs = .ok c := by
  induction h with
  | nil => exact fun _ => ⟨_, rfl⟩
  | literal => exact fun _ => ⟨_, rfl⟩
  | cons p h ih =>
    intro a b he
    cases p with
    | operator op => exact ih hk.tail (by simpa only [evaluate] using he)
    | openParen => exact ih hk.tail (by simpa only [evaluate] using he)
    | closeParen =>
      simp only [evaluate] at he ⊢
      cases hp : a.closeParen with
      | none =>
        rw [hp] at he
        exact ih hk.tail he
      | some io =>
        obtain ⟨inner, outer⟩ := io
        rw [hp] at he
        obtain ⟨a', hc, he⟩ := Except.bind_eq_ok.1 he
        obtain ⟨c, hc'⟩ := ih hk.tail he
        exact ⟨c, by simp [hc, hc', bind, Except.bind]⟩
    | literal ds =>
      cases h with
      | nil => exact ⟨a, rfl⟩
      | literal rest _ _ => exact absurd rfl (hk.not_literal_head _ rest)
      | cons q h =>
        cases q with
        | literal es => exact absurd rfl (hk.not_literal_head es _)
        | openParen =>
          obtain ⟨c, hc⟩ := ih hk.tail (a := a) (by simpa only [evaluate] using he)
          exact ⟨c, by simpa only [evaluate] using hc⟩
        | operator op =>
          obtain ⟨a', hcm, he⟩ := Except.bind_eq_ok.1 (by simpa only [evaluate] using he)
          obtain ⟨c, hc⟩ := ih hk.tail he
          exact ⟨c, by simp only [evaluate, hcm]; exact hc⟩
        | closeParen =>
          obtain ⟨a', hcm, he⟩ := Except.bind_eq_ok.1 (by simpa only [evaluate] using he)
          obtain ⟨c, hc⟩ := ih hk.tail he
          exact ⟨c, by simp only [evaluate, hcm]; exact hc⟩

end TypedPrefix

theorem evaluate_append_operator (op : Operator) : ∀ {a c : Accumulator} {ps : List Piece},
    Keyable ps → evaluate a (ps ++ [.operator op]) = .ok c →
    ∃ b b', evaluate a ps = .ok b ∧ b.commitLiteral (trailingLiteral ps) = .ok b' ∧
      c = b'.setPending op
  | a, c, [], _, he => ⟨a, a, rfl, Accumulator.commitLiteral_nil a, by simpa [evaluate] using he.symm⟩
  | a, c, [.literal ds], hk, he => by
    have hds := hk.literal_ne_nil
    obtain ⟨b', hb, he⟩ := Except.bind_eq_ok.1
      (by simpa only [List.cons_append, List.nil_append, evaluate] using he)
    refine ⟨a, b', rfl, by simpa [trailingLiteral, Accumulator.commitLiteral, hds] using hb, ?_⟩
    simpa [evaluate] using he.symm
  | a, c, .literal _ :: .literal es :: _, hk, _ => absurd rfl (hk.not_literal_head es _)
  | a, c, .literal ds :: .openParen :: rest, hk, he => by
    obtain ⟨b, b', h1, h2, h3⟩ :=
      evaluate_append_operator op hk.tail.tail (by simpa only [List.cons_append, evaluate] using he)
    exact ⟨b, b', by simpa only [evaluate] using h1, by simpa [trailingLiteral] using h2, h3⟩
  | a, c, .literal ds :: .operator op' :: rest, hk, he => by
    obtain ⟨a', hcm, he⟩ := Except.bind_eq_ok.1 (by simpa only [List.cons_append, evaluate] using he)
    obtain ⟨b, b', h1, h2, h3⟩ := evaluate_append_operator op hk.tail he
    exact ⟨b, b', by simp only [evaluate, hcm]; exact h1, by simpa [trailingLiteral] using h2, h3⟩
  | a, c, .literal ds :: .closeParen :: rest, hk, he => by
    obtain ⟨a', hcm, he⟩ := Except.bind_eq_ok.1 (by simpa only [List.cons_append, evaluate] using he)
    obtain ⟨b, b', h1, h2, h3⟩ := evaluate_append_operator op hk.tail he
    exact ⟨b, b', by simp only [evaluate, hcm]; exact h1, by simpa [trailingLiteral] using h2, h3⟩
  | a, c, .operator op' :: rest, hk, he => by
    obtain ⟨b, b', h1, h2, h3⟩ :=
      evaluate_append_operator op hk.tail (by simpa only [List.cons_append, evaluate] using he)
    exact ⟨b, b', by simpa only [evaluate] using h1, by simpa [trailingLiteral] using h2, h3⟩
  | a, c, .openParen :: rest, hk, he => by
    obtain ⟨b, b', h1, h2, h3⟩ :=
      evaluate_append_operator op hk.tail (by simpa only [List.cons_append, evaluate] using he)
    exact ⟨b, b', by simpa only [evaluate] using h1, by simpa [trailingLiteral] using h2, h3⟩
  | a, c, .closeParen :: rest, hk, he => by
    simp only [List.cons_append, evaluate] at he
    cases hp : a.closeParen with
    | none =>
      rw [hp] at he
      obtain ⟨b, b', h1, h2, h3⟩ := evaluate_append_operator op hk.tail he
      exact ⟨b, b', by simp only [evaluate, hp]; exact h1, by simpa [trailingLiteral] using h2, h3⟩
    | some io =>
      obtain ⟨inner, outer⟩ := io
      rw [hp] at he
      obtain ⟨a', hcm, he⟩ := Except.bind_eq_ok.1 he
      obtain ⟨b, b', h1, h2, h3⟩ := evaluate_append_operator op hk.tail he
      exact ⟨b, b', by simp only [evaluate, hp, hcm]; exact h1, by simpa [trailingLiteral] using h2, h3⟩

namespace Session

variable {cfg : Settings}

def shownLiteral (ds : List Digit) : List String := if ds = [] then [] else [literalText ds]

structure Echoing (s : Session) (a : Accumulator) (ds : List Digit) (xs : List String) : Prop where
  follows : Follows s a ds
  shown : s.expression = xs ++ shownLiteral ds

theorem commitTyped_keeps {s t : Session} (h : (commitTyped cfg s).result = .ok t) :
    t.expression = s.expression ∧ (cfg.historyStyle = .expression → t.history = s.history) := by
  rcases commitTyped_cases cfg s with
    ⟨-, h'⟩ | ⟨-, e, -, h'⟩ | ⟨-, x, acc, -, -, h'⟩ | ⟨-, x, e, -, -, h'⟩ <;> rw [h'] at h
  · cases h
    exact ⟨rfl, fun _ => rfl⟩
  · cases h
  · cases h
    exact ⟨by simp, fun hs => committed_history_expression s x acc hs⟩
  · cases h

theorem inputDigit_expression {s t : Session} (hs : s.Echoes) {d : Digit}
    (h : inputDigit s d = .ok t) :
    t.expression = (if s.echoOpen then s.expression.dropLast else s.expression) ++ [t.entry] := by
  unfold inputDigit at h
  split at h
  · rw [echo_eq (by simpa using hs.nonempty)] at h
    cases h
    rfl
  · rename_i hnew
    have hn : s.startNew = false := by simp_all
    have ho := hs.open_of_typing hn
    split at h
    · cases h
      rw [if_pos ho, List.dropLast_append_getLast? _ (hs.2 ho)]
    · rw [echo_eq (by simpa using fun _ => hs.nonempty ho)] at h
      cases h
      rfl

section Echoing

variable {s : Session} {a : Accumulator} {ds : List Digit} {xs : List String}

theorem Echoing.handle {k : Key} {b : Accumulator} {es : List Digit} {ys : List String}
    (hk : ∀ t : Session, Echoing t a ds xs → Echoing (Halt.endOf (route cfg t k).result) b es ys)
    (h : Echoing s a ds xs) : Echoing (s.handle cfg k).session b es ys := by
  rw [handle_session]
  exact hk _ ⟨h.follows.notice, h.shown⟩

theorem Echoing.closed (h : Echoing s a ds xs) :
    (if s.echoOpen then s.expression.dropLast else s.expression) = xs := by
  rw [h.shown]
  by_cases hds : ds = []
  · simp [h.follows.echoes.closed_of_new (h.follows.fresh.2 hds), hds, shownLiteral]
  · simp [h.follows.echoes.open_of_typing (h.follows.typing hds), hds, shownLiteral]

theorem Echoing.digit (h : Echoing s a ds xs) (d : Digit) :
    Echoing (Halt.endOf (route cfg s (.digit d)).result) a (ds ++ [d]) xs := by
  obtain ⟨t, ht, hf⟩ := h.follows.inputDigit_ok d
  have hr : Halt.endOf (route cfg s (.digit d)).result = t := by
    simp [route, h.follows.unlatched, ht]
  rw [hr]
  refine ⟨hf, ?_⟩
  rw [inputDigit_expression h.follows.echoes ht, hf.entry (by simp), h.closed]
  simp [shownLiteral]

theorem Echoing.run_digits (h : Echoing s a ds xs) (es : List Digit) :
    Echoing (s.run cfg (es.map .digit)) a (ds ++ es) xs := by
  induction es generalizing s ds with
  | nil => simpa using h
  | cons e es ih => simpa using ih (h.handle fun t ht => ht.digit e)

theorem Echoing.operator (h : Echoing s a ds xs) {b : Accumulator} (hc : a.commitLiteral ds = .ok b)
    {op : Operator} (hop : op ≠ .equals) :
    Echoing (Halt.endOf (route cfg s (.operator op)).result) (b.setPending op) []
      (xs ++ shownLiteral ds ++
        ((if xs ++ shownLiteral ds = [] ∧ op.isBinary then [format cfg b.result] else []) ++
          [op.label])) := by
  obtain ⟨t, ht, -, hta⟩ := h.follows.commitTyped_ok cfg hc
  have hr : Halt.endOf (route cfg s (.operator op)).result = afterOperator cfg t op := by
    simp only [route, h.follows.unlatched, Bool.false_eq_true, if_false, inputOperator_result, ht,
      Except.map, Halt.endOf_ok]
  have hf : Follows (Halt.endOf (route cfg s (.operator op)).result) (b.setPending op) [] :=
    h.follows.operator hc op
  rw [hr] at hf ⊢
  refine ⟨hf, ?_⟩
  simp [afterOperator, hop, (commitTyped_keeps ht).1, h.shown, hta, shownLiteral,
    Accumulator.setPending]

theorem Echoing.openParen (h : Echoing s a ds xs) :
    Echoing (Halt.endOf (route cfg s (.command .openParen)).result) a.openParen [] (xs ++ ["("]) := by
  have hr : Halt.endOf (route cfg s (.command .openParen)).result = s.afterOpen := by
    simp only [route, h.follows.unlatched, Bool.false_eq_true, if_false, Step.result_lift,
      openParen_eq h.follows.echoes.nonempty, Halt.endOf_ok]
  have hf : Follows (Halt.endOf (route cfg s (.command .openParen)).result) a.openParen [] :=
    h.follows.openParen
  rw [hr] at hf ⊢
  refine ⟨hf, ?_⟩
  simp [afterOpen, h.closed, shownLiteral]

theorem Echoing.closeParen (h : Echoing s a ds xs) {a' outer b : Accumulator} {inner : Float}
    (hc : a.commitLiteral ds = .ok a') (hp : a'.closeParen = some (inner, outer))
    (hb : outer.commit inner = .ok b) :
    Echoing (Halt.endOf (route cfg s (.command .closeParen)).result) b []
      (xs ++ shownLiteral ds ++ [")"]) := by
  obtain ⟨t, ht, -, hcl⟩ := h.follows.closeParen_ok cfg hc hp hb
  refine ⟨h.follows.closeParen hc hp hb, ?_⟩
  simp only [route, h.follows.unlatched, Bool.false_eq_true, if_false, hcl, Halt.endOf_ok]
  simp [afterClose, (commitTyped_keeps ht).1, h.shown, shownLiteral]

theorem Echoing.equals (h : Echoing s a ds xs) {b : Accumulator} (hc : a.commitLiteral ds = .ok b)
    (hstyle : cfg.historyStyle = .expression) :
    (Halt.endOf (route cfg s (.operator .equals)).result).expression = [] ∧
      (Halt.endOf (route cfg s (.operator .equals)).result).history =
        if xs ++ shownLiteral ds = [] then s.history
        else s.history.add (" ".intercalate (xs ++ shownLiteral ds ++ ["=", format cfg b.result])) := by
  obtain ⟨t, ht, -, hta⟩ := h.follows.commitTyped_ok cfg hc
  obtain ⟨hte, hth⟩ := commitTyped_keeps ht
  have hr : Halt.endOf (route cfg s (.operator .equals)).result = afterOperator cfg t .equals := by
    simp only [route, h.follows.unlatched, Bool.false_eq_true, if_false, inputOperator_result, ht,
      Except.map, Halt.endOf_ok]
  rw [hr]
  refine ⟨by simp [afterOperator], ?_⟩
  have hres : (t.acc.setPending .equals).result = b.result := by rw [hta]; rfl
  by_cases he : xs ++ shownLiteral ds = []
  · simp only [afterOperator, ↓reduceIte, hstyle, hte, h.shown, he, ne_eq, not_true_eq_false,
      and_false, hth hstyle]
  · simp only [afterOperator, ↓reduceIte, hstyle, hte, h.shown, he, ne_eq, not_false_eq_true,
      and_self, hth hstyle, hres]

variable (cfg) in
theorem Echoing.run_echo : ∀ {s : Session} {a b : Accumulator} {xs : List String} {ps : List Piece},
    Echoing s a [] xs → Keyable ps → closesFrom a.depth ps = true → .operator .equals ∉ ps →
    evaluate a ps = .ok b →
    ∃ ys, Echoing (s.run cfg (keysOf ps)) b (trailingLiteral ps) ys ∧
      ys ++ shownLiteral (trailingLiteral ps) =
        xs ++ (if xs = [] then leadOf cfg a.result ps else []) ++ echoOf ps
  | s, a, b, xs, [], h, _, _, _, he => by
    simp only [evaluate, Except.ok.injEq] at he
    subst he
    exact ⟨xs, by simpa [trailingLiteral] using h, by simp [trailingLiteral, shownLiteral, leadOf, echoOf]⟩
  | s, a, b, xs, [.literal ds], h, hk, _, _, he => by
    simp only [evaluate, Except.ok.injEq] at he
    subst he
    have hds := hk.literal_ne_nil
    refine ⟨xs, by simpa [Piece.keys, trailingLiteral] using h.run_digits ds, ?_⟩
    simp [trailingLiteral, shownLiteral, hds, leadOf, echoOf]
  | s, a, b, xs, .literal _ :: .literal es :: _, _, hk, _, _, _ =>
    absurd rfl (hk.not_literal_head es _)
  | s, a, b, xs, .literal ds :: .openParen :: rest, h, hk, hc, hq, he => by
    have h1 : Echoing (s.run cfg (ds.map .digit)) a ds xs := by simpa using h.run_digits ds
    have h2 : Echoing ((s.run cfg (ds.map .digit)).handle cfg (.command .openParen)).session
        a.openParen [] (xs ++ ["("]) := h1.handle fun t ht => ht.openParen
    simp only [evaluate] at he
    have hc' : closesFrom a.openParen.depth rest = true := by
      simpa [closesFrom, Accumulator.depth, Accumulator.openParen] using hc
    obtain ⟨ys, hy, hys⟩ := run_echo h2 hk.tail.tail hc' (fun hm => hq (by simp [hm])) he
    refine ⟨ys, by simpa [Piece.keys, run_append, trailingLiteral] using hy, ?_⟩
    simp only [trailingLiteral] at hys ⊢
    simp [hys, leadOf, echoOf]
  | s, a, b, xs, .literal ds :: .operator op :: rest, h, hk, hc, hq, he => by
    obtain ⟨a', hcm, he⟩ := Except.bind_eq_ok.1 (by simpa only [evaluate] using he)
    have hds := hk.literal_ne_nil
    have hop : op ≠ .equals := fun h => hq (by simp [h])
    have h1 : Echoing (s.run cfg (ds.map .digit)) a ds xs := by simpa using h.run_digits ds
    have h2 : Echoing ((s.run cfg (ds.map .digit)).handle cfg (.operator op)).session
        (a'.setPending op) [] (xs ++ [literalText ds] ++ [op.label]) := by
      refine h1.handle fun t ht => ?_
      simpa [shownLiteral, hds] using
        ht.operator (b := a') (by simp [Accumulator.commitLiteral, hds, hcm]) hop
    have hc' : closesFrom (a'.setPending op).depth rest = true := by
      simpa [closesFrom, Accumulator.depth, Accumulator.setPending,
        Accumulator.frames_of_commit hcm] using hc
    obtain ⟨ys, hy, hys⟩ := run_echo h2 hk.tail.tail hc' (fun hm => hq (by simp [hm])) he
    refine ⟨ys, by simpa [Piece.keys, run_append, trailingLiteral] using hy, ?_⟩
    simp only [trailingLiteral] at hys ⊢
    simp [hys, leadOf, echoOf]
  | s, a, b, xs, .literal ds :: .closeParen :: rest, h, hk, hc, hq, he => by
    obtain ⟨a', hcm, he⟩ := Except.bind_eq_ok.1 (by simpa only [evaluate] using he)
    have hds := hk.literal_ne_nil
    have hdepth : a'.depth = a.depth := by
      simp [Accumulator.depth, Accumulator.frames_of_commit hcm]
    simp only [closesFrom, Bool.and_eq_true, bne_iff_ne] at hc
    obtain ⟨inner, outer, b', hp, hb, hb', he⟩ := evaluate_closeParen (hdepth ▸ hc.1) he
    have h1 : Echoing (s.run cfg (ds.map .digit)) a ds xs := by simpa using h.run_digits ds
    have h2 : Echoing ((s.run cfg (ds.map .digit)).handle cfg (.command .closeParen)).session
        b' [] (xs ++ [literalText ds] ++ [")"]) := by
      refine h1.handle fun t ht => ?_
      simpa [shownLiteral, hds] using
        ht.closeParen (by simp [Accumulator.commitLiteral, hds, hcm]) hp hb
    have hc' : closesFrom b'.depth rest = true := by rw [hb', hdepth]; exact hc.2
    obtain ⟨ys, hy, hys⟩ := run_echo h2 hk.tail.tail hc' (fun hm => hq (by simp [hm])) he
    refine ⟨ys, by simpa [Piece.keys, run_append, trailingLiteral] using hy, ?_⟩
    simp only [trailingLiteral] at hys ⊢
    simp [hys, leadOf, echoOf]
  | s, a, b, xs, .operator op :: rest, h, hk, hc, hq, he => by
    have hop : op ≠ .equals := fun h => hq (by simp [h])
    have h2 : Echoing (s.handle cfg (.operator op)).session (a.setPending op) []
        (xs ++ ((if xs = [] ∧ op.isBinary then [format cfg a.result] else []) ++ [op.label])) := by
      refine h.handle fun t ht => ?_
      simpa [shownLiteral] using ht.operator (Accumulator.commitLiteral_nil a) hop
    simp only [evaluate] at he
    have hc' : closesFrom (a.setPending op).depth rest = true := by
      simpa [closesFrom, Accumulator.depth, Accumulator.setPending] using hc
    obtain ⟨ys, hy, hys⟩ := run_echo h2 hk.tail hc' (fun hm => hq (by simp [hm])) he
    refine ⟨ys, by simpa [Piece.keys, trailingLiteral] using hy, ?_⟩
    simp only [trailingLiteral] at hys ⊢
    by_cases hx : xs = [] <;> simp [hys, hx, leadOf, echoOf]
  | s, a, b, xs, .openParen :: rest, h, hk, hc, hq, he => by
    have h2 : Echoing (s.handle cfg (.command .openParen)).session a.openParen [] (xs ++ ["("]) := by
      refine h.handle fun t ht => ?_
      simpa [shownLiteral] using ht.openParen
    simp only [evaluate] at he
    have hc' : closesFrom a.openParen.depth rest = true := by
      simpa [closesFrom, Accumulator.depth, Accumulator.openParen] using hc
    obtain ⟨ys, hy, hys⟩ := run_echo h2 hk.tail hc' (fun hm => hq (by simp [hm])) he
    refine ⟨ys, by simpa [Piece.keys, trailingLiteral] using hy, ?_⟩
    simp only [trailingLiteral] at hys ⊢
    simp [hys, leadOf, echoOf]
  | s, a, b, xs, .closeParen :: rest, h, hk, hc, hq, he => by
    simp only [closesFrom, Bool.and_eq_true, bne_iff_ne] at hc
    obtain ⟨inner, outer, b', hp, hb, hb', he⟩ := evaluate_closeParen hc.1 he
    have h2 : Echoing (s.handle cfg (.command .closeParen)).session b' [] (xs ++ [")"]) := by
      refine h.handle fun t ht => ?_
      simpa [shownLiteral] using ht.closeParen (Accumulator.commitLiteral_nil a) hp hb
    have hc' : closesFrom b'.depth rest = true := by rw [hb']; exact hc.2
    obtain ⟨ys, hy, hys⟩ := run_echo h2 hk.tail hc' (fun hm => hq (by simp [hm])) he
    refine ⟨ys, by simpa [Piece.keys, trailingLiteral] using hy, ?_⟩
    simp only [trailingLiteral] at hys ⊢
    simp [hys, leadOf, echoOf]

end Echoing

end Session

theorem expression_echoes_calculation (cfg : Settings) (hstyle : cfg.historyStyle = .expression)
    (keys : List Key) (ps : List Piece) :
    let s := ({} : Session).run cfg keys
    s.latched = false → s.startNew = true → s.expression = [] → Keyable ps →
    .operator .equals ∉ ps → closesFrom s.acc.depth ps = true →
    ∀ c, evaluate s.acc (ps ++ [.operator .equals]) = .ok c →
    (∀ m, ((s.run cfg ((keysOf ps).take m)).view cfg).expression =
      " ".intercalate (echoPieces cfg s.acc.result (piecesOf ((keysOf ps).take m)))) ∧
    let t := s.run cfg (keysOf ps)
    let u := (t.handle cfg (.operator .equals)).session
    u.history = (if echoPieces cfg s.acc.result ps = [] then t.history
      else t.history.add (" ".intercalate
        (echoPieces cfg s.acc.result ps ++ ["=", Session.format cfg c.result]))) ∧
    u.expression = [] := by
  intro s hl hn hx hk hq hc c he
  have h0 : Session.Echoing s s.acc [] [] :=
    ⟨⟨hl, (Session.Reachable.start.run keys).echoInv hl, rfl, by simp [hn], fun h => absurd rfl h⟩,
      by simp [hx, Session.shownLiteral]⟩
  obtain ⟨b, b', hb, hb', rfl⟩ := evaluate_append_operator .equals hk he
  refine ⟨fun m => ?_, ?_⟩
  · obtain ⟨qs, hqs, hkeys⟩ := exists_typedPrefix ps m
    have hkq := hqs.keyable hk
    obtain ⟨d, hd⟩ := hqs.evaluate_ok hk hb
    obtain ⟨ys, hy, hys⟩ := Session.Echoing.run_echo cfg h0 hkq (hqs.closesFrom hc) (hqs.equals_not_mem hq) hd
    rw [← hkeys, piecesOf_keysOf hkq]
    show " ".intercalate (s.run cfg (keysOf qs)).expression = _
    rw [hy.shown, hys]
    simp [echoPieces]
  · obtain ⟨ys, hy, hys⟩ := Session.Echoing.run_echo cfg h0 hk hc hq hb
    have hecho : ys ++ Session.shownLiteral (trailingLiteral ps) = echoPieces cfg s.acc.result ps := by
      simp [hys, echoPieces]
    dsimp only
    rw [Session.handle_session]
    obtain ⟨hu, hh⟩ := (show Session.Echoing { s.run cfg (keysOf ps) with notice := none } b
      (trailingLiteral ps) ys from ⟨hy.follows.notice, hy.shown⟩).equals hb' hstyle
    refine ⟨?_, hu⟩
    rw [hh, hecho]
    simp [Accumulator.setPending]

theorem two_times_three_plus_four_echoes :
    (∀ m, ((({} : Session).run {} ((keysOf [.literal [.numeral 2], .operator .multiply, .openParen,
        .literal [.numeral 3], .operator .add, .literal [.numeral 4], .closeParen]).take m)).view
        {}).expression =
      " ".intercalate (echoPieces {} ({} : Session).acc.result
        (piecesOf ((keysOf [.literal [.numeral 2], .operator .multiply, .openParen,
          .literal [.numeral 3], .operator .add, .literal [.numeral 4], .closeParen]).take m)))) ∧
    let t := ({} : Session).run {} (keysOf [.literal [.numeral 2], .operator .multiply, .openParen,
      .literal [.numeral 3], .operator .add, .literal [.numeral 4], .closeParen])
    let u := (t.handle {} (.operator .equals)).session
    u.history = (if echoPieces {} ({} : Session).acc.result [.literal [.numeral 2],
        .operator .multiply, .openParen, .literal [.numeral 3], .operator .add,
        .literal [.numeral 4], .closeParen] = [] then t.history
      else t.history.add (" ".intercalate (echoPieces {} ({} : Session).acc.result
        [.literal [.numeral 2], .operator .multiply, .openParen, .literal [.numeral 3],
          .operator .add, .literal [.numeral 4], .closeParen] ++
        ["=", Session.format {} (literalValue [.numeral 2] *
          (literalValue [.numeral 3] + literalValue [.numeral 4]))]))) ∧
    u.expression = [] :=
  expression_echoes_calculation {} rfl [] [.literal [.numeral 2], .operator .multiply, .openParen,
    .literal [.numeral 3], .operator .add, .literal [.numeral 4], .closeParen] rfl rfl rfl
    ⟨by decide, by decide⟩ (by decide) rfl
    { result := literalValue [.numeral 2] * (literalValue [.numeral 3] + literalValue [.numeral 4]) }
    rfl

end PocketCalc
