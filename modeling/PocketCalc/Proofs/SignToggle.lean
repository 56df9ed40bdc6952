import PocketCalc.Proofs.Echo
import PocketCalc.Proofs.Faults
namespace PocketCalc

namespace Number

def Signed (cs : List Char) : Prop :=
  ∃ (negative : Bool) (c : Char) (rest : List Char),
    c ≠ '-' ∧ cs = (if negative then ['-'] else []) ++ c :: rest

theorem toggleSign_signed (negative : Bool) {c : Char} (rest : List Char) (hc : c ≠ '-') :
    toggleSign ((if negative then ['-'] else []) ++ c :: rest) =
      (if !negative then ['-'] else []) ++ c :: rest := by
  cases negative <;> simp [toggleSign, hc]

theorem dropWhile_signed (negative : Bool) {c : Char} (rest : List Char) (hc : c ≠ '-') :
    ((if negative then ['-'] else []) ++ c :: rest).dropWhile (· = '-') = c :: rest := by
  cases negative <;> simp [hc]

theorem Signed.toggleSign_toggleSign {cs : List Char} (h : Signed cs) :
    toggleSign (toggleSign cs) = cs := by
  obtain ⟨negative, c, rest, hc, rfl⟩ := h
  rw [toggleSign_signed negative rest hc, toggleSign_signed (!negative) rest hc,
    Bool.not_not]

theorem Signed.dropWhile_toggleSign {cs : List Char} (h : Signed cs) :
    (toggleSign cs).dropWhile (· = '-') = cs.dropWhile (· = '-') := by
  obtain ⟨negative, c, rest, hc, rfl⟩ := h
  rw [toggleSign_signed negative rest hc, dropWhile_signed _ rest hc,
    dropWhile_signed _ rest hc]

theorem toggleSign_eq_zero_iff (cs : List Char) : toggleSign cs = ['0'] ↔ cs = ['-', '0'] := by
  unfold toggleSign
  split <;> simp_all

theorem EntryText.signed {cs : List Char} (h : EntryText cs) : Signed cs := by
  cases h with
  | @decimal negative w ws frac hw _ _ =>
    refine ⟨negative, w, numeral false ws frac, ne_of_isAsciiDigit hw (by decide), ?_⟩
    cases negative <;> rfl
  | nan negative => exact ⟨negative, 'N', ['a', 'N'], by decide, rfl⟩
  | infinity negative => exact ⟨negative, '∞', [], by decide, rfl⟩
  | fragment hfr =>
    obtain ⟨negative, a, tail, -, rfl⟩ := hfr
    exact ⟨negative, 'N', (if a then ['a'] else []) ++ tail, by decide, rfl⟩

end Number

namespace Session

variable {cfg : Settings}

def toggled (text : String) : String := String.ofList (Number.toggleSign text.toList)

theorem toggled_toggled {text : String} (h : Number.EntryText text.toList) :
    toggled (toggled text) = text := by
  simp [toggled, h.signed.toggleSign_toggleSign]

theorem toggled_eq_zero_iff (text : String) : toggled text = "0" ↔ text = "-0" := by
  have h0 : "0".toList = ['0'] := by decide
  have h1 : "-0".toList = ['-', '0'] := by decide
  rw [toggled, ← String.toList_inj, String.toList_ofList, h0, Number.toggleSign_eq_zero_iff,
    ← h1, String.toList_inj]

def signTurned (s : Session) : Session :=
  { s with entry := toggled s.entry, expression := s.expression.dropLast ++ [toggled s.entry] }

@[simp] theorem signTurned_entry (s : Session) : s.signTurned.entry = toggled s.entry := rfl

theorem unsigned_signTurned {s : Session} (h : s.Shaped) : s.signTurned.unsigned = s.unsigned := by
  simp [unsigned, signTurned, toggled, h.signed.dropWhile_toggleSign]

theorem Echoes.signTurned {s : Session} (hs : s.Echoes) : s.signTurned.Echoes :=
  ⟨hs.1, fun _ => by simp [Session.signTurned]⟩

theorem expression_of_echoes {s : Session} (hs : s.Echoes) (hn : s.startNew = false) :
    s.expression.dropLast ++ [s.entry] = s.expression := by
  obtain ⟨pre, hpre⟩ := List.getLast?_eq_some_iff.1 (hs.2 (hs.open_of_typing hn))
  rw [hpre, List.dropLast_concat]

theorem signTurned_signTurned {s : Session} (hs : s.Echoes) (hsh : s.Shaped)
    (hn : s.startNew = false) : s.signTurned.signTurned = s := by
  simp only [signTurned, List.dropLast_concat, toggled_toggled hsh, expression_of_echoes hs hn]

theorem negate_guarded {s : Session} (hg : s.entry = "0" ∨ s.unsigned = Number.nanText) :
    negate cfg s = .ok s := by
  simp [negate, hg, pure, Except.pure]

theorem negate_typed {s : Session} (hs : s.Echoes) (hn : s.startNew = false)
    (hg : ¬(s.entry = "0" ∨ s.unsigned = Number.nanText)) : negate cfg s = .ok s.signTurned := by
  have ho := hs.open_of_typing hn
  unfold negate
  simp only [Bool.or_eq_true, decide_eq_true_eq, hg, if_false, hn, Bool.false_eq_true, pure_bind]
  rw [echo_eq (by simpa using fun _ => hs.nonempty ho)]
  simp only [ho, if_true, signTurned, toggled, hn]
  split
  · rename_i rest hr
    simp [hr, Number.toggleSign]
  · rename_i cs hne
    rw [Number.toggleSign.eq_2 _ hne]

theorem handle_negate {s : Session} (hl : s.latched = false) (hq : s.notice = none) :
    (s.handle cfg (.command .negate)).session = Halt.endOf (negate cfg s) := by
  cases s
  simp_all [handle_session, route]

theorem handle_negate_twice {s : Session} (hl : s.latched = false) (hq : s.notice = none)
    (hs : s.Echoes) (hsh : s.Shaped) (hn : s.startNew = false) :
    ((s.handle cfg (.command .negate)).session.handle cfg (.command .negate)).session =
      if s.entry = "-0" then s.signTurned else s := by
  by_cases hg : s.entry = "0" ∨ s.unsigned = Number.nanText
  · -- the guard stops both presses, and `-0` is neither `0` nor unsigned NaN
    have hz : s.entry ≠ "-0" := by
      rintro he
      rcases hg with hg | hg <;> simp [he, unsigned, Number.nanText] at hg
    rw [handle_negate hl hq, negate_guarded hg, Halt.endOf_ok, handle_negate hl hq,
      negate_guarded hg, Halt.endOf_ok, if_neg hz]
  · rw [handle_negate hl hq, negate_typed hs hn hg, Halt.endOf_ok,
      handle_negate (s := s.signTurned) hl hq]
    by_cases hz : s.entry = "-0"
    · have h0 : s.signTurned.entry = "0" := (toggled_eq_zero_iff _).2 hz
      rw [negate_guarded (.inl h0), Halt.endOf_ok, if_pos hz]
    · have hg' : ¬(s.signTurned.entry = "0" ∨ s.signTurned.unsigned = Number.nanText) := by
        rw [signTurned_entry, toggled_eq_zero_iff, unsigned_signTurned hsh]
        exact fun h => h.elim hz fun hu => hg (.inr hu)
      rw [negate_typed hs.signTurned hn hg', Halt.endOf_ok, signTurned_signTurned hs hsh hn,
        if_neg hz]

theorem negate_twice {s : Session} (h : Reachable cfg s) (hl : s.latched = false)
    (hn : s.startNew = false) :
    ((s.handle cfg (.command .negate)).session.handle cfg (.command .negate)).session =
      if s.entry = "-0" then
        { s with notice := none, entry := "0", expression := s.expression.dropLast ++ ["0"] }
      else { s with notice := none } := by
  have hc : (s.handle cfg (.command .negate)).session =
      (({ s with notice := none } : Session).handle cfg (.command .negate)).session := rfl
  rw [hc, handle_negate_twice (s := { s with notice := none }) hl rfl (h.echoInv hl) h.shaped hn]
  by_cases hz : s.entry = "-0"
  · rw [if_pos hz, if_pos hz]
    simp only [signTurned, (toggled_eq_zero_iff _).2 hz]
  · rw [if_neg hz, if_neg hz]

theorem negate_twice_restores_negative :
    let s := ({} : Session).run {} [.digit (.numeral 4), .digit (.numeral 2), .command .negate]
    s.latched = false ∧ s.startNew = false ∧
      ((s.handle {} (.command .negate)).session.handle {} (.command .negate)).session =
        { s with notice := none } := by
  intro s
  have hl : s.latched = false := by decide +kernel
  have hn : s.startNew = false := by decide +kernel
  have hz : s.entry ≠ "-0" := by decide +kernel
  refine ⟨hl, hn, ?_⟩
  rw [negate_twice (Reachable.start.run _) hl hn, if_neg hz]

theorem negate_twice_loses_negative_zero :
    let s := ({} : Session).run {} [.digit (.numeral 0), .digit .point, .digit (.numeral 5),
      .command .negate, .command .backspace, .command .backspace]
    s.entry = "-0" ∧ s.latched = false ∧ s.startNew = false ∧
      ((s.handle {} (.command .negate)).session.handle {} (.command .negate)).session.entry =
        "0" := by
  decide +kernel

end Session

end PocketCalc
