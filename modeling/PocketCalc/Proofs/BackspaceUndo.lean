import PocketCalc.Proofs.EntryShape
namespace PocketCalc.Session

variable {cfg : Settings}

def digitTyped (s : Session) (d : Digit) : Session :=
  { s with entry := s.entry ++ d.label,
           expression := s.expression.dropLast ++ [s.entry ++ d.label] }

theorem dropLast_append_label (text : String) (d : Digit) :
    String.ofList (text ++ d.label).toList.dropLast = text := by
  simp [Digit.label]

theorem inputDigit_onto {s : Session} (hs : s.Echoes) (hn : s.startNew = false)
    (hnum : s.entryIsNumber = true) {d : Digit} (hd : d = .point → '.' ∉ s.entry.toList) :
    inputDigit s d = .ok (s.digitTyped d) := by
  have ho := hs.open_of_typing hn
  have hpoint : ¬(d = .point ∧ '.' ∈ s.entry.toList) := fun h => hd h.1 h.2
  unfold inputDigit
  simp only [hn, hnum, Bool.not_true, Bool.or_false, Bool.false_eq_true, if_false]
  rw [if_neg (by simpa using hpoint), echo_eq (by simpa using fun _ => hs.nonempty ho)]
  simp [digitTyped, ho, hn]

theorem backspace_digitTyped {s : Session} (hs : s.Echoes) (hn : s.startNew = false)
    (hsh : Number.EntryShape s.entry.toList) (d : Digit) :
    backspace (s.digitTyped d) = .ok s := by
  have ho := hs.open_of_typing hn
  have hne : s.entry ≠ "" := fun h => hsh.ne_nil (by simp [h])
  have hnm : s.entry ≠ "-" := fun h => hsh.ne_minus (by simp [h])
  unfold backspace
  simp only [digitTyped, hn, Bool.false_eq_true, if_false, dropLast_append_label]
  rw [if_neg (by simp [hne, hnm]), echo_eq (by simp [ho])]
  simp only [ho, if_true, List.dropLast_concat, expression_of_echoes hs hn]
  rw [← hn, ← ho]

theorem backspace_undoes_digit {s : Session} (h : Reachable cfg s) (hl : s.latched = false)
    (hn : s.startNew = false) (hnum : s.entryIsNumber = true) {d : Digit}
    (hd : d = .point → '.' ∉ s.entry.toList) :
    ((s.handle cfg (.digit d)).session.handle cfg (.command .backspace)).session =
        { s with notice := none } ∧
      (s.handle cfg (.digit d)).fault = none ∧
      ((s.handle cfg (.digit d)).session.handle cfg (.command .backspace)).fault = none := by
  have hc : s.handle cfg (.digit d) = ({ s with notice := none } : Session).handle cfg (.digit d) :=
    rfl
  have hs : ({ s with notice := none } : Session).Echoes := h.echoInv hl
  have hsh : Number.EntryShape s.entry.toList := h.shaped.shape h.pointOnce
  have hl' : ({ s with notice := none } : Session).latched = false := hl
  obtain ⟨h1, hf1⟩ := handle_of_quiet cfg (s := { s with notice := none }) rfl (.digit d)
  rw [route_digit_of_unlatched hl', inputDigit_onto hs hn hnum hd] at h1 hf1
  have ht : (({ s with notice := none } : Session).digitTyped d).latched = false := hl
  obtain ⟨h2, hf2⟩ := handle_of_quiet cfg (s := ({ s with notice := none } : Session).digitTyped d)
    rfl (.command .backspace)
  rw [route_backspace_of_unlatched ht, backspace_digitTyped hs hn hsh d] at h2 hf2
  rw [hc, h1, Halt.endOf_ok]
  exact ⟨h2, hf1, hf2⟩

theorem backspace_undoes_point_on_negated_result :
    let s := ({} : Session).run {} [.digit (.numeral 7), .operator .multiply,
      .digit (.numeral 8), .operator .equals, .command .negate]
    s.latched = false ∧ s.startNew = false ∧ s.entryIsNumber = true ∧
      (Digit.point = .point → '.' ∉ s.entry.toList) ∧
      ((s.handle {} (.digit .point)).session.handle {} (.command .backspace)).session =
          { s with notice := none } ∧
        (s.handle {} (.digit .point)).fault = none ∧
        ((s.handle {} (.digit .point)).session.handle {} (.command .backspace)).fault = none :=
  have hl : (({} : Session).run {} [.digit (.numeral 7), .operator .multiply,
      .digit (.numeral 8), .operator .equals, .command .negate]).latched = false := by decide +kernel
  have hn : (({} : Session).run {} [.digit (.numeral 7), .operator .multiply,
      .digit (.numeral 8), .operator .equals, .command .negate]).startNew = false := by decide +kernel
  have hnum : (({} : Session).run {} [.digit (.numeral 7), .operator .multiply,
      .digit (.numeral 8), .operator .equals, .command .negate]).entryIsNumber = true := by
    decide +kernel
  have hd : Digit.point = .point → '.' ∉ (({} : Session).run {} [.digit (.numeral 7),
      .operator .multiply, .digit (.numeral 8), .operator .equals, .command .negate]).entry.toList :=
    fun _ => by decide +kernel
  ⟨hl, hn, hnum, hd, backspace_undoes_digit (Reachable.start.run _) hl hn hnum hd⟩

end PocketCalc.Session
