import PocketCalc.Accumulator
namespace PocketCalc.Accumulator

namespace Call

def depthAfter : Call → Nat → Option Nat
  | .openParen, n => some (n + 1)
  | .closeParen, 0 => none
  | .closeParen, n + 1 => some n
  | _, n => some n

def unclosed (n : Nat) : List Call → Option Nat
  | [] => some n
  | c :: cs => (c.depthAfter n).bind fun m => unclosed m cs

end Call

theorem closeParen_of_frames {a : Accumulator} {f : Frame} {rest : List Frame}
    (h : a.frames = f :: rest) :
    a.closeParen = some (a.result, { a with result := f.result, pending := f.pending, frames := rest }) := by
  simp [closeParen, h]

theorem frames_perform_of_plain {c : Call} (ho : c ≠ .openParen) (hc : c ≠ .closeParen)
    (hr : c ≠ .reset) (a : Accumulator) : (a.perform c).frames = a.frames := by
  cases c
  case commit x =>
    cases h : a.commit x with
    | ok b => simpa only [perform, h] using frames_of_commit h
    | error e => simp only [perform, h]
  case openParen => exact absurd rfl ho
  case closeParen => exact absurd rfl hc
  case reset => exact absurd rfl hr
  all_goals rfl

theorem frames_perform {a : Accumulator} {c : Call} (hr : c ≠ .reset) {F base : List Frame}
    (ha : a.frames = F ++ base) {m : Nat} (hm : c.depthAfter F.length = some m) :
    ∃ G, (a.perform c).frames = G ++ base ∧ G.length = m := by
  cases c
  case openParen =>
    obtain rfl : F.length + 1 = m := by simpa [Call.depthAfter] using hm
    exact ⟨⟨a.result, a.pending⟩ :: F, by simp [perform, openParen, ha], rfl⟩
  case closeParen =>
    obtain _ | ⟨f, F⟩ := F
    · simp [Call.depthAfter] at hm
    · obtain rfl : F.length = m := by simpa [Call.depthAfter] using hm
      exact ⟨F, by simp [perform, closeParen_of_frames ha], rfl⟩
  case reset => exact absurd rfl hr
  all_goals
    obtain rfl : F.length = m := by simpa [Call.depthAfter] using hm
    exact ⟨F, by rw [frames_perform_of_plain (by simp) (by simp) (by simp), ha], rfl⟩

theorem frames_performAll {cs : List Call} (hr : Call.reset ∉ cs) {a : Accumulator}
    {F base : List Frame} (ha : a.frames = F ++ base) {m : Nat}
    (hm : Call.unclosed F.length cs = some m) :
    ∃ G, (a.performAll cs).frames = G ++ base ∧ G.length = m := by
  induction cs generalizing a F with
  | nil =>
    obtain rfl : F.length = m := by simpa [Call.unclosed] using hm
    exact ⟨F, ha, rfl⟩
  | cons c cs ih =>
    simp only [List.mem_cons, not_or] at hr
    obtain ⟨k, hk, hrest⟩ := Option.bind_eq_some_iff.1 hm
    obtain ⟨G, hG, rfl⟩ := frames_perform (Ne.symm hr.1) ha hk
    exact ih hr.2 hG hrest

theorem paren_restores_outer (a : Accumulator) {cs : List Call} (hr : Call.reset ∉ cs) {j : Nat}
    (hj : Call.unclosed 0 cs = some j) :
    (∃ c, (a.openParen.performAll cs).closeParen = some ((a.openParen.performAll cs).result, c) ∧
      (∃ G, c.frames = G ++ a.frames ∧ G.length = j) ∧
      (j = 0 → c = { a with memory := (a.openParen.performAll cs).memory })) ∧
    ∀ d : Accumulator, d.frames = [] → d.closeParen = none ∧ d.perform .closeParen = d := by
  refine ⟨?_, fun d hd => ⟨closeParen_eq_none.2 hd, by simp [perform, closeParen_eq_none.2 hd]⟩⟩
  have hpushed : a.openParen.frames = [] ++ ⟨a.result, a.pending⟩ :: a.frames := rfl
  obtain ⟨G, hG, hlen⟩ := frames_performAll hr hpushed hj
  cases G with
  | nil =>
    subst hlen
    exact ⟨_, closeParen_of_frames hG, ⟨[], rfl, rfl⟩, fun _ => rfl⟩
  | cons g G =>
    refine ⟨_, closeParen_of_frames hG, ⟨G ++ [⟨a.result, a.pending⟩], by simp, ?_⟩, ?_⟩
    · simpa using hlen
    · intro hj0
      simp [hj0] at hlen

theorem refused_division_inside_restores_outer :
    let a : Accumulator := { result := 2, pending := .multiply }
    let cs : List Call :=
      [.commit 3, .openParen, .setPending .divide, .commit 0, .closeParen, .memoryAdd 1]
    Call.reset ∉ cs ∧ Call.unclosed 0 cs = some 0 ∧
      ((∃ c, (a.openParen.performAll cs).closeParen = some ((a.openParen.performAll cs).result, c) ∧
        (∃ G, c.frames = G ++ a.frames ∧ G.length = 0) ∧
        (0 = 0 → c = { a with memory := (a.openParen.performAll cs).memory })) ∧
      ∀ d : Accumulator, d.frames = [] → d.closeParen = none ∧ d.perform .closeParen = d) :=
  ⟨by simp, rfl, paren_restores_outer _ (by simp) rfl⟩

theorem open_among_calls_keeps_outer_frame :
    Call.reset ∉ [Call.openParen] ∧ Call.unclosed 0 [.openParen] = some 1 ∧
      ({} : Accumulator).depth = 0 ∧
      (({} : Accumulator).openParen.performAll [.openParen]).closeParen.map (·.2.depth) = some 1 :=
  ⟨by simp, rfl, rfl, rfl⟩

end PocketCalc.Accumulator
