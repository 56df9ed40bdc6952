import Mathlib.Data.Fintype.Fin
import Mathlib.Tactic.FinCases
import PocketCalc.Key.Reading
namespace PocketCalc

namespace Text

theorem wordsOf_append_blank {c : Char} (hc : isBlank c = true) (xs ys : List Char) :
    wordsOf (xs ++ c :: ys) = wordsOf xs ++ wordsOf ys := by
  simp only [wordsOf, List.splitOnP_append_cons xs ys hc, List.filter_append]

theorem wordsOf_intercalate (ws : List String) :
    wordsOf (" ".intercalate ws).toList = ws.flatMap fun w => wordsOf w.toList := by
  induction ws with
  | nil => rfl
  | cons w ws ih =>
    cases ws with
    | nil => simp
    | cons u rest =>
      rw [String.intercalate_cons_cons, String.toList_append, String.toList_append,
        show (" " : String).toList = [' '] from rfl, List.append_assoc, List.singleton_append,
        wordsOf_append_blank isBlank_space, ih]
      simp only [List.flatMap_cons]

end Text

namespace Key

theorem foldlM_append_eq {ε α β : Type} (f : α → Except ε (List β)) (init : List β)
    (ws : List α) :
    ws.foldlM (fun acc w => (f w).map (acc ++ ·)) init =
      (ws.mapM f).map fun xss => init ++ xss.flatten := by
  induction ws generalizing init with
  | nil => simp [Except.map, pure, Except.pure]
  | cons w ws ih =>
    rw [List.foldlM_cons, List.mapM_cons]
    cases f w with
    | error e => rfl
    | ok x =>
      show ws.foldlM _ (init ++ x) = _
      rw [ih]
      cases ws.mapM f <;> simp [Except.map, bind, Except.bind, pure, Except.pure]

theorem tokenize_eq (line : String) :
    tokenize line = ((Text.wordsOf line.toList).mapM ofWord).map List.flatten := by
  simp [tokenize, foldlM_append_eq]

theorem mapM_flatMap_flatten {ε α β γ : Type} (f : β → Except ε (List γ)) (g : α → List β)
    (ws : List α) :
    ((ws.flatMap g).mapM f).map List.flatten =
      (ws.mapM fun w => ((g w).mapM f).map List.flatten).map List.flatten := by
  induction ws with
  | nil => rfl
  | cons w ws ih =>
    rw [List.flatMap_cons, List.mapM_append, List.mapM_cons]
    cases (g w).mapM f with
    | error e => rfl
    | ok a =>
      revert ih
      cases (ws.flatMap g).mapM f <;> cases ws.mapM fun w => ((g w).mapM f).map List.flatten <;>
        simp [Except.map, bind, Except.bind, pure, Except.pure]

theorem tokenize_intercalate (ws : List String) :
    tokenize (" ".intercalate ws) = (ws.mapM tokenize).map List.flatten := by
  rw [tokenize_eq, Text.wordsOf_intercalate, mapM_flatMap_flatten]
  simp only [← tokenize_eq]

theorem tokenize_label (k : Key) : tokenize k.label = .ok [k] := by
  rcases k with (n | _) | op | c
  · fin_cases n <;> rfl
  · rfl
  · cases op <;> rfl
  · cases c <;> rfl

theorem tokenize_joined_labels :
    (∀ ks : List Key, tokenize (" ".intercalate (ks.map label)) = .ok ks) ∧
      ∀ ws : List String, tokenize (" ".intercalate ws) = (ws.mapM tokenize).map List.flatten := by
  refine ⟨fun ks => ?_, tokenize_intercalate⟩
  have h : tokenize ∘ label = fun k => (pure [k] : Except UnknownKey (List Key)) :=
    funext tokenize_label
  rw [tokenize_intercalate, List.mapM_map, h, List.mapM_pure]
  show Except.ok (ks.map fun k => [k]).flatten = .ok ks
  rw [← List.flatMap_def, List.flatMap_singleton']

end Key

end PocketCalc
