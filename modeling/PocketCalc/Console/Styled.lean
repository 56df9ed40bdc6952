import PocketCalc.Text.Cells
namespace PocketCalc.Console

open Text

structure Styled where
  chars : List Char
  stretches : List (Nat × Nat) := []
  deriving Repr

def isDropped (c : Char) : Bool :=
  c.toNat = 7 || c.toNat = 8 || c.toNat = 11 || c.toNat = 12 || c.toNat = 13

def droppedBefore (cs : List Char) (i : Nat) : Nat := (cs.take i).countP isDropped

def Styled.dropControls (s : Styled) : Styled where
  chars := s.chars.filter (!isDropped ·)
  stretches := s.stretches.map fun (a, b) =>
    (a - droppedBefore s.chars a, b - droppedBefore s.chars b)

def Styled.slice (s : Styled) (a b : Nat) : Styled where
  chars := (s.chars.drop a).take (b - a)
  stretches := s.stretches.filterMap fun (x, y) =>
    let x' := max x a - a
    let y' := min y b - a
    if x' < y' then some (x', y') else none

def Styled.withChars (s : Styled) (cs : List Char) : Styled where
  chars := cs
  stretches := s.stretches.filterMap fun (x, y) =>
    if x < cs.length then some (x, min y cs.length) else none

def Styled.padRight (s : Styled) (n : Nat) : Styled :=
  { s with chars := s.chars ++ List.replicate n ' ' }

def Styled.padLeft (s : Styled) (n : Nat) : Styled where
  chars := List.replicate n ' ' ++ s.chars
  stretches := s.stretches.map fun (x, y) => (x + n, y + n)

def Styled.cuts (s : Styled) : List Nat :=
  ((s.stretches.flatMap fun (x, y) => [x, y]).filter fun p => 0 < p && p < s.chars.length).mergeSort

def piecesBetween (cs : List Char) : List Nat → List (List Char)
  | a :: b :: rest => (cs.drop a).take (b - a) :: piecesBetween cs (b :: rest)
  | _ => []

def Styled.segments (s : Styled) : List (List Char) :=
  (piecesBetween s.chars (0 :: s.cuts ++ [s.chars.length])).filter (!·.isEmpty)

theorem segments_unstyled (cs : List Char) (h : cs ≠ []) :
    (Styled.mk cs []).segments = [cs] := by
  simp [Styled.segments, Styled.cuts, piecesBetween, h]

end PocketCalc.Console
