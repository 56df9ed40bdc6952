import PocketCalc.Text.Blank
import PocketCalc.Console.Styled
namespace PocketCalc.Console

open Text

inductive Overflow where
  | fold
  | ellipsis
  deriving DecidableEq, Repr

inductive Justify where
  | plain
  | left
  | center
  deriving DecidableEq, Repr

def dropControls (cs : List Char) : List Char := cs.filter (!isDropped ·)

def spaces (n : Nat) : List Char := List.replicate n ' '

def joinTabbed (column : Nat) : List (List Char) → List Char
  | [] => []
  | [p] => p
  | p :: ps =>
    let reached := column + cellsOf (p ++ [' '])
    let pad := if reached % 8 = 0 then 0 else 8 - reached % 8
    p ++ ' ' :: spaces pad ++ joinTabbed (reached + pad) ps

def expandTabChars (cs : List Char) : List Char := joinTabbed 0 (cs.splitOn '\t')

def tabStops (column start : Nat) : List (List Char) → List (Nat × Nat)
  | [] => []
  | [_] => []
  | p :: ps =>
    let reached := column + cellsOf (p ++ [' '])
    let pad := if reached % 8 = 0 then 0 else 8 - reached % 8
    (start + p.length + 1, pad) :: tabStops (reached + pad) (start + p.length + 1) ps

def Styled.expandTabs (s : Styled) : Styled :=
  let stops := tabStops 0 0 (s.chars.splitOn '\t')
  let moved (o : Nat) : Nat := o + (stops.filter (·.1 ≤ o)).foldr (fun st n => st.2 + n) 0
  { chars := expandTabChars s.chars,
    stretches := s.stretches.flatMap fun (x, y) =>
      let bounds := x :: (stops.map (·.1)).filter (fun p => x < p && p < y) ++ [y]
      (bounds.zip bounds.tail).map fun (a, b) => (moved a, moved b) }

def trimEnd (cs : List Char) : List Char := (cs.reverse.dropWhile isBlank).reverse

def wordsFrom (start : Nat) : Nat → List Char → List (Nat × List Char)
  | 0, _ => []
  | fuel + 1, cs =>
    let lead := cs.takeWhile isBlank
    let core := (cs.drop lead.length).takeWhile (!isBlank ·)
    if core.isEmpty then []
    else
      let trail := (cs.drop (lead.length + core.length)).takeWhile isBlank
      let w := lead ++ core ++ trail
      (start, w) :: wordsFrom (start + w.length) fuel (cs.drop w.length)

def words (cs : List Char) : List (Nat × List Char) := wordsFrom 0 (cs.length + 1) cs

def chop (width : Nat) (line : List Char) (used : Nat) (done : List (List Char)) :
    List Cluster → List (List Char)
  | [] => (if used = 0 then done else line :: done).reverse
  | k :: ks =>
    if width < used + k.width then chop width k.chars k.width (line :: done) ks
    else chop width (line ++ k.chars) (used + k.width) done ks

def foldBreaks (start : Nat) : List (List Char) → List Nat × Nat
  | [] => ([], 0)
  | [p] => ((if start = 0 then [] else [start]), cellsOf p)
  | p :: ps =>
    let (bs, last) := foldBreaks (start + p.length) ps
    ((if start = 0 then [] else [start]) ++ bs, last)

def breaksOf (width : Nat) (fold : Bool) (used : Nat) : List (Nat × List Char) → List Nat
  | [] => []
  | (start, w) :: ws =>
    let visible := cellsOf (trimEnd w)
    if used + visible ≤ width then breaksOf width fold (used + cellsOf w) ws
    else if width < visible then
      if fold then
        let (bs, last) := foldBreaks start (chop width [] 0 [] (clusters w))
        bs ++ breaksOf width fold last ws
      else (if start = 0 then [] else [start]) ++ breaksOf width fold (cellsOf w) ws
    else if used ≠ 0 && start ≠ 0 then start :: breaksOf width fold (cellsOf w) ws
    else breaksOf width fold used ws

def Styled.divide (s : Styled) (offsets : List Nat) : List Styled :=
  let bounds := 0 :: offsets ++ [s.chars.length]
  (bounds.zip bounds.tail).map fun (a, b) => s.slice a b

def trimPast (size : Nat) (cs : List Char) : List Char :=
  if size < cs.length then
    let trailing := (cs.reverse.takeWhile isBlank).length
    cs.take (cs.length - min trailing (cs.length - size))
  else cs

def cutClusters (total : Nat) (used : Nat) : List Cluster → List Char
  | [] => []
  | k :: ks =>
    if used + k.width ≤ total then k.chars ++ cutClusters total (used + k.width) ks
    else if used = total then []
    else [' ']

def setCells (total : Nat) (cs : List Char) : List Char :=
  if total = 0 then []
  else
    let size := cellsOf cs
    if size = total then cs
    else if size < total then cs ++ spaces (total - size)
    else cutClusters total 0 (clusters cs)

def truncate (width : Nat) (overflow : Overflow) (pad : Bool) (s : Styled) : Styled :=
  let size := cellsOf s.chars
  let cut :=
    if width < size then
      match overflow with
      | .ellipsis => s.withChars (setCells (width - 1) s.chars ++ ['…'])
      | .fold => s.withChars (setCells width s.chars)
    else s
  if pad && size < width then cut.padRight (width - size) else cut

def justifyLine (width : Nat) (overflow : Overflow) : Justify → Styled → Styled
  | .plain, s => s
  | .left, s => truncate width overflow true s
  | .center, s =>
    let s := truncate width overflow false (s.withChars (trimEnd s.chars))
    let room := width - cellsOf s.chars
    (s.padLeft (room / 2)).padRight (room - room / 2)

def layoutLine (width : Nat) (justify : Justify) (overflow : Overflow) (line : Styled) :
    List Styled :=
  let line := if line.chars.contains '\t' then line.expandTabs else line
  let pieces := line.divide (breaksOf width (overflow = .fold) 0 (words line.chars))
  pieces.map fun p =>
    let p := p.withChars (trimPast width p.chars)
    truncate width overflow false (justifyLine width overflow justify p)

def Styled.lines (s : Styled) : List Styled :=
  let breaks := (s.chars.zipIdx.filter (·.1 = '\n')).map (·.2)
  ((0 :: breaks.map (· + 1)).zip (breaks ++ [s.chars.length])).map fun (a, b) => s.slice a b

def layoutStyled (width : Nat) (justify : Justify) (overflow : Overflow) (s : Styled) :
    List Styled :=
  s.lines.flatMap (layoutLine width justify overflow)

def layout (width : Nat) (justify : Justify) (overflow : Overflow) (text : String) : List String :=
  let lines := layoutStyled width justify overflow ⟨dropControls text.toList, []⟩
  lines.map (String.ofList ·.chars)

def cropSegments (width used : Nat) : List (List Char) → List Char
  | [] => []
  | g :: gs =>
    if used + cellsOf g < width then g ++ cropSegments width (used + cellsOf g) gs
    else setCells (width - used) g

def fitSegments (width : Nat) (pad : Bool) (segs : List (List Char)) : List Char :=
  let total := segs.foldr (fun g n => cellsOf g + n) 0
  if width < total then cropSegments width 0 segs
  else if pad && total < width then segs.flatten ++ spaces (width - total)
  else segs.flatten

def printedLines (width : Nat) (justify : Justify) (overflow : Overflow) (pad : Bool)
    (s : Styled) : List String :=
  (layoutStyled width justify overflow s).map fun l =>
    String.ofList (fitSegments width pad l.segments)

def widthOf (text : String) : Nat :=
  (((dropControls text.toList).splitOn '\n').map cellsOf).foldl max 0

end PocketCalc.Console
