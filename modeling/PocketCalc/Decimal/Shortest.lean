import PocketCalc.Binary64
namespace PocketCalc.Decimal

def lowerEnd (m : Nat) (q : Int) : Nat :=
  if m = Nat.pow 2 52 ∧ -1074 < q then 4 * m - 1 else 4 * m - 2

def readsBack (m : Nat) (q : Int) (a : Nat) (g : Int) : Bool :=
  let lo := cmpScaled a g (lowerEnd m q) (q - 2)
  let hi := cmpScaled a g (4 * m + 2) (q - 2)
  if m % 2 = 0 then lo != .lt && hi != .gt else lo == .gt && hi == .lt

def settleScale (m : Nat) (q : Int) : Nat → Int → Int
  | 0, k => k
  | fuel + 1, k =>
    if cmpScaled 1 k m q != .gt then settleScale m q fuel (k + 1)
    else if cmpScaled 1 (k - 1) m q == .gt then settleScale m q fuel (k - 1)
    else k

def scale (m : Nat) (q : Int) : Int :=
  let e2 : Int := (m.log2 : Int) + q
  settleScale m q 4 (e2 * 78913 / 262144 + 1)

def gridFloor (m : Nat) (q g : Int) : Nat :=
  m * Nat.pow 2 q.toNat * Nat.pow 10 (-g).toNat / (Nat.pow 2 (-q).toNat * Nat.pow 10 g.toNat)

def shortestOf (m : Nat) (q : Int) (k : Int) (n : Nat) : Option Decimal :=
  let g := k - n
  let a := gridFloor m q g
  let below := readsBack m q a g
  let above := readsBack m q (a + 1) g
  if below && above then
    match cmpScaled (2 * a + 1) g (2 * m) q with
    | .lt => some ⟨a + 1, g⟩
    | .gt => some ⟨a, g⟩
    | .eq => some (if a % 2 = 0 then ⟨a, g⟩ else ⟨a + 1, g⟩)
  else if below then some ⟨a, g⟩
  else if above then some ⟨a + 1, g⟩
  else none

def shortest (m : Nat) (q : Int) : Decimal :=
  let k := scale m q
  match (List.range 17).findSome? (fun i => shortestOf m q k (i + 1)) with
  | some x => x.normalize
  | none => (⟨gridFloor m q (k - 17), k - 17⟩ : Decimal).normalize

end PocketCalc.Decimal
