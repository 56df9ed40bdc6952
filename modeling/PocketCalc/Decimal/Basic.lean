namespace PocketCalc

structure Decimal where
  coeff : Nat
  exp : Int
  deriving DecidableEq, Repr

def roundHalfEven (n d : Nat) : Nat :=
  let q := n / d
  let r := n % d
  if 2 * r < d then q
  else if d < 2 * r then q + 1
  else if q % 2 = 0 then q else q + 1

def cmpScaled (a : Nat) (i : Int) (n : Nat) (j : Int) : Ordering :=
  compare (a * Nat.pow 10 i.toNat * Nat.pow 2 (-j).toNat) (n * Nat.pow 2 j.toNat * Nat.pow 10 (-i).toNat)

def digitCount (n : Nat) : Nat :=
  if n = 0 then 0 else digitCount (n / 10) + 1
decreasing_by omega

def decimalDigits (n : Nat) : List Char := Nat.toDigits 10 n

namespace Decimal

def normalize (x : Decimal) : Decimal :=
  if x.coeff ≠ 0 ∧ x.coeff % 10 = 0 then normalize ⟨x.coeff / 10, x.exp + 1⟩ else x
termination_by x.coeff
decreasing_by omega

def pointPosition (x : Decimal) : Int := (digitCount x.coeff : Int) + x.exp

def roundToPlaces (x : Decimal) (places : Int) : Nat :=
  let shift := x.exp + places
  if 0 ≤ shift then x.coeff * Nat.pow 10 shift.toNat
  else roundHalfEven x.coeff (Nat.pow 10 (-shift).toNat)

end Decimal

end PocketCalc
