import PocketCalc.Binary64
namespace PocketCalc.Decimal

def toWord (x : Decimal) : Nat :=
  if x.coeff = 0 then 0
  else if 310 < x.pointPosition then Binary64.infinityWord
  else if x.pointPosition < -330 then 0
  else Binary64.nearest (x.coeff * Nat.pow 10 x.exp.toNat) (Nat.pow 10 (-x.exp).toNat)

def toFloat (negative : Bool) (x : Decimal) : Float :=
  Binary64.ofWord (Binary64.withSign negative x.toWord)

end PocketCalc.Decimal

namespace PocketCalc

def floatOfInt (n : Int) : Float := Decimal.toFloat (n < 0) ⟨n.natAbs, 0⟩

end PocketCalc
