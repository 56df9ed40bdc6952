import PocketCalc.Decimal.Basic
namespace PocketCalc.Binary64

inductive Parts where
  | finite (negative : Bool) (m : Nat) (q : Int)
  | infinity (negative : Bool)
  | nan
  deriving DecidableEq, Repr

def signBit (w : Nat) : Bool := w / Nat.pow 2 63 % 2 = 1

def field (w : Nat) : Nat := w / Nat.pow 2 52 % Nat.pow 2 11

def fraction (w : Nat) : Nat := w % Nat.pow 2 52

def decode (w : Nat) : Parts :=
  if field w = 2047 then (if fraction w = 0 then .infinity (signBit w) else .nan)
  else if field w = 0 then .finite (signBit w) (fraction w) (-1074)
  else .finite (signBit w) (Nat.pow 2 52 + fraction w) ((field w : Int) - 1075)

def parts (x : Float) : Parts := decode x.toBits.toNat

def ofWord (w : Nat) : Float := Float.ofBits w.toUInt64

def infinityWord : Nat := 2047 * Nat.pow 2 52

def infinity : Float := ofWord infinityWord

def nan : Float := ofWord (4095 * Nat.pow 2 51)

def bitLength (n : Nat) : Nat := if n = 0 then 0 else n.log2 + 1

def exponentOf (n d : Nat) : Int :=
  let e : Int := (bitLength n : Int) - bitLength d
  let below := if 0 ≤ e then decide (n < d * Nat.pow 2 e.toNat) else decide (n * Nat.pow 2 (-e).toNat < d)
  if below then e - 1 else e

def nearest (n d : Nat) : Nat :=
  if n = 0 then 0
  else
    let q := max (exponentOf n d - 52) (-1074)
    let m := roundHalfEven (n * Nat.pow 2 (-q).toNat) (d * Nat.pow 2 q.toNat)
    -- a significand rounded up to `2^53` carries into the exponent
    let (m, q) := if m = Nat.pow 2 53 then (Nat.pow 2 52, q + 1) else (m, q)
    if 971 < q then infinityWord
    else if m < Nat.pow 2 52 then m
    else (q + 1075).toNat * Nat.pow 2 52 + (m - Nat.pow 2 52)

def withSign (negative : Bool) (w : Nat) : Nat := if negative then w + Nat.pow 2 63 else w

end PocketCalc.Binary64
