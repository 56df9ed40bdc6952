import PocketCalc.Decimal.Shortest
namespace PocketCalc.Number

def paddedDigits (width n : Nat) : List Char :=
  let ds := decimalDigits n
  List.replicate (width - ds.length) '0' ++ ds

def layout (x : Decimal) : List Char :=
  let ds := decimalDigits x.coeff
  let point := x.pointPosition
  if -4 < point ∧ point ≤ 16 then
    if point ≤ 0 then '0' :: '.' :: List.replicate (-point).toNat '0' ++ ds
    else if ds.length ≤ point.toNat then ds ++ List.replicate (point.toNat - ds.length) '0' ++ ['.', '0']
    else ds.take point.toNat ++ '.' :: ds.drop point.toNat
  else
    let e := point - 1
    let mantissa := match ds with
      | [] => ['0']
      | [d] => [d]
      | d :: rest => d :: '.' :: rest
    mantissa ++ 'e' :: (if e < 0 then '-' else '+') :: paddedDigits 2 e.natAbs

def literalChars (x : Float) : List Char :=
  match Binary64.parts x with
  | .nan => "nan".toList
  | .infinity negative => if negative then "-inf".toList else "inf".toList
  | .finite negative m q =>
    let body := if m = 0 then ['0', '.', '0'] else layout (Decimal.shortest m q)
    if negative then '-' :: body else body

def literal (x : Float) : String := String.ofList (literalChars x)

end PocketCalc.Number
