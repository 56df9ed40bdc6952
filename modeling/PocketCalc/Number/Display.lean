import PocketCalc.Number.Literal
namespace PocketCalc.Number

def infinityText : String := "∞"

def nanText : String := "NaN"

def groupThousands (ds : List Char) : List Char :=
  let rec go : List Char → List Char
    | a :: b :: c :: d :: rest => a :: b :: c :: ',' :: go (d :: rest)
    | rest => rest
  (go ds.reverse).reverse

def fixedChars (units : Nat) (places : Int) (grouping : Bool) : List Char :=
  let (whole, fracDigits) :=
    if 0 < places then
      let p := places.toNat
      (units / Nat.pow 10 p, paddedDigits p (units % Nat.pow 10 p))
    else (units * Nat.pow 10 (-places).toNat, [])
  let frac := (fracDigits.reverse.dropWhile (· = '0')).reverse
  let wholeDigits := decimalDigits whole
  (if grouping then groupThousands wholeDigits else wholeDigits) ++
    (if frac.isEmpty then [] else '.' :: frac)

def placesNeeded (d : Decimal) (places : Int) : Int :=
  if -d.exp < places then max 0 (-d.exp) else places

def display (x : Float) (places : Int) (grouping : Bool) : String :=
  match Binary64.parts x with
  | .nan => nanText
  | .infinity negative => if negative then "-" ++ infinityText else infinityText
  | .finite negative m q =>
    let d := Decimal.shortest m q
    let places := placesNeeded d places
    let units := if m = 0 then 0 else d.roundToPlaces places
    if units = 0 then "0"
    else String.ofList ((if negative then ['-'] else []) ++ fixedChars units places grouping)

def maxExponent : Int := 999999

def basePrecision : Int := 28

inductive DisplayError where
  | overflow
  | invalidOperation
  deriving DecidableEq, Repr

def leadExponent (m : Nat) (q : Int) : Int :=
  if m = 0 then -1 else (Decimal.shortest m q).pointPosition - 1

def roundingFault (lead places : Int) : Option DisplayError :=
  let precision := max basePrecision (lead + places + 2)
  if 2 * (maxExponent + precision) < places.natAbs then some .invalidOperation
  else if maxExponent < -places then some .overflow
  else none

def displayChecked (x : Float) (places : Int) (grouping : Bool) : Except DisplayError String :=
  match Binary64.parts x with
  | .finite _ m q =>
    match roundingFault (leadExponent m q) places with
    | some e => .error e
    | none => .ok (display x places grouping)
  | _ => .ok (display x places grouping)

end PocketCalc.Number
