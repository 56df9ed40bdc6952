import PocketCalc.Number.Reading
namespace PocketCalc.Number

def wholeDigitLimit : Nat := 4300

inductive WholeError where
  | literal (text : List Text.CodePoint)
  | digitLimit (count : Nat)
  | nan
  | infinite
  | argument (kind : String)
  deriving DecidableEq, Repr

def WholeError.message : WholeError → String
  | .literal text =>
    "invalid literal for int() with base 10: " ++ String.ofList ((Text.quotePoints text).take 200)
  | .digitLimit count =>
    "Exceeds the limit (" ++ toString wholeDigitLimit ++
      " digits) for integer string conversion: value has " ++ toString count ++
      " digits; use sys.set_int_max_str_digits() to increase the limit"
  | .nan => "cannot convert float NaN to integer"
  | .infinite => "cannot convert float infinity to integer"
  | .argument kind =>
    "int() argument must be a string, a bytes-like object or a real number, not '" ++ kind ++ "'"

def WholeError.className : WholeError → String
  | .infinite => "OverflowError"
  | .argument _ => "TypeError"
  | _ => "ValueError"

def digitRun (cs : List Char) : Option (List Char × List Char) :=
  let run := cs.takeWhile fun c => isAsciiDigit c || c = '_'
  let rest := cs.dropWhile fun c => isAsciiDigit c || c = '_'
  if run.head? = some '_' || run.getLast? = some '_' || (run.zip run.tail).any (fun p => p.1 = '_' && p.2 = '_')
  then none
  else some (run.filter (· ≠ '_'), rest)

def readWhole (text : String) : Except WholeError Int :=
  match text.toList.mapM asciiForm with
  | none => .error (.literal (Text.CodePoint.ofString text))
  | some cs =>
    let cs := cs.dropWhile isAsciiSpace
    let (negative, cs) := match cs with
      | '-' :: r => (true, r)
      | '+' :: r => (false, r)
      | r => (false, r)
    match digitRun cs with
    | none => .error (.literal (Text.CodePoint.ofString text))
    | some (ds, rest) =>
      if wholeDigitLimit < ds.length then .error (.digitLimit ds.length)
      else if ds.isEmpty || !(rest.all isAsciiSpace) then
        .error (.literal (Text.CodePoint.ofString text))
      else
        let n : Int := digitsValue ds
        .ok (if negative then -n else n)

def truncate (x : Float) : Except WholeError Int :=
  match Binary64.parts x with
  | .nan => .error .nan
  | .infinity _ => .error .infinite
  | .finite negative m q =>
    let n : Int := (m * Nat.pow 2 q.toNat / Nat.pow 2 (-q).toNat : Nat)
    .ok (if negative then -n else n)

end PocketCalc.Number
