import PocketCalc.Decimal.Nearest
import PocketCalc.Number.Display
import PocketCalc.Text.Blank
import PocketCalc.Text.Digit
import PocketCalc.Text.Quote
namespace PocketCalc.Number

inductive ReadError where
  | notANumber (text : String)
  | malformed (text : String)
  deriving DecidableEq, Repr

def ReadError.message : ReadError → String
  | .notANumber text => "Not a number: " ++ Text.quote text
  | .malformed text => "could not convert string to float: " ++ Text.quote text

def isAsciiDigit (c : Char) : Bool := '0' ≤ c && c ≤ '9'

def isAsciiSpace (c : Char) : Bool :=
  c = ' ' || c = '\t' || c = '\n' || c = '\x0b' || c = '\x0c' || c = '\r'

def asciiForm (c : Char) : Option Char :=
  if c.toNat < 127 then some c
  else if Text.isBlank c then some ' '
  else (Text.decimalValue? c).map fun v => Char.ofNat (48 + v)

def underscoresFit : Option Char → List Char → Bool
  | _, [] => true
  | prev, '_' :: rest =>
    prev.any isAsciiDigit && (rest.head?.any isAsciiDigit) && underscoresFit (some '_') rest
  | _, c :: rest => underscoresFit (some c) rest

def readerForm (cs : List Char) : Option (List Char) := do
  let ascii ← cs.mapM asciiForm
  if underscoresFit none ascii then
    let kept := ascii.filter (· ≠ '_')
    some ((kept.dropWhile isAsciiSpace).reverse.dropWhile isAsciiSpace).reverse
  else none

def digitsValue (ds : List Char) : Nat := ds.foldl (fun n c => 10 * n + (c.toNat - 48)) 0

def signedInteger? (cs : List Char) : Option Int :=
  let (negative, rest) := match cs with
    | '-' :: r => (true, r)
    | '+' :: r => (false, r)
    | r => (false, r)
  if !rest.isEmpty && rest.all isAsciiDigit then
    let n : Int := digitsValue rest
    some (if negative then -n else n)
  else none

def decimalLiteral? (cs : List Char) : Option (Bool × Decimal) :=
  let (negative, rest) := match cs with
    | '-' :: r => (true, r)
    | '+' :: r => (false, r)
    | r => (false, r)
  let whole := rest.takeWhile isAsciiDigit
  let rest := rest.dropWhile isAsciiDigit
  let (frac, rest) := match rest with
    | '.' :: r => (r.takeWhile isAsciiDigit, r.dropWhile isAsciiDigit)
    | r => ([], r)
  let exponent : Option Int := match rest with
    | [] => some 0
    | c :: r => if c = 'e' || c = 'E' then signedInteger? r else none
  if whole.isEmpty && frac.isEmpty then none
  else exponent.map fun e => (negative, ⟨digitsValue (whole ++ frac), e - frac.length⟩)

def literalValue? (s : String) : Option Float := do
  let cs ← readerForm s.toList
  let (negative, x) ← decimalLiteral? cs
  some (x.toFloat negative)

def read (text : String) : Except ReadError Float :=
  let cleaned := (Text.trimChars text.toList).filter (· ≠ ',')
  let s := String.ofList cleaned
  if s = infinityText || s = "+" ++ infinityText then .ok Binary64.infinity
  else if s = "-" ++ infinityText then .ok (-Binary64.infinity)
  else if String.ofList (cleaned.dropWhile (fun c => c = '+' || c = '-')) = nanText then .ok Binary64.nan
  else if !cleaned.any Text.isDigitChar then .error (.notANumber text)
  else match literalValue? s with
    | some x => .ok x
    | none => .error (.malformed s)

end PocketCalc.Number
