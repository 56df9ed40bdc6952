import PocketCalc.Json.Value
import PocketCalc.Number.Reading
namespace PocketCalc.Json

open Text (CodePoint)

inductive Reason where
  | expectingValue
  | expectingName
  | expectingColon
  | expectingComma
  | extraData
  | unterminatedString
  | controlCharacter
  | badEscape
  | badUnicodeEscape
  | byteOrderMark
  deriving DecidableEq, Repr

def Reason.text : Reason → String
  | .expectingValue => "Expecting value"
  | .expectingName => "Expecting property name enclosed in double quotes"
  | .expectingColon => "Expecting ':' delimiter"
  | .expectingComma => "Expecting ',' delimiter"
  | .extraData => "Extra data"
  | .unterminatedString => "Unterminated string starting at"
  | .controlCharacter => "Invalid control character at"
  | .badEscape => "Invalid \\escape"
  | .badUnicodeEscape => "Invalid \\uXXXX escape"
  | .byteOrderMark => "Unexpected UTF-8 BOM (decode using utf-8-sig)"

inductive Container where
  | array
  | object
  deriving DecidableEq, Repr

inductive ReadError where
  | malformed (reason : Reason) (place : Nat)
  | tooDeep (container : Container)
  | tooManyDigits (count : Nat)
  deriving DecidableEq, Repr

def callLimit : Nat := 1000

def digitLimit : Nat := 4300

def lineColumn (text : String) (place : Nat) : Nat × Nat :=
  let before := text.toList.take place
  let line := before.count '\n' + 1
  let afterBreak := (before.reverse.takeWhile (· ≠ '\n')).length
  (line, afterBreak + 1)

def ReadError.message (text : String) : ReadError → String
  | .malformed r place =>
    let (line, column) := lineColumn text place
    r.text ++ ": line " ++ toString line ++ " column " ++ toString column ++
      " (char " ++ toString place ++ ")"
  | .tooDeep c =>
    "maximum recursion depth exceeded while decoding a JSON " ++
      (match c with | .array => "array" | .object => "object") ++ " from a unicode string"
  | .tooManyDigits n =>
    "Exceeds the limit (" ++ toString digitLimit ++ " digits) for integer string conversion: " ++
      "value has " ++ toString n ++ " digits; use sys.set_int_max_str_digits() to increase the limit"

def ReadError.isMalformed : ReadError → Bool
  | .malformed _ _ => true
  | _ => false

def ReadError.className : ReadError → String
  | .malformed _ _ => "JSONDecodeError"
  | .tooDeep _ => "RecursionError"
  | .tooManyDigits _ => "ValueError"

def isJsonSpace (c : Char) : Bool := c = ' ' || c = '\t' || c = '\n' || c = '\r'

abbrev Cursor := Nat × List Char

def skipSpace : Cursor → Cursor
  | (p, cs) => (p + (cs.takeWhile isJsonSpace).length, cs.dropWhile isJsonSpace)

def hexValue? (c : Char) : Option Nat :=
  if '0' ≤ c && c ≤ '9' then some (c.toNat - 48)
  else if 'a' ≤ c && c ≤ 'f' then some (c.toNat - 87)
  else if 'A' ≤ c && c ≤ 'F' then some (c.toNat - 55)
  else none

def hexQuad? (a b c d : Char) : Option Nat := do
  let a ← hexValue? a
  let b ← hexValue? b
  let c ← hexValue? c
  let d ← hexValue? d
  some (((a * 16 + b) * 16 + c) * 16 + d)

def isHighSurrogate (n : Nat) : Bool := 0xD800 ≤ n && n ≤ 0xDBFF

def isLowSurrogate (n : Nat) : Bool := 0xDC00 ≤ n && n ≤ 0xDFFF

def pairChar (hi lo : Nat) : Char := Char.ofNat (0x10000 + (hi - 0xD800) * 0x400 + (lo - 0xDC00))

def simpleEscape? : Char → Option Char
  | '"' => some '"'
  | '\\' => some '\\'
  | '/' => some '/'
  | 'b' => some '\x08'
  | 'f' => some '\x0c'
  | 'n' => some '\n'
  | 'r' => some '\r'
  | 't' => some '\t'
  | _ => none

def readString (start : Nat) (acc : List CodePoint) (p : Nat) :
    List Char → Except ReadError (List CodePoint × Cursor)
  | [] => .error (.malformed .unterminatedString start)
  | '"' :: rest => .ok (acc.reverse, (p + 1, rest))
  | '\\' :: [] => .error (.malformed .unterminatedString start)
  | '\\' :: 'u' :: a :: b :: c :: d :: more@('\\' :: 'u' :: e :: f :: g :: h :: after@(_ :: _)) =>
    match hexQuad? a b c d with
    | none => .error (.malformed .badUnicodeEscape (p + 1))
    | some hi =>
      if isHighSurrogate hi then
        match hexQuad? e f g h with
        | none => .error (.malformed .badUnicodeEscape (p + 7))
        | some lo =>
          if isLowSurrogate lo then readString start (.char (pairChar hi lo) :: acc) (p + 12) after
          else readString start (CodePoint.ofNat hi :: acc) (p + 6) more
      else readString start (CodePoint.ofNat hi :: acc) (p + 6) more
  | '\\' :: 'u' :: a :: b :: c :: d :: more@(_ :: _) =>
    match hexQuad? a b c d with
    | none => .error (.malformed .badUnicodeEscape (p + 1))
    | some hi => readString start (CodePoint.ofNat hi :: acc) (p + 6) more
  | '\\' :: 'u' :: _ => .error (.malformed .badUnicodeEscape (p + 1))
  | '\\' :: e :: rest =>
    match simpleEscape? e with
    | some c => readString start (.char c :: acc) (p + 2) rest
    | none => .error (.malformed .badEscape p)
  | c :: rest =>
    if c.toNat ≤ 0x1F then .error (.malformed .controlCharacter p)
    else readString start (.char c :: acc) (p + 1) rest
termination_by cs => cs.length
decreasing_by
  all_goals try subst_vars
  all_goals simp only [List.length_cons]
  all_goals omega

def digitRun (cs : List Char) : List Char := cs.takeWhile Number.isAsciiDigit

def readNumber (p : Nat) (cs : List Char) : Except ReadError (Value × Cursor) := do
  let expected : ReadError := .malformed .expectingValue p
  let (negative, body) := match cs with
    | '-' :: r => (true, r)
    | r => (false, r)
  let whole ← match body with
    | '0' :: _ => pure ['0']
    | c :: r => if '1' ≤ c && c ≤ '9' then pure (c :: digitRun r) else throw expected
    | [] => throw expected
  let rest := body.drop whole.length
  let frac := match rest with
    | '.' :: d :: r => if Number.isAsciiDigit d then d :: digitRun r else []
    | _ => []
  let rest := if frac.isEmpty then rest else rest.drop (frac.length + 1)
  let exponent : Option (Bool × List Char × Nat) := match rest with
    | e :: r :: more =>
      if e = 'e' || e = 'E' then
        let (negExp, signLength, ds) := match r with
          | '+' => (false, 1, digitRun more)
          | '-' => (true, 1, digitRun more)
          | _ => (false, 0, digitRun (r :: more))
        if ds.isEmpty then none else some (negExp, ds, 1 + signLength + ds.length)
      else none
    | _ => none
  let rest := match exponent with
    | some (_, _, n) => rest.drop n
    | none => rest
  let used := (if negative then 1 else 0) + whole.length +
    (if frac.isEmpty then 0 else frac.length + 1) +
    (match exponent with | some (_, _, n) => n | none => 0)
  let after : Cursor := (p + used, rest)
  match frac, exponent with
  | [], none =>
    if digitLimit < whole.length then throw (.tooManyDigits whole.length)
    let n : Int := Number.digitsValue whole
    pure (.int (if negative then -n else n), after)
  | _, _ =>
    let e : Int := match exponent with
      | some (negExp, ds, _) => if negExp then -(Number.digitsValue ds : Int) else Number.digitsValue ds
      | none => 0
    let x : Decimal := ⟨Number.digitsValue (whole ++ frac), e - frac.length⟩
    pure (.float (x.toFloat negative), after)

mutual

def readValue (room : Nat) : Nat → Nat → Cursor → Except ReadError (Value × Cursor)
  | 0, _, (p, _) => .error (.malformed .expectingValue p)
  | fuel + 1, depth, (p, cs) =>
    match cs with
    | '"' :: rest => do
      let (s, after) ← readString p [] (p + 1) rest
      pure (Value.ofPoints s, after)
    | '[' :: rest =>
      if room ≤ depth then .error (.tooDeep .array)
      else
        match skipSpace (p + 1, rest) with
        | (q, ']' :: more) => .ok (.array [], (q + 1, more))
        | c => readItems room fuel (depth + 1) c []
    | '{' :: rest =>
      if room ≤ depth then .error (.tooDeep .object)
      else
        match skipSpace (p + 1, rest) with
        | (q, '}' :: more) => .ok (.object [], (q + 1, more))
        | c => readFields room fuel (depth + 1) c []
    | 'n' :: 'u' :: 'l' :: 'l' :: rest => .ok (.null, (p + 4, rest))
    | 't' :: 'r' :: 'u' :: 'e' :: rest => .ok (.bool true, (p + 4, rest))
    | 'f' :: 'a' :: 'l' :: 's' :: 'e' :: rest => .ok (.bool false, (p + 5, rest))
    | 'N' :: 'a' :: 'N' :: rest => .ok (.float Binary64.nan, (p + 3, rest))
    | 'I' :: 'n' :: 'f' :: 'i' :: 'n' :: 'i' :: 't' :: 'y' :: rest =>
      .ok (.float Binary64.infinity, (p + 8, rest))
    | '-' :: 'I' :: 'n' :: 'f' :: 'i' :: 'n' :: 'i' :: 't' :: 'y' :: rest =>
      .ok (.float (-Binary64.infinity), (p + 9, rest))
    | _ => readNumber p cs

def readItems (room : Nat) : Nat → Nat → Cursor → List Value → Except ReadError (Value × Cursor)
  | 0, _, (p, _), _ => .error (.malformed .expectingValue p)
  | fuel + 1, depth, c, acc => do
    let (v, after) ← readValue room fuel depth c
    match skipSpace after with
    | (q, ']' :: more) => pure (.array (v :: acc).reverse, (q + 1, more))
    | (q, ',' :: more) => readItems room fuel depth (skipSpace (q + 1, more)) (v :: acc)
    | (q, _) => throw (.malformed .expectingComma q)

def readFields (room : Nat) : Nat → Nat → Cursor → List (Name × Value) →
    Except ReadError (Value × Cursor)
  | 0, _, (p, _), _ => .error (.malformed .expectingName p)
  | fuel + 1, depth, (p, cs), acc =>
    match cs with
    | '"' :: r => do
      let (name, after) ← readString p [] (p + 1) r
      match skipSpace after with
      | (q, ':' :: more) =>
        let (v, after) ← readValue room fuel depth (skipSpace (q + 1, more))
        let acc := setField acc (Name.ofPoints name) v
        match skipSpace after with
        | (q, '}' :: more) => pure (.object acc, (q + 1, more))
        | (q, ',' :: more) => readFields room fuel depth (skipSpace (q + 1, more)) acc
        | (q, _) => throw (.malformed .expectingComma q)
      | (q, _) => throw (.malformed .expectingColon q)
    | _ => .error (.malformed .expectingName p)

end

def readWithin (room : Nat) (s : String) : Except ReadError Value := do
  let cs := s.toList
  if cs.head? = some '\uFEFF' then throw (.malformed .byteOrderMark 0)
  let (v, after) ← readValue room (2 * cs.length + 2) 0 (skipSpace (0, cs))
  match skipSpace after with
  | (_, []) => pure v
  | (q, _) => throw (.malformed .extraData q)

def read (s : String) : Except ReadError Value := readWithin callLimit s

def parse? (s : String) : Option Value := (read s).toOption

end PocketCalc.Json
