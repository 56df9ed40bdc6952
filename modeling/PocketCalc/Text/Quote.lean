import PocketCalc.Text.CodePoint
import PocketCalc.Text.Printable
namespace PocketCalc.Text

def hexDigits (width n : Nat) : List Char :=
  let ds := Nat.toDigits 16 n
  List.replicate (width - ds.length) '0' ++ ds

def escapeChar (q c : Char) : List Char :=
  if c = q ∨ c = '\\' then ['\\', c]
  else if c = '\t' then ['\\', 't']
  else if c = '\n' then ['\\', 'n']
  else if c = '\r' then ['\\', 'r']
  else if c.toNat < 0x20 ∨ c.toNat = 0x7F then '\\' :: 'x' :: hexDigits 2 c.toNat
  else if c.toNat < 0x7F then [c]
  else if isPrintable c then [c]
  else if c.toNat ≤ 0xFF then '\\' :: 'x' :: hexDigits 2 c.toNat
  else if c.toNat ≤ 0xFFFF then '\\' :: 'u' :: hexDigits 4 c.toNat
  else '\\' :: 'U' :: hexDigits 8 c.toNat

def quoteMark (cs : List Char) : Char :=
  if cs.contains '\'' && !cs.contains '"' then '"' else '\''

def quoteChars (cs : List Char) : List Char :=
  let q := quoteMark cs
  q :: cs.flatMap (escapeChar q) ++ [q]

def quote (s : String) : String := String.ofList (quoteChars s.toList)

def escapePoint (q : Char) : CodePoint → List Char
  | .char c => escapeChar q c
  | .surrogate n => '\\' :: 'u' :: hexDigits 4 n

def quotePoints (ps : List CodePoint) : List Char :=
  let q := quoteMark (ps.filterMap CodePoint.char?)
  q :: ps.flatMap (escapePoint q) ++ [q]

theorem quotePoints_ofString (s : String) :
    quotePoints (CodePoint.ofString s) = quoteChars s.toList := by
  rw [quotePoints, quoteChars, CodePoint.ofString, filterMap_char?_chars, List.flatMap_map]
  rfl

end PocketCalc.Text
