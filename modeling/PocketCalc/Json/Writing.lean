import PocketCalc.Json.Value
import PocketCalc.Number.Literal
import PocketCalc.Text.Quote
namespace PocketCalc.Json

structure Layout where
  indent : Option Nat
  asciiOnly : Bool

def Layout.line : Layout := ⟨none, false⟩

def Layout.file : Layout := ⟨some 2, true⟩

def unitEscape (n : Nat) : List Char := '\\' :: 'u' :: Text.hexDigits 4 n

def jsonEscape (asciiOnly : Bool) (c : Char) : List Char :=
  match c with
  | '"' => ['\\', '"']
  | '\\' => ['\\', '\\']
  | '\n' => ['\\', 'n']
  | '\r' => ['\\', 'r']
  | '\t' => ['\\', 't']
  | '\x08' => ['\\', 'b']
  | '\x0c' => ['\\', 'f']
  | c =>
    if c.toNat < 0x20 then unitEscape c.toNat
    else if asciiOnly && 0x7E < c.toNat then
      if c.toNat < 0x10000 then unitEscape c.toNat
      else
        let n := c.toNat - 0x10000
        unitEscape (0xD800 + n / 0x400) ++ unitEscape (0xDC00 + n % 0x400)
    else [c]

def stringChars (asciiOnly : Bool) (s : String) : List Char :=
  '"' :: s.toList.flatMap (jsonEscape asciiOnly) ++ ['"']

def pointEscape (asciiOnly : Bool) : Text.CodePoint → List Char
  | .char c => jsonEscape asciiOnly c
  | .surrogate n => unitEscape n

def pointsChars (asciiOnly : Bool) (ps : List Text.CodePoint) : List Char :=
  '"' :: ps.flatMap (pointEscape asciiOnly) ++ ['"']

def nameChars (asciiOnly : Bool) : Name → List Char
  | .text s => stringChars asciiOnly s
  | .loose ps => pointsChars asciiOnly ps

def floatChars (x : Float) : List Char :=
  match Binary64.parts x with
  | .nan => "NaN".toList
  | .infinity negative => if negative then "-Infinity".toList else "Infinity".toList
  | .finite .. => Number.literalChars x

def intChars (n : Int) : List Char :=
  if n < 0 then '-' :: decimalDigits n.natAbs else decimalDigits n.natAbs

def Layout.lineBreak (l : Layout) (level : Nat) : List Char :=
  match l.indent with
  | some n => '\n' :: List.replicate (n * level) ' '
  | none => []

def Layout.itemSeparator (l : Layout) : List Char :=
  match l.indent with
  | some _ => [',']
  | none => [',', ' ']

mutual

def valueChars (l : Layout) (level : Nat) : Value → List Char
  | .null => "null".toList
  | .bool b => if b then "true".toList else "false".toList
  | .int n => intChars n
  | .float x => floatChars x
  | .str s => stringChars l.asciiOnly s
  | .loose ps => pointsChars l.asciiOnly ps
  | .array [] => ['[', ']']
  | .array items => '[' :: itemsChars l (level + 1) items ++ l.lineBreak level ++ [']']
  | .object [] => ['{', '}']
  | .object fields => '{' :: fieldsChars l (level + 1) fields ++ l.lineBreak level ++ ['}']

def itemsChars (l : Layout) (level : Nat) : List Value → List Char
  | [] => []
  | v :: rest =>
    l.lineBreak level ++ valueChars l level v ++
      (if rest.isEmpty then [] else l.itemSeparator) ++ itemsChars l level rest

def fieldsChars (l : Layout) (level : Nat) : List (Name × Value) → List Char
  | [] => []
  | (name, v) :: rest =>
    l.lineBreak level ++ nameChars l.asciiOnly name ++ [':', ' '] ++ valueChars l level v ++
      (if rest.isEmpty then [] else l.itemSeparator) ++ fieldsChars l level rest

end

def Value.write (l : Layout) (v : Value) : String := String.ofList (valueChars l 0 v)

end PocketCalc.Json
