import PocketCalc.Json.Value
import PocketCalc.Number.Literal
import PocketCalc.Text.Quote
namespace PocketCalc.Json

mutual

def inlineChars : Value → List Char
  | .null => "None".toList
  | .bool b => if b then "True".toList else "False".toList
  | .int n => if n < 0 then '-' :: decimalDigits n.natAbs else decimalDigits n.natAbs
  | .float x => Number.literalChars x
  | .str s => Text.quoteChars s.toList
  | .loose ps => Text.quotePoints ps
  | .array items => '[' :: inlineItems items ++ [']']
  | .object fields => '{' :: inlineFields fields ++ ['}']

def inlineItems : List Value → List Char
  | [] => []
  | v :: rest => inlineChars v ++ (if rest.isEmpty then [] else [',', ' ']) ++ inlineItems rest

def inlineFields : List (Name × Value) → List Char
  | [] => []
  | (name, v) :: rest =>
    Text.quotePoints name.points ++ [':', ' '] ++ inlineChars v ++
      (if rest.isEmpty then [] else [',', ' ']) ++ inlineFields rest

end

def Value.inline (v : Value) : String := String.ofList (inlineChars v)

def Value.plainText : Value → String
  | .str s => s
  | .loose ps => Text.CodePoint.lossy ps
  | v => v.inline

end PocketCalc.Json
