import PocketCalc.Key.Basic
import PocketCalc.Text.Blank
import PocketCalc.Text.Quote
namespace PocketCalc

structure UnknownKey where
  text : String
  deriving DecidableEq, Repr

def UnknownKey.message (e : UnknownKey) : String := "Unknown token: " ++ Text.quote e.text

namespace Key

def aliases : List (String × Key) :=
  [("sqrt", .operator .sqrt), ("x^2", .operator .square), ("sq", .operator .square),
    ("sqr", .operator .square), ("inv", .operator .reciprocal), ("x", .operator .multiply),
    ("×", .operator .multiply), ("÷", .operator .divide), ("enter", .operator .equals),
    ("return", .operator .equals), ("c", .command .clear), ("esc", .command .cancel),
    ("escape", .command .cancel), ("ce", .command .cancel), ("bs", .command .backspace),
    ("backspace", .command .backspace), ("neg", .command .negate), ("+/-", .command .negate),
    ("mc", .command .memoryClear), ("mr", .command .memoryRecall), ("m+", .command .memoryAdd),
    ("mplus", .command .memoryAdd), ("m-", .command .memorySubtract),
    ("mminus", .command .memorySubtract), ("ms", .command .memoryStore)]

def foldCase (c : Char) : Char :=
  if 'A' ≤ c && c ≤ 'Z' then Char.ofNat (c.toNat + 32)
  else if c.toNat = 0x212A then 'k'
  else c

def ofLabel? (s : String) : Option Key := all.find? (·.label == s)

def ofAlias? (s : String) : Option Key := aliases.lookup (String.ofList (s.toList.map foldCase))

def parse (text : String) : Except UnknownKey Key :=
  let name := Text.trim text
  match ofLabel? name <|> ofAlias? name with
  | some k => .ok k
  | none => .error ⟨text⟩

def isNumeralChar (c : Char) : Bool := ('0' ≤ c && c ≤ '9') || c = '.'

def ofNumeralChar (c : Char) : Key :=
  if c = '.' then .digit .point else .digit (.numeral (Fin.ofNat 10 (c.toNat - 48)))

def ofWord (w : List Char) : Except UnknownKey (List Key) :=
  if 1 < w.length && w.all isNumeralChar then .ok (w.map ofNumeralChar)
  else (parse (String.ofList w)).map fun k => [k]

def tokenize (line : String) : Except UnknownKey (List Key) :=
  (Text.wordsOf line.toList).foldlM (fun acc w => (ofWord w).map (acc ++ ·)) []

def aliasText (k : Key) : String :=
  let names := (aliases.filter (·.2 == k)).map (·.1)
  ", ".intercalate (names.mergeSort fun a b => !decide (b < a))

def catalogue : List (String × String × String) :=
  all.map fun k => (k.kindName, k.label, k.aliasText)

end Key

end PocketCalc
