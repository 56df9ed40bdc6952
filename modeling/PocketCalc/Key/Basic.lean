namespace PocketCalc

inductive Digit where
  | numeral (n : Fin 10)
  | point
  deriving DecidableEq, Repr

inductive Operator where
  | add
  | subtract
  | multiply
  | divide
  | sqrt
  | square
  | percent
  | reciprocal
  | equals
  deriving DecidableEq, Repr

inductive Command where
  | openParen
  | closeParen
  | clear
  | cancel
  | backspace
  | negate
  | memoryClear
  | memoryRecall
  | memoryAdd
  | memorySubtract
  | memoryStore
  deriving DecidableEq, Repr

inductive Key where
  | digit (d : Digit)
  | operator (o : Operator)
  | command (c : Command)
  deriving DecidableEq, Repr

namespace Digit

def char : Digit → Char
  | .numeral n => Char.ofNat (48 + n.val)
  | .point => '.'

def label (d : Digit) : String := String.singleton d.char

def all : List Digit := (List.finRange 10).map .numeral ++ [.point]

end Digit

namespace Operator

def label : Operator → String
  | .add => "+"
  | .subtract => "-"
  | .multiply => "*"
  | .divide => "/"
  | .sqrt => "√"
  | .square => "x²"
  | .percent => "%"
  | .reciprocal => "1/x"
  | .equals => "="

def isBinary : Operator → Bool
  | .add | .subtract | .multiply | .divide | .percent => true
  | _ => false

def all : List Operator :=
  [.add, .subtract, .multiply, .divide, .sqrt, .square, .percent, .reciprocal, .equals]

end Operator

namespace Command

def label : Command → String
  | .openParen => "("
  | .closeParen => ")"
  | .clear => "C"
  | .cancel => "Esc"
  | .backspace => "⌫"
  | .negate => "±"
  | .memoryClear => "MC"
  | .memoryRecall => "MR"
  | .memoryAdd => "M+"
  | .memorySubtract => "M-"
  | .memoryStore => "MS"

def all : List Command :=
  [.openParen, .closeParen, .clear, .cancel, .backspace, .negate, .memoryClear, .memoryRecall,
    .memoryAdd, .memorySubtract, .memoryStore]

end Command

namespace Key

def label : Key → String
  | .digit d => d.label
  | .operator o => o.label
  | .command c => c.label

def kindName : Key → String
  | .digit _ => "Digit"
  | .operator _ => "Operator"
  | .command _ => "Command"

def all : List Key :=
  Digit.all.map .digit ++ Operator.all.map .operator ++ Command.all.map .command

end Key

end PocketCalc
