import PocketCalc.Accumulator
import PocketCalc.Decimal.Nearest
namespace PocketCalc

inductive Piece where
  | literal (digits : List Digit)
  | operator (op : Operator)
  | openParen
  | closeParen
  deriving DecidableEq, Repr

namespace Piece

def keys : Piece → List Key
  | .literal ds => ds.map .digit
  | .operator op => [.operator op]
  | .openParen => [.command .openParen]
  | .closeParen => [.command .closeParen]

end Piece

def keysOf (ps : List Piece) : List Key := ps.flatMap Piece.keys

def literalParts : List Digit → List Nat × List Nat
  | [] => ([], [])
  | .numeral n :: rest => let (w, f) := literalParts rest; (n.val :: w, f)
  | .point :: rest => ([], (rest.filterMap fun d => match d with
      | .numeral n => some n.val
      | .point => none))

def literalDecimal (ds : List Digit) : Decimal :=
  let (whole, frac) := literalParts ds
  ⟨(whole ++ frac).foldl (fun n d => 10 * n + d) 0, -(frac.length : Int)⟩

def literalValue (ds : List Digit) : Float := (literalDecimal ds).toFloat false

def evaluate (a : Accumulator) : List Piece → Except ArithError Accumulator
  | [] => .ok a
  | [.literal _] => .ok a
  | .literal _ :: .openParen :: rest => evaluate a.openParen rest
  | .literal ds :: rest => do
    let a ← a.commit (literalValue ds)
    evaluate a rest
  | .operator op :: rest => evaluate (a.setPending op) rest
  | .openParen :: rest => evaluate a.openParen rest
  | .closeParen :: rest =>
    match a.closeParen with
    | none => evaluate a rest
    | some (inner, outer) => do
      let a ← outer.commit inner
      evaluate a rest

end PocketCalc
