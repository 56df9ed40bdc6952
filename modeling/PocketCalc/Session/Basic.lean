import PocketCalc.Accumulator
import PocketCalc.History
import PocketCalc.Number.Reading
import PocketCalc.Settings
namespace PocketCalc

structure Session where
  entry : String := "0"
  startNew : Bool := true
  latched : Bool := false
  notice : Option ArithError := none
  expression : List String := []
  echoOpen : Bool := false
  history : History := {}
  acc : Accumulator := {}

inductive Fault where
  | unreadable (e : Number.ReadError)
  | echoMissing
  | dropMissing
  deriving DecidableEq, Repr

def Fault.message : Fault → String
  | .unreadable e => e.message
  | .echoMissing => "list assignment index out of range"
  | .dropMissing => "pop from empty list"

def Fault.className : Fault → String
  | .unreadable _ => "ValueError"
  | _ => "IndexError"

structure View where
  displayText : String
  historyLines : List String
  errorActive : Bool
  notice : Option String
  expression : String
  deriving DecidableEq, Repr

namespace Session

def view (cfg : Settings) (s : Session) : View where
  displayText := if s.latched then cfg.errorText else s.entry
  historyLines := s.history.recent cfg.historyLines
  errorActive := s.latched
  notice := s.notice.map ArithError.message
  expression := " ".intercalate s.expression

def clear (s : Session) (withHistory : Bool) : Session :=
  { s with
    acc := s.acc.reset
    entry := "0"
    startNew := true
    latched := false
    notice := none
    expression := []
    echoOpen := false
    history := if withHistory then s.history.clear else s.history }

end Session

end PocketCalc
