import PocketCalc.Console.Layout
import PocketCalc.Session.Step
import PocketCalc.Number.Literal
import PocketCalc.Text.Quote
import PocketCalc.Text.Highlight
namespace PocketCalc.Console

open Text

inductive Level where
  | debug
  | info
  | warning
  deriving DecidableEq, Repr

def Level.name : Level → String
  | .debug => "DEBUG"
  | .info => "INFO"
  | .warning => "WARNING"

def Level.rank : Level → Nat
  | .debug => 10
  | .info => 20
  | .warning => 30

structure Record where
  level : Level
  source : String
  message : String

def Record.screenLines (width : Nat) (time : String) (r : Record) : List String :=
  let timeColumn := cellsOf time.toList + 1
  let lead := time ++ " " ++ String.ofList (setCells 8 r.level.name.toList) ++ " "
  let text := dropControls (r.source ++ " - " ++ r.message).toList
  let body := printedLines (width - timeColumn - 9) .left .fold true
    ⟨text, Highlight.logStretches text⟩
  match body with
  | [] => [lead]
  | first :: more => (lead ++ first) :: more.map (String.ofList (spaces (timeColumn + 9)) ++ ·)

def Record.fileLine (time : String) (r : Record) : String :=
  time ++ " - " ++ r.source ++ " - " ++ r.level.name ++ " - " ++ r.message

end PocketCalc.Console

namespace PocketCalc

open Console

def Event.record : Event → Record
  | .key label => ⟨.debug, "deskcalc.session", "token " ++ Text.quote label⟩
  | .ignored label => ⟨.debug, "deskcalc.session", "ignored " ++ Text.quote label ++ " while error is latched"⟩
  | .cleared withHistory =>
    ⟨.info, "deskcalc.session", "Calculator cleared" ++ (if withHistory then " (with history)" else "")⟩
  | .committed r op x v =>
    ⟨.debug, "deskcalc.engine",
      "commit " ++ Number.literal r ++ " " ++ op.label ++ " " ++ Number.literal x ++ " -> " ++ Number.literal v⟩
  | .refused e op x => ⟨.warning, "deskcalc.engine", e.message ++ ": " ++ op.label ++ " " ++ Number.literal x⟩
  | .latched e => ⟨.info, "deskcalc.session", "Error latched: " ++ e.message⟩
  | .reported e => ⟨.info, "deskcalc.session", "Error reported, calculation reset: " ++ e.message⟩
  | .recorded line => ⟨.debug, "deskcalc.history", "history: " ++ line⟩
  | .memoryNow m => ⟨.debug, "deskcalc.session", "memory is now " ++ Number.literal m⟩

end PocketCalc
