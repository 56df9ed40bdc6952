import PocketCalc.Text.Blank
import PocketCalc.Text.CodePoint
import PocketCalc.Text.Printable
import PocketCalc.Text.Digit
import PocketCalc.Text.Quote
import PocketCalc.Text.Cells
import PocketCalc.Text.Emoji
import PocketCalc.Text.Markup
import PocketCalc.Text.Word
import PocketCalc.Text.Highlight
import PocketCalc.Decimal.Basic
import PocketCalc.Binary64
import PocketCalc.Decimal.Nearest
import PocketCalc.Decimal.Shortest
import PocketCalc.Number.Literal
import PocketCalc.Number.Display
import PocketCalc.Number.Reading
import PocketCalc.Number.Whole
import PocketCalc.Json.Value
import PocketCalc.Json.Reading
import PocketCalc.Json.Writing
import PocketCalc.Json.Inline
import PocketCalc.Key.Basic
import PocketCalc.Key.Reading
import PocketCalc.Arithmetic
import PocketCalc.Accumulator
import PocketCalc.History
import PocketCalc.Settings
import PocketCalc.Preferences
import PocketCalc.Session.Basic
import PocketCalc.Session.Step
import PocketCalc.Session.Router
import PocketCalc.Session.Run
import PocketCalc.Calculation
import PocketCalc.Console.Styled
import PocketCalc.Console.Layout
import PocketCalc.Console.Disk
import PocketCalc.Console.Table
import PocketCalc.Console.Log
import PocketCalc.Console.Invocation
import PocketCalc.Console.Program
import PocketCalc.Console.Host
import PocketCalc.Main
import PocketCalc.Proofs.Guard
import PocketCalc.Proofs.Handlers
import PocketCalc.Proofs.Echo
import PocketCalc.Proofs.Numeral
import PocketCalc.Proofs.Typing
import PocketCalc.Proofs.Refinement
import PocketCalc.Proofs.EntryText
import PocketCalc.Proofs.Faults
import PocketCalc.Proofs.Expression
import PocketCalc.Proofs.ErrorPolicy
import PocketCalc.Proofs.Noninterference
import PocketCalc.Proofs.SignToggle
import PocketCalc.Proofs.Clearing
import PocketCalc.Proofs.EntryShape
import PocketCalc.Proofs.HalfEven
import PocketCalc.Proofs.DecimalText
import PocketCalc.Proofs.Nearest
import PocketCalc.Proofs.DisplayRounding
import PocketCalc.Proofs.ReadBack
import PocketCalc.Proofs.ParenFrames
import PocketCalc.Proofs.RepeatedEquals
import PocketCalc.Proofs.BackspaceUndo
import PocketCalc.Proofs.SettingsErrors
import PocketCalc.Proofs.KeyLines
import PocketCalc.Proofs.Records
