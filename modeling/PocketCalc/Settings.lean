import PocketCalc.Json.Inline
import PocketCalc.Number.Whole
namespace PocketCalc

inductive ErrorPolicy where
  | latch
  | dialog
  deriving DecidableEq, Repr

inductive HistoryStyle where
  | expression
  | step
  deriving DecidableEq, Repr

def ErrorPolicy.name : ErrorPolicy → String
  | .latch => "latch"
  | .dialog => "dialog"

def HistoryStyle.name : HistoryStyle → String
  | .expression => "expression"
  | .step => "step"

structure Settings where
  errorPolicy : ErrorPolicy := .latch
  historyStyle : HistoryStyle := .expression
  historyLines : Int := 5
  fractionDigits : Int := 10
  errorText : String := "Not applicable"
  deriving DecidableEq, Repr

open Json Number

inductive ConversionError where
  | policy (v : Value)
  | style (v : Value)
  | whole (e : WholeError)

def ConversionError.message : ConversionError → String
  | .policy v => v.inline ++ " is not a valid ErrorPolicy"
  | .style v => v.inline ++ " is not a valid HistoryStyle"
  | .whole e => e.message

inductive SettingsError where
  | invalid (e : ConversionError)
  | whole (e : WholeError)
  | policyNotMember
  | styleNotMember
  | historyLinesBelowOne
  | fractionDigitsOutOfRange
  | unexpectedField (name : Name)

def SettingsError.message : SettingsError → String
  | .invalid e => "Invalid configuration: " ++ e.message
  | .whole e => e.message
  | .policyNotMember => "error_policy must be one of ['latch', 'dialog']"
  | .styleNotMember => "history_style must be one of ['expression', 'step']"
  | .historyLinesBelowOne => "history_lines must be at least 1"
  | .fractionDigitsOutOfRange => "fraction_digits must be 0..15"
  | .unexpectedField name =>
    "Settings.__init__() got an unexpected keyword argument '" ++ name.lossy ++ "'"

def SettingsError.className : SettingsError → String
  | .whole e => e.className
  | .unexpectedField _ => "TypeError"
  | _ => "ValueError"

namespace Settings

def defaultFields : List (Name × Value) :=
  [("error_policy", .str "latch"), ("history_style", .str "expression"),
    ("history_lines", .int 5), ("fraction_digits", .int 10), ("error_text", .str "Not applicable")]

def fieldNames : List Name := defaultFields.map (·.1)

def policyOf : Value → Except ConversionError ErrorPolicy
  | .str "latch" => .ok .latch
  | .str "dialog" => .ok .dialog
  | v => .error (.policy v)

def styleOf : Value → Except ConversionError HistoryStyle
  | .str "expression" => .ok .expression
  | .str "step" => .ok .step
  | v => .error (.style v)

def wholeOf : Value → Except WholeError Int
  | .int n => .ok n
  | .bool b => .ok (if b then 1 else 0)
  | .float x => truncate x
  | .str s => readWhole s
  | .loose ps => .error (.literal ps)
  | .null => .error (.argument "NoneType")
  | .array _ => .error (.argument "list")
  | .object _ => .error (.argument "dict")

def countOf (v : Value) : Except SettingsError Int :=
  match wholeOf v with
  | .ok n => .ok n
  | .error .infinite => .error (.whole .infinite)
  | .error e => .error (.invalid (.whole e))

def Valid (s : Settings) : Prop :=
  1 ≤ s.historyLines ∧ 0 ≤ s.fractionDigits ∧ s.fractionDigits ≤ 15

def check (s : Settings) : Except SettingsError Settings :=
  if s.historyLines < 1 then .error .historyLinesBelowOne
  else if s.fractionDigits < 0 ∨ 15 < s.fractionDigits then .error .fractionDigitsOutOfRange
  else .ok s

theorem valid_of_check {s t : Settings} (h : s.check = .ok t) : t.Valid := by
  unfold check at h
  split at h
  · cases h
  · split at h
    · cases h
    · cases h
      unfold Valid
      omega

def ofFields (fields : List (Name × Value)) : Except SettingsError Settings := do
  let get (name : String) : Value :=
    (fields.lookup (Name.text name)).getD ((defaultFields.lookup (Name.text name)).getD .null)
  let errorPolicy ← (policyOf (get "error_policy")).mapError .invalid
  let historyStyle ← (styleOf (get "history_style")).mapError .invalid
  let historyLines ← countOf (get "history_lines")
  let fractionDigits ← countOf (get "fraction_digits")
  let errorText := (get "error_text").plainText
  check { errorPolicy, historyStyle, historyLines, fractionDigits, errorText }

def checkFields (fields : List (Name × Value)) : Except SettingsError Unit := do
  match fields.find? (fun p => !fieldNames.contains p.1) with
  | some p => throw (.unexpectedField p.1)
  | none => pure ()
  if (fields.lookup (Name.text "error_policy")).isSome then throw .policyNotMember
  if (fields.lookup (Name.text "history_style")).isSome then throw .styleNotMember
  let lines ← (wholeOf ((fields.lookup (Name.text "history_lines")).getD (.int 5))).mapError .whole
  if lines < 1 then throw .historyLinesBelowOne
  let places ← (wholeOf ((fields.lookup (Name.text "fraction_digits")).getD (.int 10))).mapError
    .whole
  if places < 0 ∨ 15 < places then throw .fractionDigitsOutOfRange

def toFields (s : Settings) : List (Name × Value) :=
  [("error_policy", .str s.errorPolicy.name), ("history_style", .str s.historyStyle.name),
    ("history_lines", .int s.historyLines), ("fraction_digits", .int s.fractionDigits),
    ("error_text", .str s.errorText)]

end Settings

end PocketCalc
