import PocketCalc.Key.Reading
import PocketCalc.Session.Step
namespace PocketCalc

structure Outcome where
  session : Session
  refusal : Option Refusal := none
  fault : Option Fault := none
  events : List Event := []

def Outcome.ofStep (x : Step Session) : Outcome :=
  match x.result with
  | .ok s => { session := s, events := x.events }
  | .error (.stop s r) => { session := s, refusal := some r, events := x.events }
  | .error (.fault s f) => { session := s, fault := some f, events := x.events }

open Step (note halt lift)

namespace Session

variable (cfg : Settings)

def format (x : Float) : String := Number.display x cfg.fractionDigits true

def formatPlain (x : Float) : String := Number.display x cfg.fractionDigits false

def unsigned (s : Session) : String := String.ofList (s.entry.toList.dropWhile (· = '-'))

def entryIsNumber (s : Session) : Bool :=
  s.unsigned != Number.infinityText && s.unsigned != Number.nanText

def entryValue (s : Session) : Except Halt Float :=
  match Number.read s.entry with
  | .ok x => .ok x
  | .error e => .error (.fault s (.unreadable e))

def echo (s : Session) : Except Halt Session :=
  if s.echoOpen then
    if s.expression.isEmpty then .error (.fault s .echoMissing)
    else .ok { s with expression := s.expression.dropLast ++ [s.entry] }
  else .ok { s with expression := s.expression ++ [s.entry], echoOpen := true }

def dropEcho (s : Session) : Except Halt Session :=
  if s.echoOpen then
    if s.expression.isEmpty then .error (.fault s .dropMissing)
    else .ok { s with expression := s.expression.dropLast, echoOpen := false }
  else .ok s

def fail (s : Session) (e : ArithError) : Step Session :=
  match cfg.errorPolicy with
  | .latch => do
    note (.latched e)
    pure { s with latched := true }
  | .dialog => do
    note (.cleared false)
    note (.reported e)
    pure { s.clear false with notice := some e }

def record (s : Session) (line : String) : Step Session := do
  note (.recorded line)
  pure { s with history := s.history.add line }

def commit (s : Session) (x : Float) : Step Session :=
  match s.acc.commit x with
  | .error e => do
    note (.refused e s.acc.pending x)
    let failed ← fail cfg s e
    halt (.stop failed ⟨e, s.acc.pending, x⟩)
  | .ok acc => do
    note (.committed s.acc.result s.acc.pending x acc.result)
    let shown := { s with acc, entry := format cfg acc.result }
    match cfg.historyStyle with
    | .step => record shown (format cfg x ++ " " ++ s.acc.pending.label ++ " = " ++ format cfg acc.result)
    | .expression => pure shown

def commitTyped (s : Session) : Step Session :=
  if s.startNew then pure s
  else do
    let x ← lift (entryValue s)
    commit cfg s x

def inputDigit (s : Session) (d : Digit) : Except Halt Session :=
  if s.startNew || !s.entryIsNumber then
    echo { s with entry := if d = .point then "0." else d.label, startNew := false }
  else if d = .point && s.entry.toList.contains '.' then .ok s
  else echo { s with entry := s.entry ++ d.label }

def inputOperator (s : Session) (op : Operator) : Step Session := do
  let s ← if s.startNew then pure s else do
    let s ← commitTyped cfg s
    pure { s with startNew := true }
  let s := { s with echoOpen := false, acc := s.acc.setPending op }
  if op = .equals then
    let s ←
      if cfg.historyStyle = .expression && !s.expression.isEmpty then
        record s (" ".intercalate (s.expression ++ ["=", format cfg s.acc.result]))
      else pure s
    pure { s with expression := [] }
  else
    let lead := if s.expression.isEmpty && op.isBinary then [format cfg s.acc.result] else []
    pure { s with expression := s.expression ++ lead ++ [op.label] }

def openParen (s : Session) : Except Halt Session := do
  let s ← dropEcho s
  pure { s with acc := s.acc.openParen, startNew := true, expression := s.expression ++ ["("] }

def closeParen (s : Session) : Step Session := do
  if s.acc.depth = 0 then return s
  let s ← commitTyped cfg s
  match s.acc.closeParen with
  | none => pure s
  | some (inner, acc) =>
    let s ← commit cfg { s with acc } inner
    pure { s with startNew := true, echoOpen := false, expression := s.expression ++ [")"] }

def backspace (s : Session) : Except Halt Session :=
  if s.startNew then .ok s
  else
    let entry := String.ofList s.entry.toList.dropLast
    if entry = "" || entry = "-" then dropEcho { s with entry := "0", startNew := true }
    else echo { s with entry }

def negate (s : Session) : Except Halt Session := do
  if s.entry = "0" || s.unsigned = Number.nanText then return s
  let s ← if s.startNew then do
      let x ← entryValue s
      pure { s with entry := formatPlain cfg x, startNew := false }
    else pure s
  let entry := match s.entry.toList with
    | '-' :: rest => String.ofList rest
    | cs => String.ofList ('-' :: cs)
  echo { s with entry }

def memory (s : Session) (c : Command) : Step Session := do
  if c = .memoryRecall then
    let m := s.acc.memory
    let s ← lift (echo { s with entry := formatPlain cfg m, startNew := false })
    return ← record s ("Memory Recall: " ++ format cfg m)
  let v ← lift (entryValue s)
  let (acc, line) := match c with
    | .memoryClear => (s.acc.memoryClear, "Memory Cleared")
    | .memoryAdd => (s.acc.memoryAdd v, "Memory + " ++ format cfg v)
    | .memorySubtract => (s.acc.memorySubtract v, "Memory - " ++ format cfg v)
    | _ => (s.acc.memoryStore v, "Memory Store: " ++ format cfg v)
  let s ← lift (dropEcho { s with acc })
  let s ← record { s with startNew := true } line
  note (.memoryNow s.acc.memory)
  pure s

def route (s : Session) : Key → Step Session
  | .command .clear => do
    note (.cleared true)
    pure (s.clear true)
  | .command .cancel => do
    note (.cleared false)
    pure (s.clear false)
  | k =>
    if s.latched then do
      note (.ignored k.label)
      pure s
    else match k with
      | .digit d => lift (inputDigit s d)
      | .operator op => inputOperator cfg s op
      | .command .openParen => lift (openParen s)
      | .command .closeParen => closeParen cfg s
      | .command .backspace => lift (backspace s)
      | .command .negate => lift (negate cfg s)
      | .command c => memory cfg s c

def handle (s : Session) (k : Key) : Outcome :=
  Outcome.ofStep do
    note (.key k.label)
    route cfg { s with notice := none } k

def press (s : Session) (text : String) : Except UnknownKey Outcome :=
  (Key.parse text).map (handle cfg s)

end Session

inductive Interruption where
  | unknown (e : UnknownKey)
  | fault (f : Fault)

def Interruption.className : Interruption → String
  | .unknown _ => "UnknownTokenError"
  | .fault f => f.className

def Interruption.message : Interruption → String
  | .unknown e => e.message
  | .fault f => f.message

def Session.feedKeys (cfg : Settings) (s : Session) : List Key → List Event × Except Fault Session
  | [] => ([], .ok s)
  | k :: ks =>
    let o := s.handle cfg k
    match o.fault with
    | some f => (o.events, .error f)
    | none =>
      let (es, r) := Session.feedKeys cfg o.session ks
      (o.events ++ es, r)

def Session.feed (cfg : Settings) (s : Session) : List String → Except Interruption Session
  | [] => .ok s
  | t :: ts =>
    match s.press cfg t with
    | .error e => .error (.unknown e)
    | .ok o => match o.fault with
      | some f => .error (.fault f)
      | none => Session.feed cfg o.session ts

end PocketCalc
