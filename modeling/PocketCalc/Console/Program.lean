import PocketCalc.Console.Disk
import PocketCalc.Console.Invocation
import PocketCalc.Console.Log
import PocketCalc.Console.Table
import PocketCalc.Preferences
import PocketCalc.Session.Router
import PocketCalc.Text.Markup
namespace PocketCalc.Console

open Json Text

def screenWidth : Nat := 80

structure Clock where
  screen : String
  file : String
  stamp : String

structure Logger where
  threshold : Level := .warning
  file : Option String := none
  timeShown : Bool := false

structure Report where
  out : String := ""
  err : String := ""
  files : List (String × String) := []
  logger : Logger := {}

inductive Stop where
  | exit (status : Nat)
  | crash (kind message : String)

abbrev Run := ExceptT Stop (StateM Report)

def screenLines (s : Styled) : String :=
  String.join ((printedLines screenWidth .plain .fold false s).map (· ++ "\n"))

def screenText (text : String) : String := screenLines ⟨dropControls text.toList, []⟩

def say (text : String) : Run Unit := modify fun r => { r with out := r.out ++ screenText text }

def sayLines (lines : List String) : Run Unit :=
  modify fun r => { r with out := r.out ++ String.join (lines.map (· ++ "\n")) }

def warnText (text : String) : Run Unit := modify fun r => { r with err := r.err ++ screenText text }

def warnMarkup (markup : String) : Run Unit :=
  match Markup.renderStyled markup with
  | .ok (cs, stretches) =>
    let s := Styled.dropControls ⟨cs, stretches⟩
    let s := { s with stretches := s.stretches ++ Highlight.valueStretches s.chars }
    modify fun r => { r with err := r.err ++ screenLines s }
  | .error e => throw (.crash "MarkupError" e.message)

def writeFile (name text : String) : Run Unit :=
  modify fun r =>
    if r.files.any (·.1 == name) then
      { r with files := r.files.map fun f => if f.1 == name then (name, text) else f }
    else { r with files := r.files ++ [(name, text)] }

def appendFile (name text : String) : Run Unit :=
  modify fun r =>
    { r with files := r.files.map fun f => if f.1 == name then (name, f.2 ++ text) else f }

def log (clock : Clock) (rec : Record) : Run Unit := do
  let r ← get
  if r.logger.threshold.rank ≤ rec.level.rank then
    let time := if r.logger.timeShown then String.ofList (spaces (cellsOf clock.screen.toList)) else clock.screen
    let lines := rec.screenLines screenWidth time
    set { r with err := r.err ++ String.join (lines.map (· ++ "\n")),
                 logger := { r.logger with timeShown := true } }
    if let some name := r.logger.file then appendFile name (rec.fileLine clock.file ++ "\n")

def place (path : String) : Run Place := do
  pure (locate ((← get).files.map (·.1)) path)

def writeTarget (path : String) : Run (Option String) := do
  match (← place path).writeTarget with
  | .ok target => pure target
  | .error f => throw (.crash f.className (f.message path))

def startLogging (clock : Clock) (verbose : Bool) (file : Option String) : Run Unit := do
  let file ← match file with
    | some path =>
      if path.isEmpty then pure none
      else do
        let target ← writeTarget (tidyPath path)
        if let some name := target then writeFile name ""
        pure target
    | none => pure none
  modify fun r => { r with logger := { threshold := if verbose then .debug else .warning, file } }
  log clock ⟨.debug, "deskcalc", "Logging initialized."⟩

inductive Start where
  | invoked
  | package
  | module
  deriving DecidableEq, Repr

def Start.calls : Start → Verb → Nat
  | .invoked, _ => 21
  | .package, .repl => 27
  | .package, _ => 28
  | .module, .repl => 26
  | .module, _ => 27

def Start.room (s : Start) (v : Verb) : Nat := callLimit - s.calls v

def preferencesIn (clock : Clock) (room : Nat) (p text : String) :
    Run (List (Name × Value)) := do
  let warn (msg : String) : Run Unit := log clock ⟨.warning, "deskcalc.config", msg⟩
  match Preferences.read room text with
  | .ok fields =>
    log clock ⟨.debug, "deskcalc.config", "Loaded config from " ++ p⟩
    pure (mergeFields Settings.defaultFields fields)
  | .error .notAnObject =>
    warn ("Ignoring config '" ++ p ++ "': expected a JSON object")
    pure Settings.defaultFields
  | .error (.unreadable e) =>
    if e.isMalformed then
      warn ("Could not read config '" ++ p ++ "': " ++ e.message (Preferences.asRead text))
      pure Settings.defaultFields
    else throw (.crash e.className (e.message (Preferences.asRead text)))

def preferencesAt (clock : Clock) (room : Nat) (path : String) : Run (List (Name × Value)) := do
  let p := pathName path
  match ← place p with
  | .file name =>
    preferencesIn clock room p ((((← get).files.find? (·.1 == name)).map (·.2)).getD "")
  | .device => preferencesIn clock room p ""
  | .directory =>
    log clock ⟨.warning, "deskcalc.config",
      "Could not read config '" ++ p ++ "': " ++ FileFault.isDirectory.message p⟩
    pure Settings.defaultFields
  | _ => pure Settings.defaultFields

def choose (prefs : List (Name × Value)) (field : String) (names : List String) (what : String)
    (choice : Option String) : Run (List (Name × Value)) :=
  match choice with
  | some c =>
    if c.isEmpty then pure prefs
    else if names.contains c then pure (setField prefs field (.str c))
    else do
      warnMarkup ("[red]Invalid " ++ what ++ ": " ++ Markup.escape c ++ "[/red]. Choose: " ++
        ", ".intercalate names)
      throw (.exit 1)
  | none => pure prefs

def settingsFor (clock : Clock) (room : Nat) (o : Options) : Run Settings := do
  let prefs ← match o.config with
    | some path => preferencesAt clock room path
    | none => pure Settings.defaultFields
  let prefs ← choose prefs "error_policy" ["latch", "dialog"] "policy" o.policy
  let prefs ← choose prefs "history_style" ["expression", "step"] "history style" o.historyStyle
  match Settings.ofFields prefs with
  | .ok cfg => pure cfg
  | .error e =>
    if e.className == "ValueError" then do
      warnMarkup ("[red]" ++ Markup.escape e.message ++ "[/red]")
      throw (.exit 1)
    else throw (.crash e.className e.message)

def feed (clock : Clock) (cfg : Settings) (s : Session) (keys : List Key) : Run Session := do
  let (events, result) := s.feedKeys cfg keys
  for e in events do log clock e.record
  match result with
  | .ok s => pure s
  | .error f => throw (.crash f.className f.message)

def feedLine (clock : Clock) (cfg : Settings) (s : Session) (line : String) : Run (Option Session) :=
  match Key.tokenize line with
  | .error e => do
    warnMarkup ("[red]" ++ Markup.escape e.message ++ "[/red]")
    pure none
  | .ok keys => some <$> feed clock cfg s keys

def historyPanel (lines : List String) : List String :=
  Table.lines
    { title := some (.left, "History"), columns := [⟨"Entry", .left⟩], showHeader := false,
      box := .square, rows := lines.map fun l => [l] } screenWidth

def showSession (cfg : Settings) (s : Session) (withHistory : Bool) : Run Unit := do
  let v := s.view cfg
  if let some n := v.notice then warnText ("Error: " ++ n)
  say v.displayText
  if withHistory && !v.historyLines.isEmpty then sayLines (historyPanel v.historyLines)

def exportHistory (clock : Clock) (s : Session) (path : String) : Run Unit := do
  let p := pathName path
  if let some name ← writeTarget p then writeFile name (s.history.toCsv clock.stamp)
  log clock ⟨.info, "deskcalc.history", "Exported " ++ toString s.history.size ++ " history entries to " ++ p⟩
  warnMarkup ("History written to " ++ p)

def evalCommand (clock : Clock) (start : Start) (o : Options) (words : List String) : Run Unit := do
  startLogging clock o.verbose o.logFile
  let cfg ← settingsFor clock (start.room .eval) o
  match ← feedLine clock cfg {} (" ".intercalate words) with
  | none => throw (.exit 1)
  | some s =>
    showSession cfg s true
    if let some path := o.exportHistory then exportHistory clock s path

def isQuitWord (line : String) : Bool :=
  let w := String.ofList ((Text.trim line).toList.map Key.foldCase)
  w == "quit" || w == "exit" || w == "q"

def prompt : String := "> "

def replStart (clock : Clock) (start : Start) (o : Options) : Run Settings := do
  startLogging clock o.verbose none
  let cfg ← settingsFor clock (start.room .repl) o
  showSession cfg {} false
  pure cfg

def replLine (clock : Clock) (cfg : Settings) (s : Session) (line : String) : Run (Option Session) := do
  if isQuitWord line then return none
  if (Text.trim line).isEmpty then return some s
  let s := (← feedLine clock cfg s line).getD s
  showSession cfg s true
  pure (some s)

def replLoop (clock : Clock) (cfg : Settings) (s : Session) : List String → Run Unit
  | [] => modify fun r => { r with out := r.out ++ prompt }
  | line :: rest => do
    modify fun r => { r with out := r.out ++ prompt }
    match ← replLine clock cfg s line with
    | none => pure ()
    | some s => replLoop clock cfg s rest

def inputLines (text : String) : List String :=
  let lines := (Preferences.asRead text).splitOn "\n"
  if lines.getLast? = some "" then lines.dropLast else lines

def tokenTable : List String :=
  [""] ++
    Table.lines
      { title := some (.center, "Tokens"),
        columns := [⟨"Kind", .left⟩, ⟨"Token", .center⟩, ⟨"Aliases", .left⟩],
        box := .heavyHead,
        rows := Key.catalogue.map fun (k, l, a) => [k, l, a] } screenWidth ++ [""]

def command (clock : Clock) (start : Start) (input : String) (inv : Invocation) : Run Unit :=
  match inv.verb with
  | .eval => evalCommand clock start inv.options inv.words
  | .repl => do
    let cfg ← replStart clock start inv.options
    replLoop clock cfg {} (inputLines input)
  | .tokens => sayLines tokenTable

structure Transcript where
  status : Nat
  out : String
  err : String
  created : List (String × String)
  crash : Option (String × String)

def startingFiles (files : List (String × String)) : List (String × String) :=
  files.map fun f => (pathName f.1, f.2)

def runProgram (clock : Clock) (start : Start) (args : List String) (input : String)
    (files : List (String × String)) :
    Transcript :=
  match Invocation.parse args with
  | .error e => ⟨2, "", "Error: " ++ e.message ++ "\n", [], none⟩
  | .ok inv =>
    let present := startingFiles files
    let (result, r) := (command clock start input inv).run.run { files := present }
    let created := r.files.filter fun f => !present.any (·.1 == f.1)
    match result with
    | .ok () => ⟨0, r.out, r.err, created, none⟩
    | .error (.exit n) => ⟨n, r.out, r.err, created, none⟩
    | .error (.crash kind message) => ⟨1, r.out, r.err, created, some (kind, message)⟩

end PocketCalc.Console
