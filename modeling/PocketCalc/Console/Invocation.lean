namespace PocketCalc.Console

inductive Verb where
  | eval
  | repl
  | tokens
  deriving DecidableEq, Repr

structure Options where
  policy : Option String := none
  historyStyle : Option String := none
  config : Option String := none
  exportHistory : Option String := none
  verbose : Bool := false
  logFile : Option String := none
  deriving DecidableEq, Repr

structure Invocation where
  verb : Verb
  options : Options := {}
  words : List String := []
  deriving DecidableEq, Repr

inductive UsageError where
  | noCommand
  | unknownCommand (name : String)
  | unknownOption (name : String)
  | missingValue (name : String)
  | unexpectedValue (name : String)
  | missingArgument
  | extraArgument (arg : String)
  deriving DecidableEq, Repr

def UsageError.message : UsageError → String
  | .noCommand => "Missing command."
  | .unknownCommand name => "No such command '" ++ name ++ "'."
  | .unknownOption name => "No such option: " ++ name
  | .missingValue name => "Option '" ++ name ++ "' requires an argument."
  | .unexpectedValue name => "Option '" ++ name ++ "' does not take a value."
  | .missingArgument => "Missing argument 'TOKENS...'."
  | .extraArgument arg => "Got unexpected extra argument (" ++ arg ++ ")"

def valueOption? (verb : Verb) (name : String) : Option (String → Options → Options) :=
  match verb, name with
  | .eval, "--policy" | .eval, "-p" | .repl, "--policy" | .repl, "-p" =>
    some fun v o => { o with policy := some v }
  | .eval, "--history-style" | .repl, "--history-style" =>
    some fun v o => { o with historyStyle := some v }
  | .eval, "--config" | .eval, "-c" | .repl, "--config" | .repl, "-c" =>
    some fun v o => { o with config := some v }
  | .eval, "--export-history" => some fun v o => { o with exportHistory := some v }
  | .eval, "--log-file" => some fun v o => { o with logFile := some v }
  | _, _ => none

def isFlag (verb : Verb) (name : String) : Bool :=
  verb != .tokens && (name == "--verbose" || name == "-v")

inductive ShortEnd where
  | done (o : Options)
  | needsValue (name : String) (set : String → Options → Options) (o : Options)

def readShort (verb : Verb) : List Char → Options → Except UsageError ShortEnd
  | [], o => .ok (.done o)
  | c :: more, o =>
    let name := String.ofList ['-', c]
    if isFlag verb name then readShort verb more { o with verbose := true }
    else match valueOption? verb name with
      | some set =>
        if more.isEmpty then .ok (.needsValue name set o)
        else .ok (.done (set (String.ofList more) o))
      | none => .error (.unknownOption name)

def readArgs (verb : Verb) (words : List String) : List String → Options → Except UsageError (Options × List String)
  | [], o => .ok (o, words.reverse)
  | a :: rest, o =>
    if a == "--" then .ok (o, words.reverse ++ rest)
    else if a.startsWith "--" then
      match a.splitOn "=" with
      | name :: v :: more =>
        if isFlag verb name then .error (.unexpectedValue name)
        else match valueOption? verb name with
          | some set => readArgs verb words rest (set ("=".intercalate (v :: more)) o)
          | none => .error (.unknownOption name)
      | _ =>
        if isFlag verb a then readArgs verb words rest { o with verbose := true }
        else match valueOption? verb a, rest with
          | some set, v :: rest' => readArgs verb words rest' (set v o)
          | some _, [] => .error (.missingValue a)
          | none, _ => .error (.unknownOption a)
    else if a.startsWith "-" && 1 < a.length then
      match readShort verb (a.toList.drop 1) o with
      | .error e => .error e
      | .ok (.done o) => readArgs verb words rest o
      | .ok (.needsValue name set o) =>
        match rest with
        | v :: rest' => readArgs verb words rest' (set v o)
        | [] => .error (.missingValue name)
    else readArgs verb (a :: words) rest o

def Invocation.parse (args : List String) : Except UsageError Invocation := do
  match args with
  | [] => throw .noCommand
  | cmd :: rest =>
    let verb ← match cmd with
      | "eval" => pure Verb.eval
      | "repl" => pure .repl
      | "tokens" => pure .tokens
      | other => throw (.unknownCommand other)
    let (options, words) ← readArgs verb [] rest {}
    match verb, words with
    | .eval, [] => throw .missingArgument
    | .eval, _ => pure ⟨verb, options, words⟩
    | _, [] => pure ⟨verb, options, []⟩
    | _, w :: _ => throw (.extraArgument w)

end PocketCalc.Console
