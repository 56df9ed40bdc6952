import Std.Time.Zoned
import PocketCalc.Console.Program
namespace PocketCalc.Console

def twoDigits (n : Int) : String :=
  let s := toString n.natAbs
  if s.length < 2 then "0" ++ s else s

def readClock : IO Clock := do
  let t ← Std.Time.PlainDateTime.now
  let time := twoDigits t.time.hour.val ++ ":" ++ twoDigits t.time.minute.val ++ ":" ++
    twoDigits t.time.second.val
  let date := toString t.date.year.toInt ++ "-" ++ twoDigits t.date.month.val ++ "-" ++
    twoDigits t.date.day.val
  return ⟨time, time, date ++ " " ++ time⟩

def presentFiles (inv : Invocation) : IO (List (String × String)) := do
  match inv.options.config with
  | some path =>
    try
      return [(path, ← IO.FS.readFile path)]
    catch _ =>
      return []
  | none => return []

def perform (x : Run α) (r : Report) : IO (Except Stop α × Report) := do
  let (res, r) := (x.run).run r
  let out ← IO.getStdout
  let err ← IO.getStderr
  out.putStr r.out
  err.putStr r.err
  out.flush
  err.flush
  return (res, { r with out := "", err := "" })

def finish (start : List (String × String)) (res : Except Stop Unit) (r : Report) : IO UInt32 := do
  for (name, text) in r.files do
    unless start.contains (name, text) do IO.FS.writeFile name text
  match res with
  | .ok () => return 0
  | .error (.exit n) => return n.toUInt32
  | .error (.crash kind message) =>
    IO.eprintln (kind ++ ": " ++ message)
    return 1

partial def replInteractive (clock : Clock) (cfg : Settings) (s : Session) (r : Report) :
    IO (Except Stop Unit × Report) := do
  let (_, r) ← perform (modify fun r => { r with out := r.out ++ prompt } : Run Unit) r
  let line ← (← IO.getStdin).getLine
  if line.isEmpty then return (.ok (), r)
  let line := String.ofList (line.toList.filter fun c => c ≠ '\n' && c ≠ '\r')
  let (res, r) ← perform (replLine clock cfg s line) r
  match res with
  | .error e => return (.error e, r)
  | .ok none => return (.ok (), r)
  | .ok (some s) => replInteractive clock cfg s r

def run (args : List String) : IO UInt32 := do
  match Invocation.parse args with
  | .error e =>
    IO.eprintln ("Error: " ++ e.message)
    return 2
  | .ok inv =>
    let clock ← readClock
    let start := startingFiles (← presentFiles inv)
    match inv.verb with
    | .repl =>
      let (res, r) ← perform (replStart clock .package inv.options) { files := start }
      match res with
      | .error e => finish start (.error e) r
      | .ok cfg =>
        let (res, r) ← replInteractive clock cfg {} r
        finish start res r
    | _ =>
      let (res, r) ← perform (command clock .package "" inv) { files := start }
      finish start res r

end PocketCalc.Console

def main (args : List String) : IO UInt32 := PocketCalc.Console.run args
