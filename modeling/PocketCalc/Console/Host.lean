import PocketCalc.Console.Program
namespace PocketCalc.Console

structure Host where
  loaded : Bool := false
  warned : Bool := false
  deriving DecidableEq, Repr

def reloadWarning : String :=
  "<frozen runpy>:128: RuntimeWarning: 'deskcalc.cli' found in sys.modules after import of " ++
  "package 'deskcalc', but prior to execution of 'deskcalc.cli'; this may result in " ++
  "unpredictable behaviour\n"

def Start.keepsLoaded : Start → Bool
  | .package => true
  | _ => false

def Host.warns (h : Host) : Start → Bool
  | .module => h.loaded && !h.warned
  | _ => false

def Host.after (h : Host) (start : Start) (crashed : Bool) : Host where
  loaded := h.loaded || (start.keepsLoaded && crashed)
  warned := h.warned || h.warns start

def Host.run (h : Host) (clock : Clock) (start : Start) (args : List String) (input : String)
    (files : List (String × String)) : Transcript × Host :=
  let t := runProgram clock start args input files
  let t := if h.warns start then { t with err := reloadWarning ++ t.err } else t
  (t, h.after start t.crash.isSome)

theorem warns_fresh (start : Start) : (({} : Host)).warns start = false := by
  cases start <;> rfl

theorem run_fresh (clock : Clock) (start : Start) (args : List String) (input : String)
    (files : List (String × String)) :
    (({} : Host).run clock start args input files).1 = runProgram clock start args input files := by
  simp [Host.run, warns_fresh]

theorem warns_after (h : Host) (start next : Start) (crashed : Bool)
    (hw : h.warns start = true) : (h.after start crashed).warns next = false := by
  cases start <;> cases next <;> simp_all [Host.warns, Host.after]

theorem loaded_after (h : Host) (start : Start) (crashed : Bool) (hl : h.loaded = true) :
    (h.after start crashed).loaded = true := by
  simp [Host.after, hl]

end PocketCalc.Console
