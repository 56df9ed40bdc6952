import PocketCalc.Json.Reading
import PocketCalc.Json.Writing
import PocketCalc.Settings
namespace PocketCalc.Preferences

open Json

def unifyBreaks : List Char → List Char
  | '\r' :: '\n' :: rest => '\n' :: unifyBreaks rest
  | '\r' :: rest => '\n' :: unifyBreaks rest
  | c :: rest => c :: unifyBreaks rest
  | [] => []

def asRead (text : String) : String := String.ofList (unifyBreaks text.toList)

inductive Problem where
  | unreadable (e : ReadError)
  | notAnObject
  deriving DecidableEq, Repr

def loadRoom : Nat := callLimit - 12

def read (room : Nat) (text : String) : Except Problem (List (Name × Value)) :=
  match readWithin room (asRead text) with
  | .ok (.object fields) => .ok fields
  | .ok _ => .error .notAnObject
  | .error e => .error (.unreadable e)

def load (text : String) : Except ReadError (List (Name × Value)) :=
  match read loadRoom text with
  | .ok fields => .ok (mergeFields Settings.defaultFields fields)
  | .error (.unreadable e) => if e.isMalformed then .ok Settings.defaultFields else .error e
  | .error .notAnObject => .ok Settings.defaultFields

def saveText (fields : List (Name × Value)) : String := (Value.object fields).write .file

end PocketCalc.Preferences
