import PocketCalc.Text.CodePoint
namespace PocketCalc.Json

open Text

inductive Name where
  | text (s : String)
  | loose (points : List CodePoint)
  deriving DecidableEq, Repr, Inhabited

instance : Coe String Name := ⟨Name.text⟩

def Name.ofPoints (ps : List CodePoint) : Name :=
  match CodePoint.toString? ps with
  | some s => .text s
  | none => .loose ps

def Name.points : Name → List CodePoint
  | .text s => CodePoint.ofString s
  | .loose ps => ps

def Name.lossy : Name → String
  | .text s => s
  | .loose ps => CodePoint.lossy ps

inductive Value where
  | null
  | bool (b : Bool)
  | int (n : Int)
  | float (x : Float)
  | str (s : String)
  | loose (points : List CodePoint)
  | array (items : List Value)
  | object (fields : List (Name × Value))
  deriving Inhabited

def Value.ofPoints (ps : List CodePoint) : Value :=
  match CodePoint.toString? ps with
  | some s => .str s
  | none => .loose ps

namespace Value

def field? (v : Value) (name : String) : Option Value :=
  match v with
  | .object fields => fields.lookup (Name.text name)
  | _ => none

end Value

def setField (fields : List (Name × Value)) (name : Name) (v : Value) :
    List (Name × Value) :=
  if fields.any (·.1 == name) then fields.map fun p => if p.1 == name then (name, v) else p
  else fields ++ [(name, v)]

def mergeFields (base extra : List (Name × Value)) : List (Name × Value) :=
  extra.foldl (fun acc p => setField acc p.1 p.2) base

end PocketCalc.Json
