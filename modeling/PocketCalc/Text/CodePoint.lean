namespace PocketCalc.Text

inductive CodePoint where
  | char (c : Char)
  | surrogate (code : Nat)
  deriving DecidableEq, Repr, Inhabited

def isSurrogate (n : Nat) : Bool := 0xD800 ≤ n && n ≤ 0xDFFF

def CodePoint.ofNat (n : Nat) : CodePoint :=
  if isSurrogate n then .surrogate n else .char (Char.ofNat n)

def CodePoint.char? : CodePoint → Option Char
  | .char c => some c
  | .surrogate _ => none

def CodePoint.ofString (s : String) : List CodePoint := s.toList.map .char

def CodePoint.toString? (ps : List CodePoint) : Option String :=
  (ps.mapM CodePoint.char?).map String.ofList

def CodePoint.lossy (ps : List CodePoint) : String :=
  String.ofList (ps.map fun p => p.char?.getD '�')

@[simp]
theorem char?_comp_char : CodePoint.char? ∘ CodePoint.char = some := rfl

theorem mapM_char?_chars (cs : List Char) :
    (cs.map CodePoint.char).mapM CodePoint.char? = some cs := by
  induction cs with
  | nil => rfl
  | cons c cs ih => simp [List.mapM_cons, ih, CodePoint.char?]

theorem filterMap_char?_chars (cs : List Char) :
    (cs.map CodePoint.char).filterMap CodePoint.char? = cs := by
  induction cs with
  | nil => rfl
  | cons c cs ih => simp only [List.map_cons, List.filterMap_cons, CodePoint.char?, ih]

theorem toString?_ofString (s : String) :
    CodePoint.toString? (CodePoint.ofString s) = some s := by
  rw [CodePoint.toString?, CodePoint.ofString, mapM_char?_chars]
  simp

end PocketCalc.Text
