import PocketCalc.Text.Emoji
namespace PocketCalc.Text.Markup

def opensTag (c : Char) : Bool := ('a' ≤ c && c ≤ 'z') || c = '#' || c = '/' || c = '@'

def tagBody (acc : List Char) : List Char → Option (List Char × List Char)
  | [] => none
  | c :: rest =>
    if c = ']' then some (acc.reverse, rest)
    else if c = '[' then none
    else tagBody (c :: acc) rest

theorem tagBody_length {acc cs body rest : List Char} (h : tagBody acc cs = some (body, rest)) :
    rest.length < cs.length := by
  induction cs generalizing acc with
  | nil => simp [tagBody] at h
  | cons c cs ih =>
    simp only [tagBody] at h
    split at h
    · simp at h
      simp [← h.2]
    · split at h
      · simp at h
      · have := ih h
        simp
        omega

def tagAhead (cs : List Char) : Option (Nat × List Char × List Char) :=
  match cs.drop (cs.takeWhile (· = '\\')).length with
  | '[' :: c :: more =>
    if opensTag c then
      (tagBody [c] more).map fun (body, after) => ((cs.takeWhile (· = '\\')).length, body, after)
    else none
  | _ => none

theorem tagAhead_length {cs body rest : List Char} {k : Nat}
    (h : tagAhead cs = some (k, body, rest)) : rest.length < cs.length := by
  unfold tagAhead at h
  generalize hd : cs.drop (cs.takeWhile (· = '\\')).length = d at h
  have hlen : d.length ≤ cs.length := by
    rw [← hd]
    simp
  split at h
  · rename_i c more
    split at h
    · simp only [Option.map_eq_some_iff] at h
      obtain ⟨⟨b, r⟩, hb, he⟩ := h
      simp only [Prod.mk.injEq] at he
      obtain ⟨-, -, rfl⟩ := he
      have := tagBody_length hb
      simp at hlen
      omega
    · simp at h
  · simp at h

def escapeChars : List Char → List Char
  | [] => []
  | c :: rest =>
    match h : tagAhead (c :: rest) with
    | some (k, body, after) =>
      have := tagAhead_length h
      List.replicate (2 * k + 1) '\\' ++ '[' :: body ++ ']' :: escapeChars after
    | none => c :: escapeChars rest
termination_by cs => cs.length
decreasing_by
  all_goals simp only [List.length_cons] at *
  all_goals omega

def escape (s : String) : String :=
  let cs := escapeChars s.toList
  if cs.getLast? = some '\\' && !(cs.dropLast.getLast? = some '\\') then String.ofList (cs ++ ['\\'])
  else String.ofList cs

inductive Segment where
  | plain (cs : List Char)
  | tag (name : List Char) (parameters : Option (List Char)) (place : Nat)
  deriving DecidableEq, Repr

def flush (acc : List Char) : List Segment := if acc.isEmpty then [] else [.plain acc.reverse]

def splitTag (body : List Char) : List Char × Option (List Char) :=
  match body.idxOf? '=' with
  | some i => (body.take i, some (body.drop (i + 1)))
  | none => (body, none)

def segments (p : Nat) (acc : List Char) : List Char → List Segment
  | [] => flush acc
  | c :: rest =>
    match h : tagAhead (c :: rest) with
    | some (k, body, after) =>
      have := tagAhead_length h
      let used := (c :: rest).length - after.length
      let slashes : List Segment := if k / 2 = 0 then [] else [.plain (List.replicate (k / 2) '\\')]
      let this : List Segment :=
        if k % 2 = 1 then [.plain ('[' :: body ++ [']'])]
        else
          let (name, parameters) := splitTag body
          [.tag name parameters (p + 2 * (k / 2))]
      flush acc ++ slashes ++ this ++ segments (p + used) [] after
    | none => segments (p + 1) (c :: acc) rest
termination_by cs => cs.length
decreasing_by
  all_goals simp only [List.length_cons] at *
  all_goals omega

def unescapeBracket : List Char → List Char
  | '\\' :: '[' :: rest => '[' :: unescapeBracket rest
  | c :: rest => c :: unescapeBracket rest
  | [] => []

inductive MarkupError where
  | unmatched (tag : String) (place : Nat)
  | nothingToClose (place : Nat)
  deriving DecidableEq, Repr

def MarkupError.message : MarkupError → String
  | .unmatched tag place =>
    "closing tag '" ++ tag ++ "' at position " ++ toString place ++ " doesn't match any open tag"
  | .nothingToClose place => "closing tag '[/]' at position " ++ toString place ++ " has nothing to close"

def styleKey (name : List Char) : List Char :=
  (String.ofList (name.map Emoji.lowerLetter)).trimAscii.toString.toList

def closeStyle (key : List Char) : List (List Char × Nat) → Option (Nat × List (List Char × Nat))
  | [] => none
  | (k, a) :: ks =>
    if k = key then some (a, ks) else (closeStyle key ks).map fun (b, more) => (b, (k, a) :: more)

def shownTag (name : List Char) (parameters : Option (List Char)) : String :=
  match parameters with
  | some ps => "[" ++ String.ofList name ++ "=" ++ String.ofList ps ++ "]"
  | none => "[" ++ String.ofList name ++ "]"

def printSegments (open_ : List (List Char × Nat)) (done : Nat) :
    List Segment → Except MarkupError (List Char × List (Nat × Nat))
  | [] => .ok ([], open_.map fun (_, a) => (a, done))
  | .plain cs :: rest => do
    let piece := Emoji.replaceCodes (unescapeBracket cs)
    let (tail, stretches) ← printSegments open_ (done + piece.length) rest
    pure (piece ++ tail, stretches)
  | .tag name parameters place :: rest =>
    match name with
    | '/' :: style =>
      let key := styleKey style
      let closed := if key.isEmpty then
          match open_ with
          | [] => none
          | (_, a) :: more => some (a, more)
        else closeStyle key open_
      match closed with
      | some (a, more) => do
        let (tail, stretches) ← printSegments more done rest
        pure (tail, (a, done) :: stretches)
      | none =>
        if key.isEmpty then .error (.nothingToClose place)
        else .error (.unmatched (shownTag name parameters) place)
    | _ => printSegments ((styleKey name, done) :: open_) done rest

def renderStyled (markup : String) : Except MarkupError (List Char × List (Nat × Nat)) :=
  let cs := markup.toList
  if cs.contains '[' then printSegments [] 0 (segments 0 [] cs)
  else .ok (Emoji.replaceCodes cs, [])

def render (markup : String) : Except MarkupError String :=
  (renderStyled markup).map fun (cs, _) => String.ofList cs

end PocketCalc.Text.Markup
