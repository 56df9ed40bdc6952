import PocketCalc.Text.Word
import PocketCalc.Text.Digit
namespace PocketCalc.Text.Highlight

abbrev Stretch := Nat × Nat

def runsOf (cs : Array Char) (p : Char → Bool) : Array Nat :=
  (cs.foldr (fun c (acc : List Nat) => (if p c then acc.headD 0 + 1 else 0) :: acc) []).toArray

def runAt (runs : Array Nat) (i : Nat) : Nat := runs[i]?.getD 0

def holds (t : Array Char) (p : Char → Bool) (i : Nat) : Bool :=
  match t[i]? with
  | some c => p c
  | none => false

def isChar (t : Array Char) (c : Char) (i : Nat) : Bool := holds t (· = c) i

def startsWith (t : Array Char) (w : List Char) (i : Nat) : Bool :=
  (w.zipIdx.all fun (c, k) => isChar t c (i + k))

def wordBefore (t : Array Char) (i : Nat) : Bool := i ≠ 0 && holds t isWordChar (i - 1)

def boundary (t : Array Char) (i : Nat) : Bool := wordBefore t i != holds t isWordChar i

def isAsciiDigit (c : Char) : Bool := '0' ≤ c && c ≤ '9'

def isHexDigit (c : Char) : Bool :=
  isAsciiDigit c || ('a' ≤ c && c ≤ 'f') || ('A' ≤ c && c ≤ 'F')

def isPathChar (c : Char) : Bool := c = '-' || isWordChar c || c = '.' || c = '+'

def isUrlChar (c : Char) : Bool :=
  (c.toNat < 0x80 && c.isAlphanum) || "-$_+!`(),.?/;:&=%#~@".toList.contains c

def isTagNameChar (c : Char) : Bool := c = '-' || isWordChar c || c = '.' || c = ':' || c = '|'

def isBrace (c : Char) : Bool :=
  c = '[' || c = ']' || c = '\x7b' || c = '\x7d' || c = '(' || c = ')'

structure Source where
  chars : Array Char
  digits : Array Nat
  hexes : Array Nat
  words : Array Nat
  names : Array Nat
  decimals : Array Nat
  numerals : Array Nat
  paths : Array Nat
  urls : Array Nat
  tagNames : Array Nat

def Source.of (cs : List Char) : Source :=
  let t := cs.toArray
  { chars := t, digits := runsOf t isAsciiDigit, hexes := runsOf t isHexDigit,
    words := runsOf t isWordChar, names := runsOf t (fun c => isWordChar c || c = '.'),
    decimals := runsOf t isDecimal,
    numerals := runsOf t (fun c => isDecimal c || c = '.' || c = 'e' || c = '+' || c = '-'),
    paths := runsOf t isPathChar, urls := runsOf t isUrlChar, tagNames := runsOf t isTagNameChar }

def octetPoint (t : Source) (i : Nat) : Option Nat :=
  let d := runAt t.digits i
  if 1 ≤ d && d ≤ 3 && isChar t.chars '.' (i + d) then some (i + d + 1) else none

def ipv4 (t : Source) (i : Nat) : Option Nat := do
  let a ← octetPoint t i
  let b ← octetPoint t a
  let c ← octetPoint t b
  let d := runAt t.digits c
  if d = 0 then none else some (c + min d 3)

def hexColons (t : Source) (i : Nat) : Option Nat :=
  let h := runAt t.hexes i
  if 1 ≤ h && h ≤ 4 && isChar t.chars ':' (i + h) then
    some (if isChar t.chars ':' (i + h + 1) then i + h + 2 else i + h + 1)
  else none

def colonGroups (t : Source) : Nat → Nat → List Nat
  | 0, i => [i]
  | n + 1, i =>
    match hexColons t i with
    | some j => i :: colonGroups t n j
    | none => [i]

def hexTail (t : Source) (i : Nat) : Option Nat :=
  let h := runAt t.hexes i
  if h = 0 then none else some (i + min h 4)

def ipv6 (t : Source) (i : Nat) : Option Nat :=
  match (colonGroups t 7 i).reverse with
  | last :: before :: rest =>
    match hexTail t last with
    | some e => some e
    | none => if rest.isEmpty then none else hexTail t before
  | _ => none

def pairGroups (t : Source) (sep : Char) : Nat → Nat → Option Nat
  | 0, i =>
    let h := runAt t.hexes i
    if h = 0 then none else some (i + min h 2)
  | n + 1, i =>
    let h := runAt t.hexes i
    if 1 ≤ h && h ≤ 2 && isChar t.chars sep (i + h) then pairGroups t sep n (i + h + 1)
    else none

def quadGroups (t : Source) : Nat → Nat → Option Nat
  | 0, i => if 4 ≤ runAt t.hexes i then some (i + 4) else none
  | n + 1, i =>
    if runAt t.hexes i = 4 && isChar t.chars '.' (i + 4) then quadGroups t n (i + 5) else none

def mac (t : Source) (n quads : Nat) (i : Nat) : Option Nat :=
  pairGroups t '-' n i <|> pairGroups t ':' n i <|> quadGroups t quads i

def hexDash (t : Source) (n : Nat) (i : Nat) : Option Nat :=
  if runAt t.hexes i = n && isChar t.chars '-' (i + n) then some (i + n + 1) else none

def uuid (t : Source) (i : Nat) : Option Nat := do
  let a ← hexDash t 8 i
  let b ← hexDash t 4 a
  let c ← hexDash t 4 b
  let d ← hexDash t 4 c
  if 12 ≤ runAt t.hexes d then some (d + 12) else none

def call (t : Source) (i : Nat) : Option (Nat × List Stretch) :=
  let n := runAt t.names i
  if isChar t.chars '(' (i + n) then some (i + n + 1, [(i, i + n)]) else none

def constant (t : Source) (i : Nat) : Option Nat :=
  ["True", "False", "None"].findSome? fun w =>
    let e := i + w.length
    if boundary t.chars i && startsWith t.chars w.toList i && boundary t.chars e then some e
    else none

def ellipsis (t : Source) (i : Nat) : Option Nat :=
  if startsWith t.chars ['.', '.', '.'] i then some (i + 3) else none

def realPart (cs : List Char) : Option (List Char) :=
  let n := (cs.takeWhile isAsciiDigit).length
  if n = 0 then none
  else
    let rest := match cs.drop n with
      | '.' :: more => more.dropWhile isAsciiDigit
      | more => more
    match rest with
    | 'e' :: more =>
      let more := match more with
        | c :: m => if c = '+' || c = '-' then m else c :: m
        | [] => []
      let k := (more.takeWhile isDecimal).length
      if k = 0 then none else some (more.drop k)
    | _ => some rest

def complexBody (cs : List Char) : Bool :=
  let cs := match cs with
    | '-' :: more => more
    | _ => cs
  match realPart cs with
  | none => false
  | some [] => true
  | some (c :: more) => (c = '+' || c = '-') && realPart more = some []

def complexNumber (t : Source) (i : Nat) : Option Nat :=
  if wordBefore t.chars i then none
  else
    let n := runAt t.numerals i
    if isChar t.chars 'j' (i + n) && complexBody (t.chars.extract i (i + n)).toList then
      some (i + n + 1)
    else none

def exponentEnds (t : Source) (r : Nat) : List Nat :=
  if isChar t.chars 'e' r then
    let u := if holds t.chars (fun c => c = '+' || c = '-') (r + 1) then r + 2 else r + 1
    (List.range (runAt t.decimals u)).map (u + · + 1) ++ [r]
  else [r]

def decimalNumber (t : Source) (i : Nat) : Option Nat :=
  if wordBefore t.chars i then none
  else
    let a := if isChar t.chars '-' i then i + 1 else i
    let d := runAt t.digits a
    (List.range d).reverse.findSome? fun k =>
      let p := a + k + 1
      let points := if isChar t.chars '.' p then [p + 1, p] else [p]
      points.findSome? fun q =>
        (List.range (runAt t.digits q + 1)).reverse.findSome? fun m =>
          (exponentEnds t (q + m)).find? (boundary t.chars ·)

def hexNumber (t : Source) (i : Nat) : Option Nat :=
  if startsWith t.chars ['0', 'x'] i then some (i + 2 + runAt t.hexes (i + 2)) else none

def pathParts (t : Source) : Nat → Nat → List Nat
  | 0, i => [i]
  | fuel + 1, i =>
    let n := runAt t.paths (i + 1)
    if isChar t.chars '/' i && n ≠ 0 then i :: pathParts t fuel (i + 1 + n) else [i]

def path (t : Source) (i : Nat) : Option (Nat × List Stretch) :=
  if !isChar t.chars '/' i || wordBefore t.chars i then none
  else
    match (pathParts t t.chars.size i).reverse with
    | last :: before =>
      if isChar t.chars '/' last then
        let f := runAt t.paths (last + 1)
        some (last + 1 + f, [(i, last + 1), (last + 1, last + 1 + f)])
      else
        match before with
        | slash :: _ => some (last, [(i, slash + 1), (slash + 1, last)])
        | [] => none
    | [] => none

def closeQuote (t : Source) (q : List Char) : Nat → Nat → Option Nat
  | 0, _ => none
  | fuel + 1, j =>
    if startsWith t.chars q j && !isChar t.chars '\\' (j - 1) then some (j + q.length)
    else if holds t.chars (· ≠ '\n') j then closeQuote t q fuel (j + 1)
    else none

def quoted (t : Source) (i : Nat) : Option Nat :=
  if i ≠ 0 && holds t.chars (fun c => c = '\\' || isWordChar c) (i - 1) then none
  else
    let q := if isChar t.chars 'b' i then i + 1 else i
    let within (quote : List Char) : Option Nat :=
      if startsWith t.chars quote q then closeQuote t quote t.chars.size (q + quote.length)
      else none
    within ['\x27', '\x27', '\x27'] <|> within ['\x27'] <|> within ['"', '"', '"'] <|> within ['"']

def url (t : Source) (i : Nat) : Option Nat :=
  ["file", "https", "http", "ws", "wss"].findSome? fun scheme =>
    let lead := (scheme ++ "://").toList
    if startsWith t.chars lead i then some (i + lead.length + runAt t.urls (i + lead.length))
    else none

def valueAt (t : Source) (i : Nat) : Option (Nat × List Stretch) :=
  let whole (o : Option Nat) : Option (Nat × List Stretch) := o.map fun e => (e, [(i, e)])
  whole (ipv4 t i) <|> whole (ipv6 t i) <|> whole (mac t 7 3 i) <|> whole (mac t 5 2 i) <|>
    whole (uuid t i) <|> call t i <|> whole (constant t i) <|> whole (ellipsis t i) <|>
    whole (complexNumber t i) <|> whole (decimalNumber t i <|> hexNumber t i) <|> path t i <|>
    whole (quoted t i) <|> whole (url t i)

def scan (m : Nat → Option (Nat × List Stretch)) : Nat → Nat → List Stretch
  | 0, _ => []
  | fuel + 1, i =>
    match m i with
    | some (e, ss) => ss ++ scan m fuel (max e (i + 1))
    | none => scan m fuel (i + 1)

def tagStretches (t : Source) : List Stretch :=
  let cs := t.chars.toList
  match cs.idxOf? '<', (cs.reverse.idxOf? '>').map (cs.length - 1 - ·) with
  | some a, some b =>
    if a < b then
      let n := a + 1 + runAt t.tagNames (a + 1)
      [(a, a + 1), (a + 1, n), (n, b), (b, b + 1)]
    else []
  | _, _ => []

def nameValue (t : Source) (i : Nat) : Option (Nat × List Stretch) :=
  let w := runAt t.words i
  if w = 0 || 50 < w || !isChar t.chars '=' (i + w) then none
  else
    let p := i + w + 1
    let value (s : Nat) : Nat :=
      let stop := s + runAt t.words s
      if isChar t.chars '"' stop then stop + 1 else stop
    if isChar t.chars '"' p && holds t.chars isWordChar (p + 1) then
      let f := value (p + 1)
      some (f, [(i, i + w), (p, f)])
    else if holds t.chars isWordChar p then
      let f := value p
      some (f, [(i, i + w), (p, f)])
    else some (p, [(i, i + w)])

def brace (t : Source) (i : Nat) : Option (Nat × List Stretch) :=
  if holds t.chars isBrace i then some (i + 1, [(i, i + 1)]) else none

def requestMethods : List String :=
  ["GET", "POST", "HEAD", "PUT", "DELETE", "OPTIONS", "TRACE", "PATCH"]

def requestMethod (t : Source) (i : Nat) : Option (Nat × List Stretch) :=
  requestMethods.findSome? fun w =>
    if startsWith t.chars w.toList i then some (i + w.length, [(i, i + w.length)]) else none

def valueStretches (cs : List Char) : List Stretch :=
  let t := Source.of cs
  let fuel := t.chars.size + 1
  let found := tagStretches t ++ scan (nameValue t) fuel 0 ++ scan (brace t) fuel 0 ++
    scan (valueAt t) fuel 0
  found.filter fun s => s.1 < s.2

def logStretches (cs : List Char) : List Stretch :=
  valueStretches cs ++ scan (requestMethod (Source.of cs)) (cs.length + 1) 0

end PocketCalc.Text.Highlight
