import PocketCalc.Console.Layout
namespace PocketCalc.Console

open Text

structure Column where
  header : String
  justify : Justify := .left

structure Rule where
  left : Char
  line : Char
  cross : Char
  right : Char

structure Box where
  top : Rule
  headBar : Char
  headRule : Rule
  bar : Char
  bottom : Rule

def Box.square : Box where
  top := ⟨'┌', '─', '┬', '┐'⟩
  headBar := '│'
  headRule := ⟨'├', '─', '┼', '┤'⟩
  bar := '│'
  bottom := ⟨'└', '─', '┴', '┘'⟩

def Box.heavyHead : Box where
  top := ⟨'┏', '━', '┳', '┓'⟩
  headBar := '┃'
  headRule := ⟨'┡', '━', '╇', '┩'⟩
  bar := '│'
  bottom := ⟨'└', '─', '┴', '┘'⟩

structure Table where
  title : Option (Justify × String) := none
  columns : List Column
  showHeader : Bool := true
  box : Box
  rows : List (List String)

def Rule.draw (r : Rule) (widths : List Nat) : String :=
  String.ofList ([r.left] ++ List.intercalate [r.cross] (widths.map fun w => List.replicate w r.line) ++
    [r.right])

def cellLines (width : Nat) (c : Column) (text : String) : List String :=
  let inner := width - 2
  (layout inner c.justify .ellipsis text).map fun l =>
    " " ++ String.ofList (setCells inner l.toList) ++ " "

def rowLines (bar : Char) (widths : List Nat) (cells : List (List String)) : List String :=
  let height := (cells.map List.length).foldl max 1
  let filled := (widths.zip cells).map fun (w, ls) =>
    ls ++ List.replicate (height - ls.length) (String.ofList (List.replicate w ' '))
  (List.range height).map fun i =>
    String.ofList [bar] ++ String.intercalate (String.ofList [bar]) (filled.map fun ls => ls.getD i "") ++
      String.ofList [bar]

def Table.cellTexts (t : Table) : List (List String) :=
  (if t.showHeader then [t.columns.map (·.header)] else []) ++ t.rows

def Table.widths (t : Table) (room : Nat) : List Nat :=
  let border := 2 + (t.columns.length - 1)
  let available := room - border
  (List.range t.columns.length).map fun i =>
    let widest := (t.cellTexts.map fun row => widthOf (row.getD i "")).foldl max 0
    max 1 (min (widest + 2) available)

def Table.lines (t : Table) (room : Nat) : List String :=
  let widths := t.widths room
  let total := widths.foldr (· + ·) 0 + 2 + (t.columns.length - 1)
  let row (bar : Char) (texts : List String) : List String :=
    rowLines bar widths ((widths.zip (t.columns.zip texts)).map fun (w, c, s) => cellLines w c s)
  let title := match t.title with
    | some (j, s) => layout total j .fold s
    | none => []
  let head :=
    if t.showHeader then row t.box.headBar (t.columns.map (·.header)) ++ [t.box.headRule.draw widths]
    else []
  title ++ [t.box.top.draw widths] ++ head ++ t.rows.flatMap (row t.box.bar) ++ [t.box.bottom.draw widths]

end PocketCalc.Console
