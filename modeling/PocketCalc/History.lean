import PocketCalc.Text.Blank
namespace PocketCalc

structure History where
  lines : List String := []
  deriving DecidableEq, Repr

namespace History

def add (h : History) (line : String) : History := ⟨h.lines ++ [line]⟩

def clear (_ : History) : History := ⟨[]⟩

def size (h : History) : Nat := h.lines.length

def recent (h : History) (count : Int) : List String :=
  if count ≤ 0 then [] else h.lines.drop (h.lines.length - count.toNat)

def csvField (s : String) : String :=
  if s.toList.any (fun c => c = ',' || c = '"' || c = '\r' || c = '\n') then
    "\"" ++ String.ofList (s.toList.flatMap fun c => if c = '"' then ['"', '"'] else [c]) ++ "\""
  else s

def toCsv (h : History) (stamp : String) : String :=
  "time,entry\r\n" ++ String.join (h.lines.map fun l => csvField stamp ++ "," ++ csvField l ++ "\r\n")

@[simp] theorem lines_add (h : History) (line : String) : (h.add line).lines = h.lines ++ [line] :=
  rfl

@[simp] theorem lines_clear (h : History) : h.clear.lines = [] := rfl

@[simp] theorem size_add (h : History) (line : String) : (h.add line).size = h.size + 1 := by
  simp [size]

theorem recent_of_nonpos (h : History) {count : Int} (hc : count ≤ 0) : h.recent count = [] := by
  simp [recent, hc]

end History

end PocketCalc
