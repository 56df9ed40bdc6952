import PocketCalc.Text.Quote
namespace PocketCalc.Console

open Text

def pathParts (path : String) : List String :=
  (path.splitOn "/").filter fun p => p != "" && p != "."

def pathRoot (path : String) : String :=
  if path.startsWith "//" && !path.startsWith "///" then "//"
  else if path.startsWith "/" then "/"
  else ""

def joinPath (root : String) (parts : List String) : String :=
  let s := root ++ "/".intercalate parts
  if s.isEmpty then "." else s

def pathName (path : String) : String := joinPath (pathRoot path) (pathParts path)

def foldParents (absolute : Bool) (kept : List String) : List String → List String
  | [] => kept.reverse
  | ".." :: rest =>
    match kept with
    | k :: ks => if k == ".." then foldParents absolute (".." :: kept) rest else foldParents absolute ks rest
    | [] => if absolute then foldParents absolute [] rest else foldParents absolute [".."] rest
  | p :: rest => foldParents absolute (p :: kept) rest

def tidyPath (path : String) : String :=
  let root := pathRoot path
  joinPath root (foldParents (!root.isEmpty) [] (pathParts path))

inductive Place where
  | directory
  | file (name : String)
  | device
  | vacant (name : Option String)
  | nowhere
  | pastFile
  deriving DecidableEq, Repr

inductive Spot where
  | inside (dirs : List String)
  | outside (dirs : List String)
  deriving DecidableEq, Repr

def hostDirectories : List (List String) :=
  [] :: (["bin", "boot", "dev", "etc", "home", "lib", "media", "mnt", "opt", "proc", "root", "run",
    "sbin", "srv", "sys", "tmp", "usr", "var"].map fun d => [d])

def hostDevices : List (List String) := [["dev", "null"]]

def workingParent : List String := ["tmp"]

def isFolder (names : List String) (name : String) : Bool :=
  names.any (·.startsWith (name ++ "/"))

def follow (names : List String) : Spot → List String → Place
  | _, [] => .directory
  | .inside dirs, ".." :: rest =>
    if dirs.isEmpty then follow names (.outside workingParent) rest
    else follow names (.inside dirs.dropLast) rest
  | .outside dirs, ".." :: rest => follow names (.outside dirs.dropLast) rest
  | .inside dirs, part :: rest =>
    let name := "/".intercalate (dirs ++ [part])
    if names.contains name then (if rest.isEmpty then .file name else .pastFile)
    else if isFolder names name then follow names (.inside (dirs ++ [part])) rest
    else if rest.isEmpty then .vacant (some name)
    else .nowhere
  | .outside dirs, part :: rest =>
    if hostDirectories.contains (dirs ++ [part]) then follow names (.outside (dirs ++ [part])) rest
    else if hostDevices.contains (dirs ++ [part]) then (if rest.isEmpty then .device else .pastFile)
    else if rest.isEmpty then .vacant none
    else .nowhere

def locate (names : List String) (path : String) : Place :=
  follow names (if (pathRoot path).isEmpty then .inside [] else .outside []) (pathParts path)

inductive FileFault where
  | isDirectory
  | notDirectory
  | notFound
  deriving DecidableEq, Repr

def FileFault.className : FileFault → String
  | .isDirectory => "IsADirectoryError"
  | .notDirectory => "NotADirectoryError"
  | .notFound => "FileNotFoundError"

def FileFault.message (f : FileFault) (path : String) : String :=
  let reason := match f with
    | .isDirectory => "[Errno 21] Is a directory: "
    | .notDirectory => "[Errno 20] Not a directory: "
    | .notFound => "[Errno 2] No such file or directory: "
  reason ++ quote path

def Place.writeTarget : Place → Except FileFault (Option String)
  | .directory => .error .isDirectory
  | .file name => .ok (some name)
  | .device => .ok none
  | .vacant name => .ok name
  | .nowhere => .error .notFound
  | .pastFile => .error .notDirectory

end PocketCalc.Console
