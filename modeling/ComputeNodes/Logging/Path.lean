/-
Paths of log files.

A path is a row of names.  Empty names and single dots lead nowhere, and two dots lead back from
the name before them; only at the start of a path that is not absolute they stay.
-/
import ComputeNodes.Error
import ComputeNodes.Text.Split

namespace ComputeNodes.Logging

/-- Goes on by one name from the names so far, of which the last one comes first. -/
def step (absolute : Bool) (sofar : List String) (name : String) : List String :=
  if name = "" ∨ name = "." then sofar
  else if name = ".." then
    match sofar with
    | [] => if absolute then [] else [name]
    | last :: before => if last = ".." then name :: sofar else before
  else name :: sofar

/-- The shortest path to the same file. -/
def shortestPath (path : String) : String :=
  let absolute := path.toList.head? == some '/'
  let names := ((path.splitOn "/").foldl (step absolute) []).reverse
  let row := "/".intercalate names
  if absolute then "/" ++ row else if row = "" then "." else row

/-- The path of a log file; no path holds the character that ends one. -/
def filePath (path : String) : Except Error String :=
  if '\x00' ∈ path.toList then .error .brokenPath else .ok (shortestPath path)

end ComputeNodes.Logging
