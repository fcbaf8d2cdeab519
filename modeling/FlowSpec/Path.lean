import FlowSpec.Text.Split

/-! Paths with slashes: their shortest form, joining, and the parts at their end. -/

set_option autoImplicit false

namespace FlowSpec.Path

/-- Puts a part behind the parts before it, last first. A part `..` takes the part before it away,
if there is one to take away, and is dropped at the root. -/
def push (isRooted : Bool) (parts : List String) (part : String) : List String :=
  if part == "" || part == "." then parts
  else if part == ".." then
    match parts with
    | [] => if isRooted then [] else [".."]
    | ".." :: _ => ".." :: parts
    | _ :: rest => rest
  else part :: parts

/-- The shortest path that leads to the same place. -/
def clean (path : String) : String :=
  let isRooted := path.toList.head? = some '/'
  let parts := (Text.split "/" path).foldl (push isRooted) []
  let body := Text.join "/" parts.reverse
  if isRooted then "/" ++ body else if body.isEmpty then "." else body

/-- Joins the parts that are not empty. -/
def join (parts : List String) : String :=
  match parts.filter (· ≠ "") with
  | [] => ""
  | given => clean (Text.join "/" given)

/-- The path without its last part. -/
def parent (path : String) : String :=
  let front := (path.toList.reverse.dropWhile (· ≠ '/')).reverse
  clean (String.ofList front)

/-- The last part of a path. -/
def base (path : String) : String :=
  if path.isEmpty then "."
  else
    match path.toList.reverse.dropWhile (· == '/') with
    | [] => "/"
    | rest => String.ofList (rest.takeWhile (· ≠ '/')).reverse

/-- What stands behind the last dot of the last part, with the dot. -/
def extension (path : String) : String :=
  let last := (path.toList.reverse.takeWhile (· ≠ '/'))
  if last.contains '.' then String.ofList ('.' :: (last.takeWhile (· ≠ '.')).reverse) else ""

end FlowSpec.Path
