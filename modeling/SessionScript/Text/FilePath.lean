/-!
# File paths

A path as messages show it: its parts with a slash between them, without those that lead nowhere.
-/

namespace SessionScript.Text.FilePath

/-- The parts of a path. -/
def parts : List Char → List (List Char)
  | [] => [[]]
  | c :: cs =>
    if c == '/' then [] :: parts cs
    else
      match parts cs with
      | [] => [[c]]
      | p :: ps => (c :: p) :: ps

/-- What the slashes at the start of a path leave of themselves: exactly two stay two, and any other
    number becomes one. -/
def rootOf : List Char → String
  | '/' :: '/' :: '/' :: _ => "/"
  | '/' :: '/' :: _ => "//"
  | '/' :: _ => "/"
  | _ => ""

/-- A path without empty parts and without parts that are one dot. A path in which nothing else
    stands is one dot. -/
def normal (path : String) : String :=
  let cs := path.toList
  let kept := (parts cs).filter fun p => !p.isEmpty && p != ['.']
  let shown := rootOf cs ++ String.intercalate "/" (kept.map String.ofList)
  if shown.isEmpty then "." else shown

end SessionScript.Text.FilePath
