import SessionScript.Text.Blank
import SessionScript.Text.Lines

/-!
# Searching and cutting texts

Where a text occurs in another one, and a text cut at blanks, at a separator or at its line ends.
-/

namespace SessionScript.Text

/-- The first position of a part in a text, counted from a position on. -/
def findFrom (part : List Char) : Nat → List Char → Option Nat
  | at', [] => if part.isEmpty then some at' else none
  | at', c :: cs => if part.isPrefixOf (c :: cs) then some at' else findFrom part (at' + 1) cs

/-- The first position of a part in a text. -/
def find? (part cs : List Char) : Option Nat := findFrom part 0 cs

/-- The last position of a part in a text. -/
def findLast? (part cs : List Char) : Option Nat :=
  (findFrom part.reverse 0 cs.reverse).map fun n => cs.length - part.length - n

/-- Cuts a text at a separator that is not empty, at most some times. The characters of the piece
    at hand come first, reversed; after a cut the rest of the separator is skipped. -/
def cutAt (separator : List Char) : Nat → Nat → List Char → List Char → List (List Char)
  | _, _, piece, [] => [piece.reverse]
  | most, skip + 1, piece, _ :: cs => cutAt separator most skip piece cs
  | 0, 0, piece, c :: cs => [piece.reverse ++ c :: cs]
  | most + 1, 0, piece, c :: cs =>
    if separator.isPrefixOf (c :: cs) then
      piece.reverse :: cutAt separator most (separator.length - 1) [] cs
    else cutAt separator (most + 1) 0 (c :: piece) cs

/-- Cuts a text at a separator, at most some times. -/
def splitAt (separator : List Char) (most : Nat) (cs : List Char) : List (List Char) :=
  cutAt separator most 0 [] cs

/-- Cuts a text at a separator from its end on, at most some times. -/
def splitAtLast (separator : List Char) (most : Nat) (cs : List Char) : List (List Char) :=
  ((splitAt separator.reverse most cs.reverse).map List.reverse).reverse

/-- The words of a text between blanks. After some number of cuts the rest is one piece. The first
    argument exceeds the length of the text. -/
def wordsFrom : Nat → Nat → List Char → List (List Char)
  | 0, _, _ => []
  | fuel + 1, most, cs =>
    match cs.dropWhile isBlank with
    | [] => []
    | rest =>
      match most with
      | 0 => [rest]
      | most + 1 =>
        rest.takeWhile (!isBlank ·) :: wordsFrom fuel most (rest.dropWhile (!isBlank ·))

/-- The words of a text between blanks, cut at most some times. -/
def words (most : Nat) (cs : List Char) : List (List Char) := wordsFrom (cs.length + 1) most cs

/-- The words of a text between blanks, cut from its end on at most some times. -/
def wordsLast (most : Nat) (cs : List Char) : List (List Char) :=
  ((words most cs.reverse).map List.reverse).reverse

/-- A text with a part replaced by another one, at most some times. An empty part stands before
    every character and at the end. -/
def replace (old new : List Char) (most : Nat) (cs : List Char) : List Char :=
  if old.isEmpty then
    let marked := (cs.take most).flatMap fun c => new ++ [c]
    let rest := cs.drop most
    if cs.length < most then marked ++ new else marked ++ rest
  else new.intercalate (splitAt old most cs)

/-- How often a part occurs in a text without overlap. -/
def count (part cs : List Char) : Nat :=
  if part.isEmpty then cs.length + 1 else (splitAt part cs.length cs).length - 1

/-- The lines of a text with the characters that end them. -/
def linesKept : List Char → List Char → List (List Char)
  | [], [] => []
  | line, [] => [line.reverse]
  | line, '\r' :: '\n' :: cs => (line.reverse ++ ['\r', '\n']) :: linesKept [] cs
  | line, c :: cs =>
    if isLineEnd c then (line.reverse ++ [c]) :: linesKept [] cs else linesKept (c :: line) cs

end SessionScript.Text
