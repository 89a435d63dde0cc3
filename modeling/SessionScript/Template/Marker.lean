import SessionScript.Text.Blank
import SessionScript.Text.Ranges

/-!
# Markers in texts

A call marker has the form `{{ $name(arguments) }}`, a variable marker the form `{{ path }}` or
`{{{ path }}}`. This module finds them in a text.
-/

namespace SessionScript.Template

/-- The text after white space and two closing braces, if it starts so. -/
def closing? (cs : List Char) : Option (List Char) :=
  match cs.dropWhile Text.isBlank with
  | '\x7d' :: '\x7d' :: rest => some rest
  | _ => none

/-- The arguments of a call with their closing bracket, and the text after its marker. They end at
    the first bracket that closing braces follow, and they stand on one line. -/
def argumentsEnd? : List Char → Option (List Char × List Char)
  | [] => none
  | ')' :: cs =>
    match closing? cs with
    | some rest => some ([')'], rest)
    | none => (argumentsEnd? cs).map fun (args, rest) => (')' :: args, rest)
  | c :: cs =>
    if c == '\n' then none
    else (argumentsEnd? cs).map fun (args, rest) => (c :: args, rest)

/-- A call marker within a text. -/
structure CallMarker where
  before : List Char
  /-- The call from its name to its closing bracket. -/
  call : List Char
  after : List Char
  deriving DecidableEq, Repr

namespace CallMarker

/-- The call of a marker after its opening braces, and the text after the marker. -/
def body? (cs : List Char) : Option (List Char × List Char) :=
  match cs.dropWhile Text.isBlank with
  | '$' :: rest =>
    let name := rest.takeWhile Text.isAsciiWord
    let gap := (rest.drop name.length).takeWhile Text.isBlank
    match rest.drop (name.length + gap.length) with
    | '(' :: arguments =>
      if name.isEmpty then none
      else (argumentsEnd? arguments).map fun (args, after) => (name ++ gap ++ '(' :: args, after)
    | _ => none
  | _ => none

/-- The call of a marker that starts a text, and the text after the marker. -/
def atStart? : List Char → Option (List Char × List Char)
  | '\x7b' :: '\x7b' :: cs => body? cs
  | _ => none

/-- The first call marker of a text. -/
def find? : List Char → Option CallMarker
  | [] => none
  | c :: cs =>
    match atStart? (c :: cs) with
    | some (call, after) => some ⟨[], call, after⟩
    | none => (find? cs).map fun m => { m with before := c :: m.before }

/-- The text with the marker replaced. -/
def splice (m : CallMarker) (replacement : List Char) : List Char :=
  m.before ++ replacement ++ m.after

end CallMarker

/-- Whether a character may stand in a variable marker between its braces. -/
def isInner (c : Char) : Bool := c != '\x7b' && c != '\x7d'

/-- A part of a text: a character, or a variable marker with its path. -/
inductive Piece where
  | char (c : Char)
  | variable (path : List Char)
  deriving DecidableEq, Repr

namespace Piece

/-- The path of a variable marker that starts a text, and the length of the marker. With three
    opening braces it ends with three closing ones. -/
def markerAt? : List Char → Option (List Char × Nat)
  | '\x7b' :: '\x7b' :: '\x7b' :: cs =>
    let inner := cs.takeWhile isInner
    match cs.drop inner.length with
    | '\x7d' :: '\x7d' :: '\x7d' :: _ => some (Text.trimBoth Text.isBlank inner, inner.length + 6)
    | _ => none
  | '\x7b' :: '\x7b' :: cs =>
    let inner := cs.takeWhile isInner
    match cs.drop inner.length with
    | '\x7d' :: '\x7d' :: _ => some (Text.trimBoth Text.isBlank inner, inner.length + 4)
    | _ => none
  | _ => none

/-- The pieces of a text of which some characters belong to a marker before. -/
def listFrom : Nat → List Char → List Piece
  | _, [] => []
  | skip + 1, _ :: cs => listFrom skip cs
  | 0, c :: cs =>
    match markerAt? (c :: cs) with
    | some (path, length) => .variable path :: listFrom (length - 1) cs
    | none => .char c :: listFrom 0 cs

/-- The pieces of a text. Markers do not overlap, and an earlier one comes first. -/
def ofText (cs : List Char) : List Piece := listFrom 0 cs

end Piece

end SessionScript.Template
