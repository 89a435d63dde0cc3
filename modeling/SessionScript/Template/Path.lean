import SessionScript.Text.Blank
import SessionScript.Text.Digits
import SessionScript.Text.Ranges
import SessionScript.Value.Basic

/-!
# Variable paths

A path such as `user.tags.0` names a variable and, segment by segment, a part of its value.
-/

namespace SessionScript.Template

/-- Whether a text is a variable name: an ASCII letter followed by ASCII letters, digits and
    underscores. -/
def isName : List Char → Bool
  | [] => false
  | c :: cs => Text.isAsciiLetter c && cs.all Text.isAsciiWord

/-- Cuts a text at every dot. -/
def splitDots : List Char → List (List Char)
  | [] => [[]]
  | c :: cs =>
    if c == '.' then [] :: splitDots cs
    else
      match splitDots cs with
      | [] => [[c]]
      | s :: ss => (c :: s) :: ss

/-- A path: a name, and segments that are keys of mappings or indexes of sequences. -/
structure Path where
  segments : List (List Char)
  deriving DecidableEq, Repr

namespace Path

/-- Whether segments form a path: a name, then words of ASCII letters, digits and underscores. -/
def isValid : List (List Char) → Bool
  | [] => false
  | s :: ss => isName s && ss.all fun t => !t.isEmpty && t.all Text.isAsciiWord

/-- Reads a path; blanks around it do not count. -/
def parse? (text : List Char) : Option Path :=
  let segments := splitDots (Text.trimBoth Text.isBlank text)
  if isValid segments then some ⟨segments⟩ else none

/-- One step into a value. A segment of digits is an index where it meets a sequence. -/
def step (segment : List Char) : Value → Option Value
  | .dict es => Entries.get? es (.text (String.ofList segment))
  | .list vs | .tuple vs => (Text.number? 10 segment).bind (vs[·]?)
  | _ => none

/-- The value that segments lead to. Nothing lies behind null. -/
def follow : List (List Char) → Value → Value
  | [], v => v
  | s :: ss, v =>
    match step s v with
    | some .null | none => .null
    | some w => follow ss w

/-- The value of a path among variables, or null. -/
def resolve (p : Path) (vars : Entries) : Value := follow p.segments (.dict vars)

end Path

/-- The value that the text of a path addresses; null if the text is not a path. -/
def lookup (vars : Entries) (path : List Char) : Value :=
  match Path.parse? path with
  | some p => p.resolve vars
  | none => .null

end SessionScript.Template
