import SessionScript.Text.Numeral
import SessionScript.Text.Quoted
import SessionScript.Text.Utf8
import SessionScript.Yaml.Cursor
import SessionScript.Yaml.Fault
import SessionScript.Yaml.Token

/-!
# Reading scalars, tags and directives

The tokens that have a text of their own. Each reader starts at a cursor and gives what it read
and the cursor after it.
-/

namespace SessionScript.Yaml.Scan

/-- A character in quotes, as messages show it. -/
def shownChar (c : Char) : String := Text.quoted c.toString

/-- What a construct is called in messages, and where it starts. -/
structure Context where
  text : String
  start : Mark

/-- A fault of the scanner. -/
def fault (context : Option Context) (problem : String) (place : Mark) : Fault :=
  .marked .scanning
    { context := context.map (·.text)
      contextMark := context.map (·.start)
      problem := some problem
      problemMark := some place }

/-- The fault of a character that is not the expected one. -/
def unexpectedAt (x : Context) (expected : String) (found : Char) (place : Mark) : Fault :=
  fault (some x) ("expected " ++ expected ++ ", but found " ++ shownChar found) place

/-- The fault of the next character. -/
def unexpected (x : Context) (expected : String) (c : Cursor) : Fault :=
  unexpectedAt x expected c.peek c.mark

/-- What is expected where a name should stand. -/
def nameExpected : String := "alphabetic or numeric character"

/-- A name of at least one character, and a character after it that passes a test. -/
def name (x : Context) (follows : Char → Bool) (c : Cursor) : Except Fault (String × Cursor) :=
  let (cs, after) := c.span isNameChar
  if cs.isEmpty then .error (unexpected x nameExpected c)
  else if follows after.peek then .ok (String.ofList cs, after)
  else .error (unexpected x nameExpected after)

/-- Hexadecimal digits that come next, exactly so many; the first other character is the fault. -/
def hexNumber (x : Context) (expected : String) (width : Nat) (c : Cursor) :
    Except Fault (Nat × Cursor) :=
  let digits := (c.rest.take width).takeWhile fun d => (Text.digitValue? 16 d).isSome
  if digits.length < width then
    .error (unexpectedAt x expected (c.peekAt digits.length) c.mark)
  else .ok ((Text.number? 16 digits).getD 0, c.skip width)

/-- The bytes of percent escapes in a row. -/
def escapedBytes (x : Context) : Nat → Cursor → Except Fault (List UInt8 × Cursor)
  | 0, c => .ok ([], c)
  | n + 1, c =>
    if c.peek == '%' then do
      let (b, c) ← hexNumber x "URI escape sequence of 2 hexadecimal numbers" 2 c.step
      let (more, c) ← escapedBytes x n c
      return (UInt8.ofNat b :: more, c)
    else .ok ([], c)

/-- The wording for bytes that are no text. -/
def decodeProblem (bytes : List UInt8) (f : Text.Utf8.Fault) : String :=
  let first := ((bytes[f.start]?).map fun b => b.toNat).getD 0
  let place :=
    if f.length == 1 then
      "byte 0x" ++ String.ofList (Text.hexPad 2 first) ++ " in position " ++ Text.ofNat f.start
    else
      "bytes in position " ++ Text.ofNat f.start ++ "-" ++ Text.ofNat (f.start + f.length - 1)
  let reason := match f.kind with
    | .badStart => "invalid start byte"
    | .badContinuation => "invalid continuation byte"
    | .cutShort => "unexpected end of data"
  "'utf-8' codec can't decode " ++ place ++ ": " ++ reason

/-- The characters that percent escapes in a row stand for. -/
def escapedText (x : Context) (c : Cursor) : Except Fault (List Char × Cursor) := do
  let (bytes, after) ← escapedBytes x c.rest.length c
  match Text.Utf8.fault? bytes with
  | some f => throw (fault (some x) (decodeProblem bytes f) c.mark)
  | none => return ((Text.Utf8.decodeLossy bytes).toList, after)

/-- The characters of a tag that come next. The first argument bounds the number of escapes. -/
def uriChars (x : Context) : Nat → Cursor → Except Fault (List Char × Cursor)
  | 0, c => .ok ([], c)
  | n + 1, c => do
    let (plain, after) := c.span fun d => isUriChar d && d != '%'
    if after.peek == '%' then
      let (escaped, after) ← escapedText x after
      let (more, after) ← uriChars x n after
      return (plain ++ escaped ++ more, after)
    else return (plain, after)

/-- The characters of a tag, at least one or an escape. -/
def uri (name : String) (start : Mark) (c : Cursor) : Except Fault (String × Cursor) := do
  let (cs, after) ← uriChars ⟨"while scanning a " ++ name, start⟩ (c.rest.length + 1) c
  if after.index == c.index then
    throw (unexpected ⟨"while parsing a " ++ name, start⟩ "URI" after)
  else return (String.ofList cs, after)

/-- The handle of a tag: exclamation marks with an optional name between them. -/
def tagHandle (name : String) (start : Mark) (c : Cursor) : Except Fault (String × Cursor) :=
  let x : Context := ⟨"while scanning a " ++ name, start⟩
  if c.peek != '!' then .error (unexpected x "'!'" c)
  else if c.peekAt 1 == ' ' then .ok ("!", c.step)
  else
    let (cs, after) := c.step.span isNameChar
    if after.peek == '!' then .ok (String.ofList ('!' :: cs ++ ['!']), after.step)
    else .error (unexpected x "'!'" after)

/-- A tag. -/
def tag (c : Cursor) : Except Fault (TagText × Cursor) := do
  let start := c.mark
  let next := c.peekAt 1
  let (t, after) ←
    if next == '<' then do
      let (suffix, after) ← uri "tag" start (c.skip 2)
      if after.peek == '>' then pure ((⟨none, suffix⟩ : TagText), after.step)
      else throw (unexpected ⟨"while parsing a tag", start⟩ "'>'" after)
    else if isBreakOrBlank next then pure ((⟨none, "!"⟩ : TagText), c.step)
    else do
      let word := c.step.rest.takeWhile fun d => !endsLineOrSpace d
      let (handle, after) ←
        if word.contains '!' then tagHandle "tag" start c else pure ("!", c.step)
      let (suffix, after) ← uri "tag" start after
      pure ((⟨some handle, suffix⟩ : TagText), after)
  if endsLineOrSpace after.peek then return (t, after)
  else throw (unexpected ⟨"while scanning a tag", start⟩ "' '" after)

/-- The digits of a version number, which are read as an integer. -/
def versionNumber (x : Context) (c : Cursor) : Except Fault (Nat × Cursor) :=
  let (cs, after) := c.span fun d => '0' ≤ d && d ≤ '9'
  if cs.isEmpty then .error (unexpected x "a digit" c)
  else if Text.Numeral.greatestLength < cs.length then .error (.value .value)
  else .ok ((Text.number? 10 cs).getD 0, after)

/-- The version that a directive declares. -/
def versionValue (x : Context) (c : Cursor) : Except Fault (Directive × Cursor) := do
  let (major, c) ← versionNumber x (c.skipWhile (· == ' '))
  if c.peek != '.' then throw (unexpected x "a digit or '.'" c)
  let (minor, c) ← versionNumber x c.step
  if endsLineOrSpace c.peek then return (.version major minor, c)
  else throw (unexpected x "a digit or ' '" c)

/-- The handle that a directive declares, and what it stands for. -/
def tagValue (x : Context) (c : Cursor) : Except Fault (Directive × Cursor) := do
  let (handle, c) ← tagHandle "directive" x.start (c.skipWhile (· == ' '))
  if c.peek != ' ' then throw (unexpected x "' '" c)
  let (lead, c) ← uri "directive" x.start (c.skipWhile (· == ' '))
  if endsLineOrSpace c.peek then return (.tag handle lead, c)
  else throw (unexpected x "' '" c)

/-- The end of a line that may hold blanks and a comment. -/
def lineEnd (x : Context) (c : Cursor) : Except Fault Cursor :=
  let c := (c.skipWhile (· == ' ')).skipComment
  if endsLine c.peek then .ok c.lineBreak.2
  else .error (unexpected x "a comment or a line break" c)

/-- A directive, and where it ends. -/
def directive (c : Cursor) : Except Fault (Directive × Mark × Cursor) := do
  let x : Context := ⟨"while scanning a directive", c.mark⟩
  let (word, after) ← name x endsLineOrSpace c.step
  let (d, after) ←
    if word == "YAML" then versionValue x after
    else if word == "TAG" then tagValue x after
    else pure (.unknown, after)
  let stop := after.mark
  let after := if d == .unknown then after.skipWhile fun e => !endsLine e else after
  return (d, stop, ← lineEnd x after)

/-- Whether a character may follow the name of an anchor or an alias. -/
def followsAnchor (c : Char) : Bool :=
  isBreakOrBlank c || ['?', ':', ',', ']', '\x7d', '%', '@', Char.ofNat 0x60].contains c

/-- The name of an anchor or an alias. -/
def anchor (word : String) (c : Cursor) : Except Fault (String × Cursor) :=
  name ⟨"while scanning an " ++ word, c.mark⟩ followsAnchor c.step

/-- What happens to the line breaks at the end of a block scalar. -/
inductive Chomping where
  | strip
  | clip
  | keep
  deriving DecidableEq, Repr

/-- The chomping that a character asks for. -/
def chomping? : Char → Option Chomping
  | '+' => some .keep
  | '-' => some .strip
  | _ => none

/-- The indentation that a digit asks for, which may not be zero. -/
def increment (x : Context) (c : Cursor) : Except Fault (Option Nat × Cursor) :=
  let d := c.peek
  if '0' ≤ d && d ≤ '9' then
    if d == '0' then
      .error
        (fault (some x) "expected indentation indicator in the range 1-9, but found 0" c.mark)
    else .ok (some (d.toNat - '0'.toNat), c.step)
  else .ok (none, c)

/-- The indicators of a block scalar, in either order. -/
def blockIndicators (x : Context) (c : Cursor) :
    Except Fault (Chomping × Option Nat × Cursor) := do
  let (chomping, depth, c) ←
    match chomping? c.peek with
    | some h => do
      let (depth, c) ← increment x c.step
      pure (h, depth, c)
    | none => do
      let (depth, c) ← increment x c
      match depth, chomping? c.peek with
      | some _, some h => pure (h, depth, c.step)
      | _, _ => pure (.clip, depth, c)
  if endsLineOrSpace c.peek then return (chomping, depth, c)
  else throw (unexpected x "chomping or indentation indicators" c)

/-- The line breaks before the first line of a block scalar, the greatest depth among the blanks,
    and where the breaks end. -/
def leadingBreaks : Nat → Nat → Mark → Cursor → List Char × Nat × Mark × Cursor
  | 0, depth, stop, c => ([], depth, stop, c)
  | n + 1, depth, stop, c =>
    if c.peek == ' ' then
      let c := c.step
      leadingBreaks n (max depth c.column) stop c
    else if startsBreak c.peek then
      let (b, c) := c.lineBreak
      let (more, depth, stop, c) := leadingBreaks n depth c.mark c
      (b ++ more, depth, stop, c)
    else ([], depth, stop, c)

/-- Moves past spaces up to a column. -/
def skipIndent (depth : Nat) (c : Cursor) : Cursor :=
  c.skip (min (depth - c.column) (c.rest.takeWhile (· == ' ')).length)

/-- The line breaks between the lines of a block scalar of some depth, and where they end. -/
def blockBreaks (depth : Nat) : Nat → Mark → Cursor → List Char × Mark × Cursor
  | 0, stop, c => ([], stop, c)
  | n + 1, stop, c =>
    let c := skipIndent depth c
    if startsBreak c.peek then
      let (b, c) := c.lineBreak
      let (more, stop, c) := blockBreaks depth n c.mark c
      (b ++ more, stop, c)
    else ([], stop, c)

/-- What a block scalar leaves at its end: the break of its last line, the breaks after it, and
    where they end. -/
structure BlockEnd where
  lastBreak : List Char
  breaks : List Char
  stop : Mark

/-- The lines of a block scalar from one on, after the breaks before it. -/
def blockLines (folded : Bool) (depth : Nat) :
    Nat → List Char → Mark → Cursor → List Char × BlockEnd × Cursor
  | 0, breaks, stop, c => ([], ⟨[], breaks, stop⟩, c)
  | n + 1, breaks, stop, c =>
    if c.column == depth && c.peek != endMark then
      let dense := c.peek != ' ' && c.peek != '\t'
      let (line, c) := c.span fun d => !endsLine d
      let (lineBreak, c) := c.lineBreak
      let (later, stop', c) := blockBreaks depth (n + 1) c.mark c
      if c.column == depth && c.peek != endMark then
        let joint :=
          if folded && lineBreak == ['\n'] && dense && c.peek != ' ' && c.peek != '\t' then
            if later.isEmpty then [' '] else []
          else lineBreak
        let (more, last, c) := blockLines folded depth n later stop' c
        (breaks ++ line ++ joint ++ more, last, c)
      else (breaks ++ line, ⟨lineBreak, later, stop'⟩, c)
    else ([], ⟨[], breaks, stop⟩, c)

/-- A block scalar in a block of some depth: its text and where it ends. -/
def blockScalar (folded : Bool) (blockDepth : Int) (c : Cursor) :
    Except Fault (List Char × Mark × Cursor) := do
  let x : Context := ⟨"while scanning a block scalar", c.mark⟩
  let (chomping, given, c) ← blockIndicators x c.step
  let c ← lineEnd x c
  let least := max 1 (blockDepth + 1).toNat
  let n := c.rest.length + 1
  let (depth, breaks, stop, c) :=
    match given with
    | none =>
      let (breaks, most, stop, c) := leadingBreaks n 0 c.mark c
      (max least most, breaks, stop, c)
    | some k =>
      let (breaks, stop, c) := blockBreaks (least + k - 1) n c.mark c
      (least + k - 1, breaks, stop, c)
  let (body, last, c) := blockLines folded depth n breaks stop c
  let tail := match chomping with
    | .strip => []
    | .clip => last.lastBreak
    | .keep => last.lastBreak ++ last.breaks
  return (body ++ tail, last.stop, c)

/-- The character that a letter after a backslash stands for. -/
def escapeChar? (c : Char) : Option Char :=
  match c with
  | '0' => some endMark
  | 'a' => some (Char.ofNat 0x07)
  | 'b' => some (Char.ofNat 0x08)
  | 't' => some '\t'
  | '\t' => some '\t'
  | 'n' => some '\n'
  | 'v' => some (Char.ofNat 0x0B)
  | 'f' => some (Char.ofNat 0x0C)
  | 'r' => some '\r'
  | 'e' => some (Char.ofNat 0x1B)
  | ' ' => some ' '
  | '"' => some '"'
  | '\\' => some '\\'
  | '/' => some '/'
  | 'N' => some (Char.ofNat 0x85)
  | '_' => some (Char.ofNat 0xA0)
  | 'L' => some (Char.ofNat 0x2028)
  | 'P' => some (Char.ofNat 0x2029)
  | _ => none

/-- The number of hexadecimal digits after a letter after a backslash. -/
def escapeWidth? : Char → Option Nat
  | 'x' => some 2
  | 'u' => some 4
  | 'U' => some 8
  | _ => none

/-- Blank lines within a quoted scalar as the breaks that they keep. -/
def quotedBreaks (start : Mark) : Nat → Cursor → Except Fault (List Char × Cursor)
  | 0, c => .ok ([], c)
  | n + 1, c =>
    if c.atSeparator then
      .error
        (fault (some ⟨"while scanning a quoted scalar", start⟩)
          "found unexpected document separator" c.mark)
    else
      let c := c.skipWhile fun d => d == ' ' || d == '\t'
      if startsBreak c.peek then do
        let (b, c) := c.lineBreak
        let (more, c) ← quotedBreaks start n c
        return (b ++ more, c)
      else .ok ([], c)

/-- The line break at the cursor with the blank lines after it: a single break is a space. -/
def foldedBreak (start : Mark) (c : Cursor) : Except Fault (List Char × Cursor) := do
  let (b, c) := c.lineBreak
  let (breaks, c) ← quotedBreaks start (c.rest.length + 1) c
  let joint := if b != ['\n'] then b else if breaks.isEmpty then [' '] else []
  return (joint ++ breaks, c)

/-- The character of a number. Numbers above the last code point have none. -/
def charOfNumber (n : Nat) : Except Fault Char :=
  if n ≤ 0x10FFFF then .ok (Char.ofNat n)
  else if n ≤ 0x7FFFFFFF then .error (.value .value)
  else .error (.value .overflow)

/-- An escape after its backslash. -/
def escapeSequence (start : Mark) (c : Cursor) : Except Fault (List Char × Cursor) :=
  let x : Context := ⟨"while scanning a double-quoted scalar", start⟩
  match escapeChar? c.peek, escapeWidth? c.peek with
  | some d, _ => .ok ([d], c.step)
  | none, some width => do
    let expected := "escape sequence of " ++ Text.ofNat width ++ " hexadecimal numbers"
    let (n, c) ← hexNumber x expected width c.step
    return ([← charOfNumber n], c)
  | none, none =>
    if startsBreak c.peek then quotedBreaks start (c.rest.length + 1) c.lineBreak.2
    else .error (fault (some x) ("found unknown escape character " ++ shownChar c.peek) c.mark)

/-- The text of a quoted scalar up to its closing quote. The first argument exceeds the number of
    characters that are left. -/
def quotedText (double : Bool) (start : Mark) : Nat → Cursor → Except Fault (List Char × Cursor)
  | 0, c => .ok ([], c)
  | n + 1, c =>
    let d := c.peek
    if double && d == '"' then .ok ([], c.step)
    else if !double && d == '\'' then
      if c.peekAt 1 == '\'' then do
        let (more, c) ← quotedText double start n (c.skip 2)
        return ('\'' :: more, c)
      else .ok ([], c.step)
    else if double && d == '\\' then do
      let (cs, c) ← escapeSequence start c.step
      let (more, c) ← quotedText double start n c
      return (cs ++ more, c)
    else if isBreakOrBlank d then do
      let (spaces, after) := c.span fun e => e == ' ' || e == '\t'
      if after.peek == endMark then
        throw
          (fault (some ⟨"while scanning a quoted scalar", start⟩) "found unexpected end of stream"
            after.mark)
      let (cs, after) ←
        if startsBreak after.peek then foldedBreak start after else pure (spaces, after)
      let (more, after) ← quotedText double start n after
      return (cs ++ more, after)
    else do
      let (more, c) ← quotedText double start n c.step
      return (d :: more, c)

/-- A quoted scalar. -/
def quotedScalar (double : Bool) (c : Cursor) : Except Fault (List Char × Cursor) :=
  quotedText double c.mark (c.rest.length + 2) c.step

/-- Whether a plain scalar ends before the next character. In a flow collection brackets and
    commas end it. -/
def endsPlain (inFlow : Bool) (cs : List Char) : Bool :=
  match cs with
  | [] => true
  | d :: ds =>
    let next := ds.headD endMark
    isBreakOrBlank d ||
      (d == ':' &&
        (isBreakOrBlank next || (inFlow && [',', '[', ']', '\x7b', '\x7d'].contains next))) ||
      (inFlow && [',', '?', '[', ']', '\x7b', '\x7d'].contains d)

/-- The characters of a plain scalar up to a place where it may end. -/
def plainChunk (inFlow : Bool) : List Char → List Char
  | [] => []
  | d :: ds => if endsPlain inFlow (d :: ds) then [] else d :: plainChunk inFlow ds

/-- Blank lines within a plain scalar as the breaks that they keep; nothing if a mark of a document's
    start or end comes after one. -/
def plainBreaks : Nat → Cursor → Option (List Char) × Cursor
  | 0, c => (some [], c)
  | n + 1, c =>
    let c := c.skipWhile (· == ' ')
    if startsBreak c.peek then
      let (b, c) := c.lineBreak
      if c.atSeparator then (none, c)
      else
        let (more, c) := plainBreaks n c
        (more.map (b ++ ·), c)
    else (some [], c)

/-- The space after a part of a plain scalar: what stands for it if the scalar goes on, whether it
    holds a line break, and the cursor after it. -/
def plainSpace (c : Cursor) : Option (List Char) × Bool × Cursor :=
  let (spaces, c) := c.span (· == ' ')
  if startsBreak c.peek then
    let (b, c) := c.lineBreak
    if c.atSeparator then (none, true, c)
    else
      let (breaks, c) := plainBreaks (c.rest.length + 1) c
      (breaks.map fun bs =>
        (if b != ['\n'] then b else if bs.isEmpty then [' '] else []) ++ bs, true, c)
  else (if spaces.isEmpty then none else some spaces, false, c)

/-- A plain scalar from a part on: its text, where it ends, and whether a line break was the last
    thing that was read. -/
def plainParts (inFlow : Bool) (depth : Int) :
    Nat → List Char → Mark → Bool → Cursor → List Char × Mark × Bool × Cursor
  | 0, _, stop, broke, c => ([], stop, broke, c)
  | n + 1, space, stop, broke, c =>
    let chunk := if c.peek == '#' then [] else plainChunk inFlow c.rest
    if chunk.isEmpty then ([], stop, broke, c)
    else
      let c := c.skip chunk.length
      let stop := c.mark
      let (next, broke, c) := plainSpace c
      match next with
      | none => (space ++ chunk, stop, broke, c)
      | some next =>
        if c.peek == '#' || (!inFlow && c.column < depth) then (space ++ chunk, stop, broke, c)
        else
          let (more, stop, broke, c) := plainParts inFlow depth n next stop broke c
          (space ++ chunk ++ more, stop, broke, c)

/-- A plain scalar in a block of some depth: its text, where it ends, and whether it was ended by a
    line break. -/
def plainScalar (inFlow : Bool) (blockDepth : Int) (c : Cursor) :
    List Char × Mark × Bool × Cursor :=
  plainParts inFlow (blockDepth + 1) (c.rest.length + 1) [] c.mark false c

end SessionScript.Yaml.Scan
