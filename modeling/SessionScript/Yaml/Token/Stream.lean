import SessionScript.Yaml.Token.Scalars

/-!
# Token streams

The tokens of a text, read on demand. Blocks are told apart by their indentation, and a mapping
key on one line is recognised only by the colon after it: such a key is kept as a candidate, and
the tokens that announce it are put in front of it when the colon comes.
-/

namespace SessionScript.Yaml

/-- A place where a mapping key on one line may start. -/
structure KeyCandidate where
  /-- The number of tokens before it. -/
  position : Nat
  /-- Whether nothing but a key may stand there. -/
  isRequired : Bool
  mark : Mark
  deriving Repr, Inhabited

/-- A text of which some tokens were read. -/
structure TokenStream where
  cursor : Cursor
  /-- Whether the last token was read. -/
  isDone : Bool := false
  /-- The tokens that were read and not taken yet. -/
  ready : List Token := []
  /-- The number of tokens taken. -/
  taken : Nat := 0
  /-- The number of open flow collections; closing brackets without an opening one count too. -/
  flowLevel : Int := 0
  /-- The column of the current block, and those of the blocks around it. -/
  column : Int := -1
  outerColumns : List Int := []
  /-- Whether a key on one line may start at the cursor. -/
  allowsKey : Bool := true
  /-- The candidates for keys with their flow levels. -/
  candidates : List (Int × KeyCandidate) := []

namespace TokenStream

/-- The stream of a text, with the token that starts every stream. -/
def ofText (text : List Char) : TokenStream :=
  let c : Cursor := ⟨text, 0, 0, 0⟩
  { cursor := c, ready := [⟨.streamStart, c.mark, c.mark⟩] }

/-- The greatest distance between the start of a key on one line and the colon after it. -/
def keyReach : Nat := 1024

/-- Whether the cursor is in a flow collection. -/
def inFlow (s : TokenStream) : Bool := s.flowLevel != 0

/-- Appends a token. -/
def push (s : TokenStream) (kind : TokenKind) (start stop : Mark) : TokenStream :=
  { s with ready := s.ready ++ [⟨kind, start, stop⟩] }

/-- Appends a token of a number of characters and moves past it. -/
def pushWord (s : TokenStream) (kind : TokenKind) (length : Nat) : TokenStream :=
  let after := s.cursor.skip length
  { s.push kind s.cursor.mark after.mark with cursor := after }

/-- A fault at the cursor that has no context. -/
def faultHere (s : TokenStream) (problem : String) : Fault :=
  Scan.fault none problem s.cursor.mark

/-- The fault of a required key without its colon. -/
def missingColon (s : TokenStream) (k : KeyCandidate) : Fault :=
  Scan.fault (some ⟨"while scanning a simple key", k.mark⟩) "could not find expected ':'"
    s.cursor.mark

/-- Whether a candidate is out of reach: a key and its colon stand on one line. -/
def isStale (s : TokenStream) (k : KeyCandidate) : Bool :=
  k.mark.line != s.cursor.line || k.mark.index + keyReach < s.cursor.index

/-- Drops the candidates that are out of reach. -/
def dropStale (s : TokenStream) : Except Fault TokenStream :=
  match s.candidates.find? fun (_, k) => s.isStale k && k.isRequired with
  | some (_, k) => .error (s.missingColon k)
  | none => .ok { s with candidates := s.candidates.filter fun (_, k) => !s.isStale k }

/-- The candidate of the current flow level. -/
def candidate? (s : TokenStream) : Option KeyCandidate := s.candidates.lookup s.flowLevel

/-- The stream without the candidate of the current flow level. -/
def forgetCandidate (s : TokenStream) : TokenStream :=
  { s with candidates := s.candidates.filter fun (level, _) => level != s.flowLevel }

/-- Gives up the candidate of the current flow level. -/
def dropCandidate (s : TokenStream) : Except Fault TokenStream :=
  match s.candidate? with
  | some k => if k.isRequired then .error (s.missingColon k) else .ok s.forgetCandidate
  | none => .ok s

/-- Notes that a key may start at the cursor. -/
def noteCandidate (s : TokenStream) : Except Fault TokenStream :=
  if s.allowsKey then do
    let isRequired := !s.inFlow && s.column == (s.cursor.column : Int)
    let s ← s.dropCandidate
    let k : KeyCandidate := ⟨s.taken + s.ready.length, isRequired, s.cursor.mark⟩
    return { s with candidates := s.candidates ++ [(s.flowLevel, k)] }
  else .ok s

/-- Closes the blocks that are indented more than a column. -/
def closeBlocks (s : TokenStream) (column : Int) : TokenStream :=
  if s.inFlow then s
  else
    let columns := s.column :: s.outerColumns
    let closed := columns.takeWhile fun c => column < c
    let rest := columns.drop closed.length
    let here := s.cursor.mark
    { s with
      column := rest.headD (-1)
      outerColumns := rest.drop 1
      ready := s.ready ++ closed.map fun _ => ⟨.blockEnd, here, here⟩ }

/-- Opens a block at a column, unless the current block is indented as much. -/
def openBlock (s : TokenStream) (column : Nat) : Bool × TokenStream :=
  if s.column < column then
    (true, { s with column := column, outerColumns := s.column :: s.outerColumns })
  else (false, s)

/-- Opens a block at the cursor with a token that announces it. -/
def startBlock (s : TokenStream) (kind : TokenKind) : TokenStream :=
  let here := s.cursor.mark
  match s.openBlock s.cursor.column with
  | (true, s) => s.push kind here here
  | (false, s) => s

/-- Moves past blanks, comments and line breaks. The first argument exceeds the number of
    lines. A key may start after a line break outside flow collections. -/
def skipGaps : Nat → TokenStream → TokenStream
  | 0, s => s
  | n + 1, s =>
    let c := (s.cursor.skipWhile (· == ' ')).skipComment
    let s := { s with cursor := c }
    if startsBreak c.peek then
      skipGaps n { s with cursor := c.lineBreak.2, allowsKey := s.allowsKey || !s.inFlow }
    else s

/-- Moves to the next token. A byte order mark may come first. -/
def skipToToken (s : TokenStream) : TokenStream :=
  let c := s.cursor
  let c := if c.index == 0 && c.peek.val.toNat == 0xFEFF then c.step else c
  skipGaps (c.rest.length + 1) { s with cursor := c }

/-- Ends the stream. -/
def readEnd (s : TokenStream) : Except Fault TokenStream := do
  let s ← (s.closeBlocks (-1)).dropCandidate
  let here := s.cursor.mark
  return { s.push .streamEnd here here with allowsKey := false, candidates := [], isDone := true }

/-- Ends all blocks before a directive or a separator of documents. -/
def endBlocks (s : TokenStream) : Except Fault TokenStream := do
  let s ← (s.closeBlocks (-1)).dropCandidate
  return { s with allowsKey := false }

/-- Reads a directive. -/
def readDirective (s : TokenStream) : Except Fault TokenStream := do
  let s ← s.endBlocks
  let (d, stop, after) ← Scan.directive s.cursor
  return { s.push (.directive d) s.cursor.mark stop with cursor := after }

/-- Reads the opening bracket of a flow collection. -/
def readOpening (s : TokenStream) (kind : TokenKind) : Except Fault TokenStream := do
  let s ← s.noteCandidate
  return { s.pushWord kind 1 with flowLevel := s.flowLevel + 1, allowsKey := true }

/-- Reads the closing bracket of a flow collection. -/
def readClosing (s : TokenStream) (kind : TokenKind) : Except Fault TokenStream := do
  let s ← s.dropCandidate
  return { s.pushWord kind 1 with flowLevel := s.flowLevel - 1, allowsKey := false }

/-- Reads the comma between the entries of a flow collection. -/
def readFlowEntry (s : TokenStream) : Except Fault TokenStream := do
  let s ← s.dropCandidate
  return { s.pushWord .flowEntry 1 with allowsKey := true }

/-- Refuses what may not follow on the same line. -/
def requireKeyPlace (s : TokenStream) (what : String) : Except Fault Unit :=
  if s.inFlow || s.allowsKey then .ok () else .error (s.faultHere (what ++ " are not allowed here"))

/-- Reads the dash before an item of a block sequence. -/
def readBlockEntry (s : TokenStream) : Except Fault TokenStream := do
  s.requireKeyPlace "sequence entries"
  let s := if s.inFlow then s else s.startBlock .blockSequenceStart
  let s ← { s with allowsKey := true }.dropCandidate
  return s.pushWord .blockEntry 1

/-- Reads the question mark before a key. -/
def readKey (s : TokenStream) : Except Fault TokenStream := do
  s.requireKeyPlace "mapping keys"
  let s := if s.inFlow then s else s.startBlock .blockMappingStart
  let s ← { s with allowsKey := !s.inFlow }.dropCandidate
  return s.pushWord .key 1

/-- Announces the mapping and the key that started at a candidate. -/
def announce (s : TokenStream) (k : KeyCandidate) : TokenStream :=
  let (opens, s) := if s.inFlow then (false, s) else s.openBlock k.mark.column
  let start := if opens then [TokenKind.blockMappingStart, .key] else [.key]
  let before := k.position - s.taken
  { s with
    ready :=
      s.ready.take before ++ start.map (fun kind => ⟨kind, k.mark, k.mark⟩) ++ s.ready.drop before }

/-- Reads the colon before a value. -/
def readValue (s : TokenStream) : Except Fault TokenStream := do
  match s.candidate? with
  | some k =>
    return { s.forgetCandidate.announce k with allowsKey := false }.pushWord .value 1
  | none => do
    s.requireKeyPlace "mapping values"
    let s := if s.inFlow then s else s.startBlock .blockMappingStart
    return { s with allowsKey := !s.inFlow }.pushWord .value 1

/-- Reads a token that may be a key or start one. -/
def readNode (s : TokenStream)
    (read : Cursor → Except Fault (TokenKind × Cursor)) : Except Fault TokenStream := do
  let s ← s.noteCandidate
  let (kind, after) ← read s.cursor
  return { s.push kind s.cursor.mark after.mark with cursor := after, allowsKey := false }

/-- Reads a block scalar. -/
def readBlockScalar (s : TokenStream) (folded : Bool) : Except Fault TokenStream := do
  let s ← { s with allowsKey := true }.dropCandidate
  let (text, stop, after) ← Scan.blockScalar folded s.column s.cursor
  return { s.push (.scalar text false) s.cursor.mark stop with cursor := after }

/-- Reads a plain scalar. After one that a line break ended, a key may start. -/
def readPlain (s : TokenStream) : Except Fault TokenStream := do
  let s ← s.noteCandidate
  let (text, stop, broke, after) := Scan.plainScalar s.inFlow s.column s.cursor
  return { s.push (.scalar text true) s.cursor.mark stop with cursor := after, allowsKey := broke }

/-- Whether a plain scalar may start at the cursor. -/
def startsPlain (s : TokenStream) : Bool :=
  let c := s.cursor.peek
  let indicators :=
    ['-', '?', ':', ',', '[', ']', '\x7b', '\x7d', '#', '&', '*', '!', '|', '>', '\'', '"', '%',
      '@', Char.ofNat 0x60]
  (!isBreakOrBlank c && !indicators.contains c) ||
    (!isBreakOrBlank (s.cursor.peekAt 1) && (c == '-' || (!s.inFlow && (c == '?' || c == ':'))))

/-- Reads the token at the cursor. -/
def readToken (s : TokenStream) : Except Fault TokenStream :=
  let c := s.cursor
  let endsWord := isBreakOrBlank (c.peekAt 1)
  let other : Except Fault TokenStream :=
    if s.startsPlain then s.readPlain
    else
      .error
        (.marked .scanning
          { context := some "while scanning for the next token"
            problem := some
              ("found character " ++ Scan.shownChar c.peek ++ " that cannot start any token")
            problemMark := some c.mark })
  if c.rest.isEmpty then s.readEnd
  else if c.peek == '%' && c.column == 0 then s.readDirective
  else if c.column == 0 && c.atSeparator then do
    let kind := if c.peek == '-' then TokenKind.documentStart else .documentEnd
    return (← s.endBlocks).pushWord kind 3
  else
    match c.peek with
    | '[' => s.readOpening .flowSequenceStart
    | '\x7b' => s.readOpening .flowMappingStart
    | ']' => s.readClosing .flowSequenceEnd
    | '\x7d' => s.readClosing .flowMappingEnd
    | ',' => s.readFlowEntry
    | '-' => if endsWord then s.readBlockEntry else other
    | '?' => if s.inFlow || endsWord then s.readKey else other
    | ':' => if s.inFlow || endsWord then s.readValue else other
    | '*' => s.readNode fun c => return (← Scan.anchor "alias" c).map .alias id
    | '&' => s.readNode fun c => return (← Scan.anchor "anchor" c).map .anchor id
    | '!' => s.readNode fun c => return (← Scan.tag c).map .tag id
    | '|' => if s.inFlow then other else s.readBlockScalar false
    | '>' => if s.inFlow then other else s.readBlockScalar true
    | '\'' => s.readNode fun c => return (← Scan.quotedScalar false c).map (.scalar · false) id
    | '"' => s.readNode fun c => return (← Scan.quotedScalar true c).map (.scalar · false) id
    | _ => other

/-- Reads the next token and those that come with it. -/
def advance (s : TokenStream) : Except Fault TokenStream := do
  let s ← s.skipToToken.dropStale
  (s.closeBlocks s.cursor.column).readToken

/-- Reads until the next token is known not to be announced by another one. The first argument
    exceeds the number of characters that are left. -/
def fill : Nat → TokenStream → Except Fault TokenStream
  | 0, s => .ok s
  | n + 1, s =>
    if s.isDone then .ok s
    else if s.ready.isEmpty then do fill n (← s.advance)
    else do
      let s ← s.dropStale
      if s.candidates.any fun (_, k) => k.position == s.taken then fill n (← s.advance)
      else return s

/-- The next token, which stays in the stream. -/
def peek (s : TokenStream) : Except Fault (Token × TokenStream) := do
  let s ← fill (s.cursor.rest.length + 2) s
  let here := s.cursor.mark
  return (s.ready.headD ⟨.streamEnd, here, here⟩, s)

/-- Takes the next token from the stream. -/
def drop (s : TokenStream) : TokenStream :=
  { s with ready := s.ready.drop 1, taken := s.taken + 1 }

end TokenStream

end SessionScript.Yaml
