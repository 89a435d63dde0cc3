import SessionScript.Yaml.Node
import SessionScript.Yaml.Token.Stream

/-!
# Reading nodes

A stream of tokens holds at most one document. Anchors name nodes of it, and an alias stands for
the node that was named before.
-/

namespace SessionScript.Yaml.Node

/-- What is known while a document is read: the tokens that are left, what the handles of tags stand
    for, and the nodes with anchors. -/
structure Reader where
  stream : TokenStream
  handles : List (String × String) := []
  anchors : List (String × Node) := []

/-- A computation that reads tokens. -/
abbrev Reading := StateT Reader (Except Fault)

/-- The handles that every document knows. -/
def standardHandles : List (String × String) := [("!", "!"), ("!!", coreTag "")]

/-- The next token. -/
def next : Reading Token := do
  let r ← get
  let (t, stream) ← r.stream.peek
  set { r with stream := stream }
  return t

/-- Takes the next token. -/
def take : Reading Token := do
  let t ← next
  modify fun r => { r with stream := r.stream.drop }
  return t

/-- A fault of the grammar. -/
def grammarFault (context : Option (String × Mark)) (problem : String) (place : Mark) : Fault :=
  .marked .parsing
    { context := context.map (·.1)
      contextMark := context.map (·.2)
      problem := some problem
      problemMark := some place }

/-- The kind of a token in quotes. -/
def shownKind (t : Token) : String := Text.quoted t.kind.name

/-- Where a node stands, which decides the forms it may take. -/
inductive Position where
  | block
  /-- After a key or a value indicator in a block, where a sequence needs no indentation. -/
  | mapped
  | flow
  deriving DecidableEq, Repr

/-- The anchor and the tag before a node, and where they start and stop. -/
structure Properties where
  anchor : Option String := none
  tag : Option (TagText × Mark) := none
  span : Option (Mark × Mark) := none

/-- Reads an anchor and a tag in either order. -/
def properties : Reading Properties := do
  let t ← next
  match t.kind with
  | .anchor a =>
    let _ ← take
    let u ← next
    match u.kind with
    | .tag x =>
      let _ ← take
      return ⟨some a, some (x, u.start), some (t.start, u.stop)⟩
    | _ => return ⟨some a, none, some (t.start, t.stop)⟩
  | .tag x =>
    let _ ← take
    let u ← next
    match u.kind with
    | .anchor a =>
      let _ ← take
      return ⟨some a, some (x, t.start), some (t.start, u.stop)⟩
    | _ => return ⟨none, some (x, t.start), some (t.start, t.stop)⟩
  | _ => return {}

/-- The tag that a written tag stands for; the tag `!` says no more than that there is one. -/
def resolveTag (p : Properties) : Reading (Option String) := do
  match p.tag with
  | none => return none
  | some (⟨none, suffix⟩, _) => return some suffix
  | some (⟨some handle, suffix⟩, place) =>
    match (← get).handles.lookup handle with
    | some stem => return some (stem ++ suffix)
    | none =>
      throw
        (grammarFault (p.span.map fun s => ("while parsing a node", s.1))
          ("found undefined tag handle " ++ Text.quoted handle) place)

/-- Whether a tag leaves open what a node denotes. -/
def isOpen (tag : Option String) : Bool := tag.isNone || tag == some "!"

/-- The tag of a scalar. Without quotes its text tells what it is. -/
def scalarTag (tag : Option String) (text : List Char) (plain : Bool) : String :=
  match tag with
  | some t => if t == "!" then (PlainKind.ofText text).tag else t
  | none => if plain then (PlainKind.ofText text).tag else PlainKind.text.tag

/-- The tag of a collection. -/
def collectionTag (tag : Option String) (name : String) : String :=
  if isOpen tag then coreTag name else tag.getD ""

/-- The node that an alias stands for. -/
def aliased (t : Token) (name : String) : Reading Node := do
  match (← get).anchors.lookup name with
  | some node => return node
  | none =>
    throw
      (.marked .composing
        { problem := some ("found undefined alias " ++ Text.quoted name)
          problemMark := some t.start })

/-- Names a node; a name is given only once. -/
def requireNew (anchor : Option String) (start : Mark) : Reading Unit := do
  match anchor with
  | none => return
  | some a =>
    match (← get).anchors.lookup a with
    | none => return
    | some first =>
      throw
        (.marked .composing
          { context := some
              ("found duplicate anchor " ++ Text.quoted a ++ "; first occurrence")
            contextMark := some first.start
            problem := some "second occurrence"
            problemMark := some start })

/-- Gives a node its name. -/
def setAnchor (anchor : Option String) (node : Node) : Reading Unit :=
  match anchor with
  | none => return
  | some a => modify fun r => { r with anchors := (a, node) :: r.anchors }

/-- Reads the end of a block collection. -/
def blockEnd (what : String) (start : Mark) : Reading Mark := do
  let t ← next
  if t.kind == .blockEnd then
    let _ ← take
    return t.stop
  else
    throw
      (grammarFault (some ("while parsing a block " ++ what, start))
        ("expected <block end>, but found " ++ shownKind t) t.start)

/-- The comma between the entries of a flow collection. -/
def flowComma (what closing : String) (start : Mark) : Reading Unit := do
  let t ← next
  if t.kind == .flowEntry then
    let _ ← take
    return
  else
    throw
      (grammarFault (some ("while parsing a flow " ++ what, start))
        ("expected ',' or '" ++ closing ++ "', but got " ++ shownKind t) t.start)

mutual

/-- Reads a node. The first argument of this and the functions below exceeds the number of tokens
    that are left. -/
def node : Nat → Position → Reading Node
  | 0, _ => return .empty (← next).start
  | n + 1, position => do
    let t ← next
    match t.kind with
    | .alias name =>
      let _ ← take
      aliased t name
    | _ => do
      let p ← properties
      let tag ← resolveTag p
      let t ← next
      let (start, stop) := p.span.getD (t.start, t.start)
      let opened := fun (name : String) => do
        requireNew p.anchor start
        let tag := collectionTag tag name
        setAnchor p.anchor (.enclosing tag (name == "map") start)
        pure tag
      let finished := fun (result : Node) => do
        setAnchor p.anchor result
        pure result
      match t.kind, position with
      | .scalar text plain, _ =>
        let _ ← take
        requireNew p.anchor start
        finished (.scalar (scalarTag tag text plain) text start t.stop)
      | .blockEntry, .mapped =>
        let tag ← opened "seq"
        let items ← looseItems n
        let m := (← next).start
        finished (.sequence tag items start m)
      | .flowSequenceStart, _ =>
        let tag ← opened "seq"
        let _ ← take
        let (items, m) ← flowItems n t.start true
        finished (.sequence tag items start m)
      | .flowMappingStart, _ =>
        let tag ← opened "map"
        let _ ← take
        let (entries, m) ← flowEntries n t.start true
        finished (.mapping tag entries start m)
      | .blockSequenceStart, .block | .blockSequenceStart, .mapped =>
        let tag ← opened "seq"
        let _ ← take
        let (items, m) ← blockItems n t.start
        finished (.sequence tag items start m)
      | .blockMappingStart, .block | .blockMappingStart, .mapped =>
        let tag ← opened "map"
        let _ ← take
        let (entries, m) ← blockEntries n t.start
        finished (.mapping tag entries start m)
      | _, _ =>
        if p.span.isSome then
          requireNew p.anchor start
          let tag := if isOpen tag then PlainKind.null.tag else tag.getD ""
          finished (.scalar tag [] start stop)
        else
          let form := if position == .flow then "flow" else "block"
          throw
            (grammarFault (some ("while parsing a " ++ form ++ " node", start))
              ("expected the node content, but found " ++ shownKind t) t.start)

/-- Reads a node unless one of some tokens comes next, in whose place the node is left out. -/
def nodeUnless : Nat → List TokenKind → Position → Mark → Reading Node
  | 0, _, _, m => return .empty m
  | n + 1, ends, position, m => do
    if ends.contains (← next).kind then return .empty m else node n position

/-- Reads the items of a sequence that has the indentation of the mapping around it. -/
def looseItems : Nat → Reading (List Node)
  | 0 => return []
  | n + 1 => do
    let t ← next
    if t.kind == .blockEntry then
      let _ ← take
      let item ← nodeUnless n [.blockEntry, .key, .value, .blockEnd] .block t.stop
      return item :: (← looseItems n)
    else return []

/-- Reads the items of a block sequence and its end. -/
def blockItems : Nat → Mark → Reading (List Node × Mark)
  | 0, start => return ([], start)
  | n + 1, start => do
    let t ← next
    if t.kind == .blockEntry then
      let _ ← take
      let item ← nodeUnless n [.blockEntry, .blockEnd] .block t.stop
      let (more, stop) ← blockItems n start
      return (item :: more, stop)
    else return ([], ← blockEnd "collection" start)

/-- Reads the value after a key of a block mapping. -/
def blockValue : Nat → Reading Node
  | 0 => return .empty (← next).start
  | n + 1 => do
    let t ← next
    if t.kind == .value then
      let _ ← take
      nodeUnless n [.key, .value, .blockEnd] .mapped t.stop
    else return .empty t.start

/-- Reads the entries of a block mapping and its end. -/
def blockEntries : Nat → Mark → Reading (List (Node × Node) × Mark)
  | 0, start => return ([], start)
  | n + 1, start => do
    let t ← next
    if t.kind == .key then
      let _ ← take
      let key ← nodeUnless n [.key, .value, .blockEnd] .mapped t.stop
      let value ← blockValue n
      let (more, stop) ← blockEntries n start
      return ((key, value) :: more, stop)
    else return ([], ← blockEnd "mapping" start)

/-- Reads the value after a key in a flow collection with some closing bracket. -/
def flowValue : Nat → TokenKind → Reading Node
  | 0, _ => return .empty (← next).start
  | n + 1, closing => do
    let t ← next
    if t.kind == .value then
      let _ ← take
      nodeUnless n [.flowEntry, closing] .flow t.stop
    else return .empty t.start

/-- Reads the items of a flow sequence and its end. A key makes an item a mapping of one entry. -/
def flowItems : Nat → Mark → Bool → Reading (List Node × Mark)
  | 0, start, _ => return ([], start)
  | n + 1, start, first => do
    let closes := (← next).kind == .flowSequenceEnd
    if !closes && !first then flowComma "sequence" "]" start
    let t ← next
    if t.kind == .flowSequenceEnd then
      let _ ← take
      return ([], t.stop)
    else if t.kind == .key then
      let _ ← take
      let key ← nodeUnless n [.value, .flowEntry, .flowSequenceEnd] .flow t.stop
      let value ← flowValue n .flowSequenceEnd
      let stop := (← next).start
      let (more, last) ← flowItems n start false
      return (.mapping (coreTag "map") [(key, value)] t.start stop :: more, last)
    else
      let item ← node n .flow
      let (more, last) ← flowItems n start false
      return (item :: more, last)

/-- Reads the entries of a flow mapping and its end. An entry may be a key alone. -/
def flowEntries : Nat → Mark → Bool → Reading (List (Node × Node) × Mark)
  | 0, start, _ => return ([], start)
  | n + 1, start, first => do
    let closes := (← next).kind == .flowMappingEnd
    if !closes && !first then flowComma "mapping" "\x7d" start
    let t ← next
    if t.kind == .flowMappingEnd then
      let _ ← take
      return ([], t.stop)
    else if t.kind == .key then
      let _ ← take
      let key ← nodeUnless n [.value, .flowEntry, .flowMappingEnd] .flow t.stop
      let value ← flowValue n .flowMappingEnd
      let (more, last) ← flowEntries n start false
      return ((key, value) :: more, last)
    else
      let key ← node n .flow
      let value := Node.empty (← next).start
      let (more, last) ← flowEntries n start false
      return ((key, value) :: more, last)

end

/-- Reads directives in front of a document, given whether a version and which handles were
    declared. The first argument exceeds their number. -/
def directives : Nat → Bool → List (String × String) → Reading (List (String × String))
  | 0, _, handles => return handles
  | n + 1, versioned, handles => do
    let t ← next
    match t.kind with
    | .directive d => do
      let _ ← take
      match d with
      | .version major _ =>
        if versioned then throw (grammarFault none "found duplicate YAML directive" t.start)
        if major != 1 then
          throw
            (grammarFault none "found incompatible YAML document (version 1.* is required)" t.start)
        directives n true handles
      | .tag handle stem =>
        if (handles.lookup handle).isSome then
          throw (grammarFault none ("duplicate tag handle " ++ Text.quoted handle) t.start)
        directives n versioned (handles ++ [(handle, stem)])
      | .unknown => directives n versioned handles
    | _ => return handles

/-- Reads the start of a document that has one. -/
def documentStart (n : Nat) : Reading Unit := do
  let handles ← directives n false []
  modify fun r => { r with handles := handles ++ standardHandles }
  let t ← next
  if t.kind == .documentStart then
    let _ ← take
    return
  else
    throw
      (grammarFault none ("expected '<document start>', but found " ++ shownKind t) t.start)

/-- Whether a document has its start marked, or there is none, if this is the first token. -/
def startsDocument : TokenKind → Bool
  | .directive _ | .documentStart | .streamEnd => true
  | _ => false

/-- Whether the node of a document is left out if this token comes in its place. -/
def leavesOut : TokenKind → Bool
  | .directive _ | .documentStart | .documentEnd | .streamEnd => true
  | _ => false

/-- Reads a document. -/
def document (n : Nat) : Reading Node := do
  if startsDocument (← next).kind then
    documentStart n
    let t ← next
    if leavesOut t.kind then return .empty t.start else node n .block
  else
    modify fun r => { r with handles := standardHandles }
    node n .block

/-- Passes over marks of a document's end. -/
def skipEnds : Nat → Reading Unit
  | 0 => return
  | n + 1 => do
    if (← next).kind == .documentEnd then
      let _ ← take
      skipEnds n

/-- Reads the only document of a stream, if it has one. -/
def single (n : Nat) : Reading (Option Node) := do
  let _ ← take
  if (← next).kind == .streamEnd then return none
  let root ← document n
  skipEnds n
  let t ← next
  if t.kind == .streamEnd then return some root
  documentStart n
  throw
    (.marked .composing
      { context := some "expected a single document in the stream"
        contextMark := some root.start
        problem := some "but found another document"
        problemMark := some t.start })

/-- The node of a text, if it has one. -/
def ofText? (text : List Char) : Except Fault (Option Node) :=
  match text.find? fun c => !isAllowed c with
  | some c => .error (.character c)
  | none => ((single (8 * text.length + 16)).run { stream := .ofText text }).map (·.1)

end SessionScript.Yaml.Node
