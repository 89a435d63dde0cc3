import SessionScript.Evaluator.Format.Percent
import SessionScript.Evaluator.Method.Scalar

/-!
# Texts with fields

Fields in braces are replaced by arguments, which are found by position or by name and laid out by a
specification that may have fields itself.
-/

namespace SessionScript.Evaluator

/-- A field as written. -/
structure Field where
  name : List Char
  conversion : Option Char
  spec : List Char
  deriving Repr

/-- How fields without a name or a number are counted: not decided yet, by themselves from a number
    on, or not at all. -/
inductive Numbering where
  | open
  | counting (next : Nat)
  | manual
  deriving Repr

namespace Field

/-- The name of a field up to the character that ends it, and that character. Brackets are taken
    whole. -/
def readName : Nat → List Char → List Char → Work (List Char × Option Char × List Char)
  | 0, acc, _ => return (acc.reverse, none, [])
  | _, acc, [] => return (acc.reverse, none, [])
  | n + 1, acc, c :: cs => do
    if c == '\x7b' then Work.valueError "unexpected '\x7b' in field name"
    else if c == '\x7d' || c == ':' || c == '!' then return (acc.reverse, some c, cs)
    else if c == '[' then
      let inside := cs.takeWhile (· != ']')
      readName n (inside.reverse ++ c :: acc) (cs.drop inside.length)
    else readName n (c :: acc) cs

/-- The specification of a field up to the brace that closes it. -/
def readSpec : Nat → List Char → List Char → Work (List Char × List Char)
  | _, _, [] => Work.valueError "unmatched '\x7b' in format spec"
  | depth, acc, c :: cs =>
    if c == '\x7d' then
      match depth with
      | 0 => return (acc.reverse, cs)
      | d + 1 => readSpec d (c :: acc) cs
    else readSpec (if c == '\x7b' then depth + 1 else depth) (c :: acc) cs

/-- Reads a field after its opening brace. -/
def read (cs : List Char) : Work (Field × List Char) := do
  let (name, ending, cs) ← readName (cs.length + 1) [] cs
  match ending with
  | none => Work.valueError "expected '\x7d' before end of string"
  | some '!' =>
    match cs with
    | [] => Work.valueError "end of string while looking for conversion specifier"
    | c :: ':' :: rest =>
      let (spec, rest) ← readSpec 0 [] rest
      return (⟨name, some c, spec⟩, rest)
    | c :: rest =>
      if rest.head? == some '\x7d' then return (⟨name, some c, []⟩, rest.drop 1)
      else if rest.isEmpty then Work.valueError "unmatched '\x7b' in format spec"
      else Work.valueError "expected ':' after conversion specifier"
  | some ':' =>
    let (spec, rest) ← readSpec 0 [] cs
    return (⟨name, none, spec⟩, rest)
  | some _ => return (⟨name, none, []⟩, cs)

/-- The number that digits denote. -/
def index? (cs : List Char) : Option Nat := if cs.isEmpty then none else Text.number? 10 cs

/-- Follows attributes and items from a value. The first argument exceeds the length of the path. -/
def follow : Nat → Datum → List Char → Work Datum
  | 0, d, _ => return d
  | _, d, [] => return d
  | n + 1, d, '.' :: cs => do
    let name := cs.takeWhile fun c => c != '.' && c != '['
    if name.isEmpty then Work.valueError "Empty attribute in format string"
    follow n (← Method.memberOf d (String.ofList name)) (cs.drop name.length)
  | n + 1, d, '[' :: cs => do
    let key := cs.takeWhile (· != ']')
    match cs.drop key.length with
    | [] => Work.valueError "Missing ']' in format string"
    | _ :: rest =>
      if key.isEmpty then Work.valueError "Empty attribute in format string"
      let key := match index? key with
        | some i => Datum.int i
        | none => Datum.ofChars key
      follow n (← d.item key) rest
  | _, _, _ => Work.valueError "Only '.' or '[' may follow ']' in format field specifier"

/-- The argument that the first part of a name denotes. -/
def first (args : Args) (mapping : Option Datum) (name : List Char) (numbering : Numbering) :
    Work (Datum × Numbering) := do
  let at' := fun (i : Nat) => do
    if mapping.isSome then Work.valueError "Format string contains positional fields"
    match args.positional[i]? with
    | some d => return d
    | none =>
      Work.raise "IndexError"
        ("Replacement index " ++ Text.ofNat i ++ " out of range for positional args tuple")
  match name, numbering with
  | [], .manual =>
    Work.valueError
      "cannot switch from manual field specification to automatic field numbering"
  | [], .open => return (← at' 0, .counting 1)
  | [], .counting n => return (← at' n, .counting (n + 1))
  | name, numbering =>
    match index? name, numbering with
    | some _, .counting _ =>
      Work.valueError
        "cannot switch from automatic field numbering to manual field specification"
    | some i, _ => return (← at' i, .manual)
    | none, _ =>
      let key := String.ofList name
      match mapping with
      | some m => return (← m.item (.text key), numbering)
      | none =>
        match args.named.lookup key with
        | some d => return (d, numbering)
        | none => throw ⟨"KeyError", [.text key]⟩

/-- The value of a field. -/
def value (f : Field) (args : Args) (mapping : Option Datum) (numbering : Numbering) :
    Work (Datum × Numbering) := do
  let head := f.name.takeWhile fun c => c != '.' && c != '['
  let (d, numbering) ← first args mapping head numbering
  return (← follow (f.name.length + 1) d (f.name.drop head.length), numbering)

/-- A value as its conversion asks for. -/
def convert (conversion : Option Char) (d : Datum) : Work Datum := do
  match conversion with
  | none => return d
  | some 's' => return .text (← d.plainText)
  | some 'r' => return .text (← d.shown)
  | some 'a' => return .text (← d.asciiText)
  | some c => Work.valueError ("Unknown conversion specifier '" ++ String.singleton c ++ "'")

/-- A text with its fields replaced, up to some depth of fields in specifications. The second
    argument exceeds the length of the text. -/
def fill (args : Args) (mapping : Option Datum) :
    Nat → Nat → Numbering → List Char → Work (List Char × Numbering)
  | _, 0, numbering, _ => return ([], numbering)
  | _, _, numbering, [] => return ([], numbering)
  | depth, n + 1, numbering, c :: cs => do
    if c == '\x7b' || c == '\x7d' then
      if cs.head? == some c then
        let (out, numbering) ← fill args mapping depth n numbering (cs.drop 1)
        return (c :: out, numbering)
      else if c == '\x7d' then
        Work.valueError "Single '\x7d' encountered in format string"
      else if cs.isEmpty then
        Work.valueError "Single '\x7b' encountered in format string"
      else
        match depth with
        | 0 => Work.valueError "Max string recursion exceeded"
        | d + 1 =>
          let (f, rest) ← read cs
          let (v, numbering) ← f.value args mapping numbering
          let v ← convert f.conversion v
          let (spec, numbering) ← fill args mapping d n numbering f.spec
          let here ← v.format (String.ofList spec)
          let (out, numbering) ← fill args mapping (d + 1) n numbering rest
          return (here.toList ++ out, numbering)
    else
      let (out, numbering) ← fill args mapping depth n numbering cs
      return (c :: out, numbering)

/-- A text with its fields replaced by arguments. -/
def format (text : String) (args : Args) (mapping : Option Datum) : Work Datum := do
  let cs := text.toList
  let (out, _) ← fill args mapping 2 (cs.length + 1) .open cs
  return Datum.ofChars out

end Field

end SessionScript.Evaluator
