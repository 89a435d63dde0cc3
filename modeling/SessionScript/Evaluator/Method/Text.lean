import SessionScript.Evaluator.Args
import SessionScript.Evaluator.Item
import SessionScript.Text.Case
import SessionScript.Text.Split
import SessionScript.Text.Utf8

/-!
# Methods of texts

What code can ask of a text. Arguments that are walked through, such as the parts of a join, come as
tuples.
-/

namespace SessionScript.Evaluator.Method

/-- A text that an argument has to be. -/
def needText (message : String) (d : Datum) : Work (List Char) := do
  match d with
  | .text s => return s.toList
  | d => Work.typeError (message ++ (← d.typeName))

/-- The greatest number of cuts or replacements: all if the number is negative. -/
def atMost (length : Nat) (d : Option Datum) : Work Nat := do
  match d with
  | none => return length + 1
  | some d =>
    let n ← Args.integer d
    return if n < 0 then length + 1 else n.toNat

/-- A bound of a search, if it is given. -/
def bound (d : Option Datum) : Work (Option Int) := do
  match d with
  | none => return none
  | some d => d.sliceBound

/-- A part of a sequence between two bounds, and where it starts; nothing if the first bound is
    past the end. -/
def between {α : Type} (low high : Option Datum) (xs : List α) : Work (Option (Nat × List α)) := do
  let n := xs.length
  let l ← bound low
  let h ← bound high
  let start := (Stretch.of n l none 1).start
  let stop := match h with
    | some i => Stretch.clamp n 1 i
    | none => n
  let past := match l with
    | some i => (n : Int) < i
    | none => false
  if past || stop < start then return none
  return some (start.toNat, (xs.drop start.toNat).take (stop - start).toNat)

/-- The characters that are stripped: blanks, or those of an argument. -/
def stripped (name : String) (d : Option Datum) : Work (Char → Bool) := do
  match d with
  | none | some .none => return Text.isBlank
  | some (.text t) => return fun c => t.toList.contains c
  | some _ => Work.typeError (name ++ " arg must be None or str")

/-- A separator: nothing where blanks separate. -/
def separator (d : Option Datum) : Work (Option (List Char)) := do
  match d with
  | none | some .none => return none
  | some (.text t) =>
    if t.isEmpty then Work.valueError "empty separator"
    return some t.toList
  | some d => Work.typeError ("must be str or None, not " ++ (← d.typeName))

/-- Texts as a list. -/
def textList (parts : List (List Char)) : Work Datum := Work.newList (parts.map Datum.ofChars)

/-- A text in the middle, on the left or on the right of a width. -/
def placed (name : String) (cs : List Char) (args : Args) : Work Datum := do
  let ds ← args.between name 1 2
  let width ← Args.integer (ds.headD .none)
  let fill ← match (ds[1]? : Option Datum) with
    | none => pure ' '
    | some (.text t) =>
      match t.toList with
      | [c] => pure c
      | _ => Work.typeError "The fill character must be exactly one character long"
    | some d =>
      Work.typeError ("The fill character must be a unicode character, not " ++ (← d.typeName))
  let missing := (width - cs.length).toNat
  let fillOf := fun n => List.replicate n fill
  match name with
  | "ljust" => return .ofChars (cs ++ fillOf missing)
  | "rjust" => return .ofChars (fillOf missing ++ cs)
  | _ =>
    -- of an odd number of places, the extra one goes left if the width is odd too
    let left := missing / 2 + (if missing % 2 == 1 && width % 2 == 1 then 1 else 0)
    return .ofChars (fillOf left ++ cs ++ fillOf (missing - left))

/-- The parts of a join as one text. -/
def joined (glue : List Char) (parts : List Datum) : Work Datum := do
  let step := fun (p : Datum × Nat) => do
    match p.1 with
    | .text t => return t.toList
    | d =>
      Work.typeError ("sequence item " ++ Text.ofNat p.2 ++ ": expected str instance, " ++
        (← d.typeName) ++ " found")
  return .ofChars (glue.intercalate (← parts.zipIdx.mapM step))

/-- Whether a text starts or ends with a part, or with one of several. -/
def hasEnd (name : String) (cs : List Char) (args : Args) : Work Datum := do
  let ds ← args.between name 1 3
  let test := fun (part : List Char) => do
    match ← between ds[1]? ds[2]? cs with
    | none => return false
    | some (_, piece) =>
      return if name == "startswith" then part.isPrefixOf piece else part.isSuffixOf piece
  match ds.headD .none with
  | .text t => return .bool (← test t.toList)
  | .tuple ts =>
    let step := fun (d : Datum) => do
      match d with
      | .text t => test t.toList
      | d =>
        Work.typeError ("tuple for " ++ name ++ " must only contain str, not " ++ (← d.typeName))
    return .bool (← ts.anyM step)
  | d =>
    Work.typeError (name ++ " first arg must be str or a tuple of str, not " ++ (← d.typeName))

/-- The position of a part in a text. -/
def position (name : String) (cs : List Char) (args : Args) : Work Datum := do
  let ds ← args.between name 1 3
  let part ← needText "must be str, not " (ds.headD .none)
  let found ← match ← between ds[1]? ds[2]? cs with
    | none => pure none
    | some (start, piece) =>
      let at' := if name == "find" || name == "index" then Text.find? part piece
        else Text.findLast? part piece
      pure (at'.map (· + start))
  match found with
  | some n => return .int n
  | none =>
    if name == "find" || name == "rfind" then return .int (-1)
    Work.valueError "substring not found"

/-- The pieces of a text at a separator. -/
def pieces (name : String) (cs : List Char) (args : Args) : Work Datum := do
  let ds ← args.byName name ["sep", "maxsplit"]
  let most ← atMost cs.length (ds.getD 1 none)
  match ← separator (ds.getD 0 none) with
  | some s =>
    textList (if name == "split" then Text.splitAt s most cs else Text.splitAtLast s most cs)
  | none => textList (if name == "split" then Text.words most cs else Text.wordsLast most cs)

/-- A text cut in three at a separator. -/
def partition (name : String) (cs : List Char) (args : Args) : Work Datum := do
  let s ← needText "must be str, not " (← args.one ("str." ++ name))
  if s.isEmpty then Work.valueError "empty separator"
  let three := fun (a b c : List Char) => Datum.tuple [.ofChars a, .ofChars b, .ofChars c]
  let first := name == "partition"
  match if first then Text.find? s cs else Text.findLast? s cs with
  | some n => return three (cs.take n) s (cs.drop (n + s.length))
  | none => return if first then three cs [] [] else three [] [] cs

/-- A text with zeros after its sign up to a width. -/
def zeroFilled (cs : List Char) (width : Int) : List Char :=
  let zeros := List.replicate (width - cs.length).toNat '0'
  match cs with
  | '+' :: rest => '+' :: zeros ++ rest
  | '-' :: rest => '-' :: zeros ++ rest
  | cs => zeros ++ cs

/-- A text with its tabs as blanks. -/
def expandTabs (size : Nat) : Nat → List Char → List Char
  | _, [] => []
  | column, c :: cs =>
    if c == '\t' then
      let n := if size == 0 then 0 else size - column % size
      List.replicate n ' ' ++ expandTabs size (column + n) cs
    else if c == '\n' || c == '\r' then c :: expandTabs size 0 cs
    else c :: expandTabs size (column + 1) cs

/-- The bytes of a text in an encoding. -/
def encoded (cs : List Char) (args : Args) : Work Datum := do
  let ds ← args.byName "encode" ["encoding", "errors"]
  let name ← match ds.getD 0 none with
    | none => pure "utf-8".toList
    | some d => needText "encode() argument 'encoding' must be str, not " d
  let plain := name.filterMap fun c =>
    if c == '-' || c == '_' || c == ' ' then none else some c.toLower
  let limited := fun (limit : Nat) (shown : String) => do
    match cs.zipIdx.find? fun p => limit ≤ p.1.val.toNat with
    | none => return Datum.bytes (cs.map fun c => UInt8.ofNat c.val.toNat)
    | some (_, i) =>
      throw (⟨"UnicodeEncodeError",
        [.text shown, .ofChars cs, .int i, .int (i + 1),
          .text ("ordinal not in range(" ++ Text.ofNat limit ++ ")")]⟩ : Raised)
  match String.ofList plain with
  | "utf8" => return .bytes (Text.Utf8.encode (String.ofList cs))
  | "ascii" => limited 128 "ascii"
  | "latin1" | "iso88591" => limited 256 "latin-1"
  | _ => Work.raise "LookupError" ("unknown encoding: " ++ String.ofList name)

/-- A text with characters replaced by a table. -/
def substituted (cs : List Char) (table : Datum) : Work Datum := do
  let step := fun (c : Char) => do
    let found : Option Datum ← tryCatch (do return some (← table.item (.int c.val.toNat)))
      fun (e : Raised) => if e.kind == "KeyError" || e.kind == "IndexError" then pure none
        else throw e
    match found with
    | none => return [c]
    | some .none => return []
    | some (.text t) => return t.toList
    | some d =>
      match d.integer? with
      | some i => return [Char.ofNat i.toNat]
      | none => Work.typeError "character mapping must return integer, None or str"
  return .ofChars (← cs.mapM step).flatten

/-- Whether all characters pass a test, and there is one. -/
def allAre (p : Char → Bool) (cs : List Char) : Datum := .bool (!cs.isEmpty && cs.all p)

/-- Whether a text is an identifier. -/
def isName : List Char → Bool
  | [] => false
  | c :: cs => Text.isIdentifierStart c && cs.all Text.isIdentifierPart

/-- Whether every word of a text starts with a capital and goes on in small letters. -/
def isTitled (cs : List Char) : Bool :=
  let step := fun (acc : Bool × Bool) (c : Char) =>
    if Text.isCapital c then (acc.1 && !acc.2, true)
    else if Text.isSmall c then (acc.1 && acc.2, true)
    else (acc.1, false)
  cs.any Text.isCased && (cs.foldl step (true, false)).1

/-- A question about a text or a text made of it, without arguments. -/
def plainText? (name : String) (cs : List Char) : Option Datum :=
  match name with
  | "upper" => some (.ofChars (Text.toCapitals cs))
  | "lower" => some (.ofChars (Text.toSmall none cs))
  | "casefold" =>
    some (.ofChars (cs.flatMap fun c => if c.val.toNat == 0xDF then ['s', 's'] else Text.small c))
  | "swapcase" => some (.ofChars (Text.swapCase cs))
  | "title" => some (.ofChars (Text.toTitle false cs))
  | "capitalize" =>
    some (.ofChars ((cs.take 1).flatMap Text.titleChar ++ Text.toSmall (cs.head?) (cs.drop 1)))
  | "isdigit" => some (allAre Text.isDigitLike cs)
  | "isdecimal" => some (allAre (fun c => (Text.Numeral.decimalDigit? c).isSome) cs)
  | "isnumeric" => some (allAre Text.isNumeric cs)
  | "isalpha" => some (allAre Text.isLetter cs)
  | "isalnum" => some (allAre (fun c => Text.isLetter c || Text.isNumeric c) cs)
  | "isspace" => some (allAre Text.isBlank cs)
  | "isupper" => some (.bool (cs.any Text.isCapital && !cs.any Text.isSmall))
  | "islower" => some (.bool (cs.any Text.isSmall && !cs.any Text.isCapital))
  | "istitle" => some (.bool (isTitled cs))
  | "isascii" => some (.bool (cs.all fun c => c.val.toNat < 128))
  | "isprintable" => some (.bool (cs.all Text.isPrintable))
  | "isidentifier" => some (.bool (isName cs))
  | _ => none

/-- The names of the methods of texts with arguments. -/
def textNames : List String :=
  ["strip", "lstrip", "rstrip", "split", "rsplit", "splitlines", "join", "replace", "find",
    "rfind", "index", "rindex", "count", "startswith", "endswith", "center", "ljust", "rjust",
    "zfill", "partition", "rpartition", "removeprefix", "removesuffix", "expandtabs", "encode",
    "translate", "format", "format_map", "maketrans"]

/-- Whether texts have a method. -/
def isOfText (name : String) : Bool := textNames.contains name || (plainText? name []).isSome

/-- A call of a method of a text. -/
def ofText (name : String) (s : String) (args : Args) : Work Datum := do
  let cs := s.toList
  match plainText? name cs with
  | some d =>
    args.none ("str." ++ name)
    return d
  | none =>
    match name with
    | "strip" | "lstrip" | "rstrip" =>
      let p ← stripped name (← args.between name 0 1)[0]?
      let front := if name == "rstrip" then cs else cs.dropWhile p
      return .ofChars (if name == "lstrip" then front else Text.trimEnd p front)
    | "split" | "rsplit" => pieces name cs args
    | "splitlines" =>
      let ds ← args.byName name ["keepends"]
      let keep ← match ds.getD 0 none with
        | some d => d.truth
        | none => pure false
      textList (if keep then Text.linesKept [] cs else Text.linesFrom [] cs)
    | "join" =>
      match ← args.one "str.join" with
      | .tuple parts => joined cs parts
      | _ => Work.typeError "can only join an iterable"
    | "replace" =>
      let ds ← args.between name 2 3
      let old ← needText "replace() argument 1 must be str, not " (ds.headD .none)
      let new ← needText "replace() argument 2 must be str, not " (ds.getD 1 .none)
      return .ofChars (Text.replace old new (← atMost cs.length ds[2]?) cs)
    | "find" | "rfind" | "index" | "rindex" => position name cs args
    | "count" =>
      let ds ← args.between name 1 3
      let part ← needText "must be str, not " (ds.headD .none)
      match ← between ds[1]? ds[2]? cs with
      | some (_, piece) => return .int (Text.count part piece)
      | none => return .int 0
    | "startswith" | "endswith" => hasEnd name cs args
    | "center" | "ljust" | "rjust" => placed name cs args
    | "zfill" => return .ofChars (zeroFilled cs (← Args.integer (← args.one "str.zfill")))
    | "partition" | "rpartition" => partition name cs args
    | "removeprefix" =>
      let part ← needText "removeprefix() argument must be str, not "
        (← args.one "str.removeprefix")
      return .ofChars (if part.isPrefixOf cs then cs.drop part.length else cs)
    | "removesuffix" =>
      let part ← needText "removesuffix() argument must be str, not "
        (← args.one "str.removesuffix")
      return .ofChars
        (if part.isSuffixOf cs && !part.isEmpty then cs.take (cs.length - part.length) else cs)
    | "expandtabs" =>
      let ds ← args.byName name ["tabsize"]
      let size ← match ds.getD 0 none with
        | some d => Args.integer d
        | none => pure 8
      return .ofChars (expandTabs size.toNat 0 cs)
    | "encode" => encoded cs args
    | "translate" => substituted cs (← args.one "str.translate")
    | _ => Work.raise "AttributeError" ("'str' object has no attribute '" ++ name ++ "'")

end SessionScript.Evaluator.Method
