import SessionScript.Evaluator.Builtin

/-!
# Calls and iteration

What calls and loops need besides the evaluation of code: how arguments reach the parameters of a
function, which values can be walked through, and sorting.
-/

namespace SessionScript.Evaluator

namespace Work

/-- A computation with its error as a value. -/
def attempt {α : Type} (w : Work α) : Work (Except Raised α) :=
  tryCatch (do return .ok (← w)) fun e => return .error e

/-- A computation one call deeper. -/
def nested {α : Type} (w : Work α) : Work α := do
  let room := (← get).room
  if room == 0 then tooDeep ""
  modify fun s => { s with room := room - 1 }
  let result ← attempt w
  modify fun s => { s with room := room }
  match result with
  | .ok a => return a
  | .error e => throw e

/-- A computation during which an error is handled. -/
def whileHandling {α : Type} (e : Raised) (w : Work α) : Work α := do
  let handling := (← get).handling
  modify fun s => { s with handling := e :: handling }
  let result ← attempt w
  modify fun s => { s with handling := handling }
  match result with
  | .ok a => return a
  | .error e => throw e

end Work

namespace Datum

/-- A new iterator. -/
def newIterator (it : Iterator) : Work (Option Datum) := some <$> Work.new (.iterator it)

/-- An iterator over the items of a value, if it has items. -/
def iterator? (d : Datum) : Work (Option Datum) := do
  match d with
  | .text s => newIterator (.items "str_iterator" (s.toList.map fun c => ofChars [c]) Option.none)
  | .bytes b => newIterator (.items "bytes_iterator" (b.map fun x => .int x.toNat) Option.none)
  | .tuple xs => newIterator (.items "tuple_iterator" xs Option.none)
  | .range a b c => newIterator (.range a (rangeLength a b c) c)
  | .view kind a => newIterator (.dict kind a 0 (← Work.entriesOf a).length)
  | .cell a =>
    match ← Work.read a with
    | .list _ => newIterator (.list a 0)
    | .dict es => newIterator (.dict .keys a 0 es.length)
    | .set ms _ => newIterator (.set (Members.inOrder ms) a ms.length)
    | .iterator _ => return some d
    | _ => return Option.none
  | _ => return Option.none

/-- An iterator over the items of a value. -/
def iterator (d : Datum) : Work Datum := do
  match ← d.iterator? with
  | some it => return it
  | Option.none => Work.typeError ("'" ++ (← d.typeName) ++ "' object is not iterable")

/-- An iterator over the items of a value from the last one on. -/
def reversedIterator (d : Datum) : Work Datum := do
  match d with
  | .text s =>
    Work.new (.iterator
      (.items "reversed" (s.toList.reverse.map fun c => ofChars [c]) Option.none))
  | .tuple xs => Work.new (.iterator (.items "reversed" xs.reverse Option.none))
  | .range a b c =>
    let n := rangeLength a b c
    Work.new (.iterator (.range (a + (n - 1 : Int) * c) n (-c)))
  | .view kind a =>
    Work.new (.iterator
      (.items "dict_reversekeyiterator" (← Work.viewItems kind a).reverse Option.none))
  | d =>
    let refuse : Work Datum := do
      Work.typeError ("'" ++ (← d.typeName) ++ "' object is not reversible")
    match d with
    | .cell a =>
      match ← Work.read a with
      | .list xs => Work.new (.iterator (.listReversed a xs.size))
      | .dict es =>
        Work.new (.iterator
          (.items "dict_reversekeyiterator" (es.reverse.map (·.1)) Option.none))
      | _ => refuse
    | _ => refuse

/-- Whether a value is a mapping. -/
def isMapping (d : Datum) : Work Bool := do
  match d with
  | .cell a =>
    match ← Work.read a with
    | .dict _ => return true
    | _ => return false
  | _ => return false

/-- The text of a function in messages about its arguments. -/
def functionText (d : Datum) : Work String := do
  match d with
  | .builtin name => return name ++ "()"
  | .type name => return name ++ "()"
  | .method _ name => return name ++ "()"
  | .unbound t name => return t ++ "." ++ name ++ "()"
  | .cell a =>
    match ← Work.read a with
    | .function f => return f.fullName ++ "()"
    | _ => d.shown
  | d => d.shown

end Datum

/-- Names in quotes, as a list in a sentence. -/
def quotedNames (names : List String) : String :=
  match names.map fun n => "'" ++ n ++ "'" with
  | [] => ""
  | [a] => a
  | [a, b] => a ++ " and " ++ b
  | parts => Datum.commas parts.dropLast ++ ", and " ++ parts.getLastD ""

namespace Closure

/-- The parameters that take arguments by position. -/
def places (f : Closure) : List Parameter :=
  f.params.filter fun p => p.kind == .positionalOnly || p.kind == .plain

/-- The parameters that take arguments by name only. -/
def keywordOnly (f : Closure) : List Parameter := f.params.filter fun p => p.kind == .keywordOnly

/-- The name of the parameter that takes the arguments that are left over. -/
def restName? (f : Closure) (kind : Code.ParamKind) : Option String :=
  (f.params.find? fun p => p.kind == kind && !p.name.isEmpty).map (·.name)

/-- An error about the arguments of a call. -/
def refuse {α : Type} (f : Closure) (message : String) : Work α :=
  Work.typeError (f.fullName ++ "() " ++ message)

/-- The error of too many arguments by position. -/
def tooMany {α : Type} (f : Closure) (given keywordsGiven : Nat) : Work α :=
  let most := f.places.length
  let optional := (f.places.filter fun p => p.default.isSome).length
  let takes := if optional == 0 then Text.ofNat most
    else "from " ++ Text.ofNat (most - optional) ++ " to " ++ Text.ofNat most
  let many := optional != 0 || most != 1
  let s := fun (b : Bool) => if b then "s" else ""
  let also := if keywordsGiven == 0 then ""
    else " positional argument" ++ s (given != 1) ++ " (and " ++ Text.ofNat keywordsGiven ++
      " keyword-only argument" ++ s (keywordsGiven != 1) ++ ")"
  let were := if given == 1 && keywordsGiven == 0 then "was" else "were"
  f.refuse ("takes " ++ takes ++ " positional argument" ++ s many ++ " but " ++ Text.ofNat given ++
    also ++ " " ++ were ++ " given")

/-- Checks that no parameter without a default is left without an argument. -/
def needAll (f : Closure) (noun : String) (params : List Parameter)
    (bound : List (String × Datum)) : Work Unit := do
  let missing := params.filter fun p => p.default.isNone && (bound.lookup p.name).isNone
  if !missing.isEmpty then
    f.refuse ("missing " ++ Args.counted missing.length ("required " ++ noun ++ " argument") ++
      ": " ++ quotedNames (missing.map (·.name)))

/-- The arguments by name, bound to parameters or kept for the parameter that takes the rest. -/
def bindNamed (f : Closure) : List (String × Datum) → List (String × Datum) → Pairs →
    Work (List (String × Datum) × Pairs)
  | [], bound, rest => return (bound, rest)
  | (k, d) :: named, bound, rest => do
    let takes := f.params.any fun p =>
      p.name == k && (p.kind == .plain || p.kind == .keywordOnly)
    if takes then
      if (bound.lookup k).isSome then f.refuse ("got multiple values for argument '" ++ k ++ "'")
      bindNamed f named (bound ++ [(k, d)]) rest
    else if (f.restName? .keywords).isSome then
      bindNamed f named bound (Pairs.put rest (.text k) d)
    else
      let hidden := (f.params.filter fun p => p.kind == .positionalOnly).map (·.name)
      let wrong := hidden.filter fun name => name == k || (named.lookup name).isSome
      if hidden.contains k then
        f.refuse ("got some positional-only arguments passed as keyword arguments: '" ++
          Datum.commas wrong ++ "'")
      else f.refuse ("got an unexpected keyword argument '" ++ k ++ "'")

/-- The values of the parameters of a function in a call. -/
def bindArguments (f : Closure) (args : Args) : Work (List (String × Datum)) := do
  let places := f.places
  let first := (places.zip args.positional).map fun (p, d) => (p.name, d)
  let (bound, named) ← f.bindNamed args.named first []
  let given := args.positional.length
  let keywordsGiven :=
    (f.keywordOnly.filter fun p => (bound.lookup p.name).isSome).length
  if places.length < given && (f.restName? .rest).isNone then f.tooMany given keywordsGiven
  f.needAll "positional" places bound
  f.needAll "keyword-only" f.keywordOnly bound
  let defaults := (places ++ f.keywordOnly).filterMap fun p =>
    match bound.lookup p.name, p.default with
    | none, some d => some (p.name, d)
    | _, _ => none
  let rest := match f.restName? .rest with
    | some name => [(name, Datum.tuple (args.positional.drop places.length))]
    | none => []
  let keywords ← match f.restName? .keywords with
    | some name => pure [(name, ← Work.new (.dict named))]
    | none => pure []
  return bound ++ defaults ++ rest ++ keywords

end Closure

namespace Sorting

/-- Two sorted lists as one. Of two equal items the one of the first list comes first. The first
    argument is not less than the length of both. -/
def merge : Nat → List (Datum × Datum) → List (Datum × Datum) → List (Datum × Datum) →
    Work (List (Datum × Datum))
  | 0, acc, xs, ys => return acc.reverse ++ xs ++ ys
  | _, acc, [], ys => return acc.reverse ++ ys
  | _, acc, xs, [] => return acc.reverse ++ xs
  | n + 1, acc, x :: xs, y :: ys => do
    if ← y.1.order .lt x.1 then merge n (y :: acc) (x :: xs) ys
    else merge n (x :: acc) xs (y :: ys)

/-- Neighbouring lists merged in pairs. -/
def mergePairs : List (List (Datum × Datum)) → Work (List (List (Datum × Datum)))
  | xs :: ys :: more => do
    let zs ← merge (xs.length + ys.length) [] xs ys
    return zs :: (← mergePairs more)
  | short => return short

/-- Lists merged until one is left. The first argument exceeds the logarithm of their number. -/
def mergeAll : Nat → List (List (Datum × Datum)) → Work (List (Datum × Datum))
  | 0, xss => return xss.flatten
  | _, [] => return []
  | _, [xs] => return xs
  | n + 1, xss => do mergeAll n (← mergePairs xss)

/-- Values in the order of their keys, the other way round if that is asked for; equal ones stay
    in order. -/
def sort (isReversed : Bool) (keyed : List (Datum × Datum)) : Work (List Datum) := do
  let source := if isReversed then keyed.reverse else keyed
  let sorted ← mergeAll (source.length.log2 + 2) (source.map fun p => [p])
  let values := sorted.map (·.2)
  return if isReversed then values.reverse else values

end Sorting

end SessionScript.Evaluator
