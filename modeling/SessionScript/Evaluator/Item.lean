import SessionScript.Evaluator.Shown

/-!
# Items of containers

Items by position, by slice and by key: reading, replacing and removing them.
-/

namespace SessionScript.Evaluator

/-- A slice of a sequence of known length: the first position, the distance between positions, and
    their number. -/
structure Stretch where
  start : Int
  step : Int
  count : Nat
  deriving Repr, DecidableEq

namespace Stretch

/-- The positions of a slice. -/
def positions (s : Stretch) : List Nat :=
  (List.range s.count).map fun (i : Nat) => (s.start + s.step * (i : Int)).toNat

/-- A bound of a slice, counted from the end if it is negative and kept within the sequence. -/
def clamp (length : Nat) (step bound : Int) : Int :=
  let n : Int := length
  let low : Int := if step < 0 then -1 else 0
  let high : Int := if step < 0 then n - 1 else n
  let b := if bound < 0 then bound + n else bound
  if b < low then low else if high < b then high else b

/-- The slice of a sequence between two bounds. -/
def of (length : Nat) (low high : Option Int) (step : Int) : Stretch :=
  let n : Int := length
  let start := match low with
    | some i => clamp length step i
    | none => if step < 0 then n - 1 else 0
  let stop := match high with
    | some i => clamp length step i
    | none => if step < 0 then -1 else n
  ⟨start, step, Datum.rangeLength start stop step⟩

/-- The items of a slice. -/
def pick {α : Type} (s : Stretch) (xs : List α) : List α :=
  if s.step == 1 then (xs.drop s.start.toNat).take s.count
  else
    let items := xs.toArray
    s.positions.filterMap fun i => items[i]?

end Stretch

namespace Datum

/-- A bound of a slice. -/
def sliceBound (d : Datum) : Work (Option Int) :=
  match d with
  | .none => return Option.none
  | d =>
    match d.integer? with
    | some i => return some i
    | Option.none =>
      Work.typeError "slice indices must be integers or None or have an __index__ method"

/-- The slice of a sequence that three values describe. -/
def stretch (length : Nat) (low high step : Datum) : Work Stretch := do
  let s := (← sliceBound step).getD 1
  if s == 0 then Work.valueError "slice step cannot be zero"
  let l ← sliceBound low
  let h ← sliceBound high
  return Stretch.of length l h s

/-- A position in a sequence, counted from the end if it is negative. -/
def position? (length : Nat) (i : Int) : Option Nat :=
  let k := if i < 0 then i + length else i
  if 0 ≤ k && k < length then some k.toNat else Option.none

/-- The item of a sequence at a position or its items in a slice. -/
def pickFrom {α : Type} (kind outOfRange : String) (xs : List α) (one : α → Work Datum)
    (many : List α → Work Datum) (key : Datum) : Work Datum := do
  match key with
  | .slice low high step => many ((← stretch xs.length low high step).pick xs)
  | key =>
    match key.integer? with
    | some i =>
      match (position? xs.length i).bind (xs[·]?) with
      | some x => one x
      | Option.none => Work.raise "IndexError" outOfRange
    | Option.none =>
      if kind == "string" then
        Work.typeError ("string indices must be integers, not '" ++ (← key.typeName) ++ "'")
      else
        Work.typeError (kind ++ " indices must be integers or slices, not " ++ (← key.typeName))

/-- The types that stand for containers of other types when they are subscripted. -/
def genericTypes : List String := ["list", "dict", "tuple", "set", "frozenset", "type"]

/-- The item of a range at a position, or the range of its items in a slice. -/
def rangeItem (a b c : Int) (key : Datum) : Work Datum := do
  let n := rangeLength a b c
  match key with
  | .slice low high step =>
    let s ← stretch n low high step
    return .range (a + s.start * c) (a + (s.start + s.step * s.count) * c) (c * s.step)
  | key =>
    match key.integer? with
    | some i =>
      match position? n i with
      | some k => return .int (a + k * c)
      | Option.none => Work.raise "IndexError" "range object index out of range"
    | Option.none =>
      Work.typeError ("range indices must be integers or slices, not " ++ (← key.typeName))

/-- The item of a container under a key. -/
def item (d key : Datum) : Work Datum := do
  match d with
  | .text s =>
    pickFrom "string" "string index out of range" s.toList (fun c => return ofChars [c])
      (fun cs => return ofChars cs) key
  | .bytes b =>
    pickFrom "byte" "index out of range" b (fun x => return .int x.toNat)
      (fun xs => return .bytes xs) key
  | .tuple xs =>
    pickFrom "tuple" "tuple index out of range" xs (fun x => return x)
      (fun xs => return .tuple xs) key
  | .range a b c => rangeItem a b c key
  | .type name =>
    if genericTypes.contains name then
      return .host (.other "GenericAlias" (name ++ "[" ++ (← key.shown) ++ "]"))
    else Work.typeError ("type '" ++ name ++ "' is not subscriptable")
  | d =>
    let refuse : Work Datum := do
      Work.typeError ("'" ++ (← d.typeName) ++ "' object is not subscriptable")
    match d with
    | .cell a =>
      match ← Work.read a with
      | .list xs =>
        match key.integer? with
        | some i =>
          match (position? xs.size i).bind (xs[·]?) with
          | some x => return x
          | Option.none => Work.raise "IndexError" "list index out of range"
        | Option.none =>
          pickFrom "list" "list index out of range" xs.toList (fun x => return x) Work.newList key
      | .dict es =>
        key.needKey
        match Pairs.get? es key with
        | some v => return v
        | Option.none => throw ⟨"KeyError", [key]⟩
      | _ => refuse
    | _ => refuse

/-- A list with the items of a slice replaced. -/
def replaceSlice (s : Stretch) (xs : Array Datum) (news : List Datum) : Work (Array Datum) := do
  let old := xs.toList
  if s.step == 1 then
    let start := s.start.toNat
    return (old.take start ++ news ++ old.drop (start + s.count)).toArray
  else if news.length != s.count then
    Work.valueError ("attempt to assign sequence of size " ++ Text.ofNat news.length ++
      " to extended slice of size " ++ Text.ofNat s.count)
  else
    return (s.positions.zip news).foldl (fun acc p => acc.setIfInBounds p.1 p.2) xs

/-- Replaces the item of a container under a key. For a slice of a list the value is a tuple of
    the new items. -/
def setItem (d key value : Datum) : Work Unit := do
  let refuse : Work Unit := do
    Work.typeError ("'" ++ (← d.typeName) ++ "' object does not support item assignment")
  match d with
  | .cell a =>
    match ← Work.read a with
    | .list xs =>
      match key with
      | .slice low high step =>
        let s ← stretch xs.size low high step
        match value with
        | .tuple news => Work.write a (.list (← replaceSlice s xs news))
        | _ => Work.typeError "can only assign an iterable"
      | key =>
        match key.integer? with
        | some i =>
          match position? xs.size i with
          | some k => Work.write a (.list (xs.setIfInBounds k value))
          | Option.none => Work.raise "IndexError" "list assignment index out of range"
        | Option.none =>
          Work.typeError ("list indices must be integers or slices, not " ++ (← key.typeName))
    | .dict es =>
      key.needKey
      Work.write a (.dict (Pairs.put es key value))
    | _ => refuse
  | _ => refuse

/-- A list without the items at some positions. -/
def withoutPositions (gone : List Nat) (xs : List Datum) : List Datum :=
  (xs.zipIdx.filter fun p => !gone.contains p.2).map (·.1)

/-- Removes the item of a container under a key. -/
def deleteItem (d key : Datum) : Work Unit := do
  let refuse : Work Unit := do
    Work.typeError ("'" ++ (← d.typeName) ++ "' object doesn't support item deletion")
  match d with
  | .cell a =>
    match ← Work.read a with
    | .list xs =>
      match key with
      | .slice low high step =>
        let s ← stretch xs.size low high step
        Work.write a (.list (withoutPositions s.positions xs.toList).toArray)
      | key =>
        match key.integer? with
        | some i =>
          match position? xs.size i with
          | some k => Work.write a (.list (withoutPositions [k] xs.toList).toArray)
          | Option.none => Work.raise "IndexError" "list assignment index out of range"
        | Option.none =>
          Work.typeError ("list indices must be integers or slices, not " ++ (← key.typeName))
    | .dict es =>
      key.needKey
      match Pairs.get? es key with
      | some _ => Work.write a (.dict (Pairs.erase es key))
      | Option.none => throw ⟨"KeyError", [key]⟩
    | _ => refuse
  | _ => refuse

/-- Whether a text occurs in another one. -/
def isPart (part : List Char) : List Char → Bool
  | [] => part.isEmpty
  | c :: cs => part.isPrefixOf (c :: cs) || isPart part cs

/-- Whether a list of bytes occurs in another one. -/
def isBytesPart (part : List UInt8) : List UInt8 → Bool
  | [] => part.isEmpty
  | c :: cs => part.isPrefixOf (c :: cs) || isBytesPart part cs

/-- Whether one of some values coincides with a value. -/
def anyCoincides (d : Datum) : List Datum → Work Bool
  | [] => return false
  | x :: xs => do if ← x.coincides d then return true else anyCoincides d xs

/-- Whether a container has an item; nothing if a value is no container. -/
def has? (container d : Datum) : Work (Option Bool) := do
  match container with
  | .text s =>
    match d with
    | .text t => return some (isPart t.toList s.toList)
    | d =>
      Work.typeError ("'in <string>' requires string as left operand, not " ++ (← d.typeName))
  | .bytes b =>
    match d with
    | .bytes part => return some (isBytesPart part b)
    | d =>
      match d.integer? with
      | some i =>
        if i < 0 || 256 ≤ i then Work.valueError "byte must be in range(0, 256)"
        return some (b.any fun x => x.toNat == i.toNat)
      | Option.none => Work.typeError ("a bytes-like object is required, not '" ++
          (← d.typeName) ++ "'")
  | .tuple xs => return some (← anyCoincides d xs)
  | .range a b c =>
    match d.quantity? with
    | some (.ratio p q) =>
      if p % q != 0 then return some false
      let i := p / q
      let inside := if 0 < c then a ≤ i && i < b else b < i && i ≤ a
      return some (inside && (i - a) % c == 0)
    | _ => return some false
  | .view .keys a =>
    d.needKey
    return some (Pairs.get? (← Work.entriesOf a) d).isSome
  | .view kind a => return some (← anyCoincides d (← Work.viewItems kind a))
  | .cell a =>
    match ← Work.read a with
    | .list xs => return some (← anyCoincides d xs.toList)
    | .dict es =>
      d.needKey
      return some (Pairs.get? es d).isSome
    | .set ms _ =>
      if (← d.typeName) != "set" then d.needKey
      return some (Members.has ms d)
    | _ => return Option.none
  | _ => return Option.none

end Datum

end SessionScript.Evaluator
