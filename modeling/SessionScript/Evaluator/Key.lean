import SessionScript.Evaluator.Datum

/-!
# Keys

When two values are the same key of a mapping or the same member of a set, which values can be keys
at all, and mappings and sets as lists in order of insertion.
-/

namespace SessionScript.Evaluator

namespace Datum

/-- Whether a number of the machine equals an integer exactly. -/
def floatIsInt (x : Binary64) (i : Int) : Bool := x.toInt? == some i

/-- The number of items of a range. -/
def rangeLength (start stop step : Int) : Nat :=
  if 0 < step then ((stop - start + step - 1) / step).toNat
  else if step < 0 then ((start - stop - step - 1) / -step).toNat
  else 0

/-- Whether two ranges hold the same items. -/
def sameRange (a b c x y z : Int) : Bool :=
  let n := rangeLength a b c
  n == rangeLength x y z && (n == 0 || (a == x && (n == 1 || c == z)))

mutual

/-- Whether two values are the same key. Numbers are compared by value whatever their kind, and
    cells by their place. -/
def sameKey : Datum → Datum → Bool
  | .none, .none => true
  | .float x, .float y => x == y || x.eq y
  | .float x, .int i => floatIsInt x i
  | .int i, .float x => floatIsInt x i
  | .float x, .bool b => floatIsInt x (if b then 1 else 0)
  | .bool b, .float x => floatIsInt x (if b then 1 else 0)
  | .int i, .int k => i == k
  | .bool a, .bool b => a == b
  | .int i, .bool b => i == (if b then 1 else 0)
  | .bool b, .int i => i == (if b then 1 else 0)
  | .complex a b, .complex c d => a.eq c && b.eq d
  | .complex a b, .float x => b.isZero && a.eq x
  | .float x, .complex a b => b.isZero && a.eq x
  | .complex a b, .int i => b.isZero && floatIsInt a i
  | .int i, .complex a b => b.isZero && floatIsInt a i
  | .text s, .text t => s == t
  | .bytes a, .bytes b => a == b
  | .ellipsis, .ellipsis => true
  | .tuple xs, .tuple ys => sameKeys xs ys
  | .range a b c, .range x y z => sameRange a b c x y z
  | .slice a b c, .slice x y z => sameKey a x && sameKey b y && sameKey c z
  | .cell a, .cell b => a == b
  | .view k a, .view l b => k == l && a == b
  | .type a, .type b => a == b
  | .builtin a, .builtin b => a == b
  | .method o a, .method p b => a == b && sameKey o p
  | .unbound s a, .unbound t b => s == t && a == b
  | .error k xs, .error l ys => k == l && sameKeys xs ys
  | .host (.object a), .host (.object b) => a == b
  | .host v, .host w => v.sameKey w
  | _, _ => false

/-- Whether two lists of values are the same, key by key. -/
def sameKeys : List Datum → List Datum → Bool
  | [], [] => true
  | x :: xs, y :: ys => sameKey x y && sameKeys xs ys
  | _, _ => false

end

/-- Whether two values are one object. Values that can not change are one if they have the same
    type and are equal. -/
def isSame : Datum → Datum → Bool
  | .float x, .float y => x == y
  | .int i, .int k => i == k
  | .bool a, .bool b => a == b
  | .float _, _ => false
  | _, .float _ => false
  | .bool _, .int _ => false
  | .int _, .bool _ => false
  | a, b => sameKey a b

mutual

/-- The type that keeps a value from being a key, if there is one. -/
def unhashable? (s : Store) : Datum → Option String
  | .cell a =>
    match s.cells.getD a (.names []) with
    | .list _ => some "list"
    | .dict _ => some "dict"
    | .set _ false => some "set"
    | .names _ => some "dict"
    | _ => Option.none
  | .tuple xs => anyUnhashable? s xs
  | .slice _ _ _ => some "slice"
  | .view .keys _ => some "dict_keys"
  | .view .items _ => some "dict_items"
  | _ => Option.none

/-- The type of the first value that can not be a key. -/
def anyUnhashable? (s : Store) : List Datum → Option String
  | [] => Option.none
  | x :: xs =>
    match unhashable? s x with
    | some t => some t
    | Option.none => anyUnhashable? s xs

end

/-- Checks that a value can be a key. -/
def needKey (d : Datum) : Work Unit := do
  match d.unhashable? (← get) with
  | some t => Work.typeError ("unhashable type: '" ++ t ++ "'")
  | Option.none => return

end Datum

/-- The entries of a mapping in order of insertion. -/
abbrev Pairs := List (Datum × Datum)

namespace Pairs

/-- The value under a key. -/
def get? : Pairs → Datum → Option Datum
  | [], _ => none
  | (k, v) :: es, key => if k.sameKey key then some v else get? es key

/-- Sets the value under a key. An entry that is there keeps its place and its key. -/
def put : Pairs → Datum → Datum → Pairs
  | [], key, value => [(key, value)]
  | (k, v) :: es, key, value =>
    if k.sameKey key then (k, value) :: es else (k, v) :: put es key value

/-- Removes the entry under a key. -/
def erase : Pairs → Datum → Pairs
  | [], _ => []
  | (k, v) :: es, key => if k.sameKey key then es else (k, v) :: erase es key

end Pairs

/-- The members of a set in the order in which they were put in. -/
abbrev Members := List Datum

namespace Members

/-- Whether a value is a member. -/
def has (ms : Members) (d : Datum) : Bool := ms.any (·.sameKey d)

/-- Adds a member unless it is there. -/
def add (ms : Members) (d : Datum) : Members := if ms.has d then ms else ms ++ [d]

/-- Removes a member. -/
def erase : Members → Datum → Members
  | [], _ => []
  | m :: ms, d => if m.sameKey d then ms else m :: erase ms d

/-- The members of a set made of values. -/
def ofList (ds : List Datum) : Members := ds.foldl add []

/-- Whether every member is one of another set. -/
def subset (ms ns : Members) : Bool := ms.all ns.has

/-- Where a member comes when a set gives its members: integers in their order, before all
    others. -/
def comesBefore : Datum → Datum → Bool
  | a, b =>
    match a.integer?, b.integer? with
    | some i, some k => i ≤ k
    | some _, none => true
    | none, some _ => false
    | none, none => true

/-- The members in the order in which a set gives them. -/
def inOrder (ms : Members) : List Datum := ms.mergeSort comesBefore

end Members

end SessionScript.Evaluator
