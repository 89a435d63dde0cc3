import SessionScript.Evaluator.Key

/-!
# Comparing values

Truth, equality and order of values of running code. Containers are compared item by item, and a
container inside itself ends in an error after some depth.
-/

namespace SessionScript.Evaluator

namespace Work

/-- How deep containers may nest where they are compared or shown. -/
def deepest : Nat := 900

/-- The error of nesting too deep. -/
def tooDeep {α : Type} (activity : String) : Work α :=
  raise "RecursionError" ("maximum recursion depth exceeded" ++ activity)

/-- The entries of the mapping in a cell. -/
def entriesOf (address : Nat) : Work Pairs := do
  match ← read address with
  | .dict es => return es
  | .names bound => return bound.map fun (n, d) => (.text n, d)
  | _ => return []

/-- The items that a view of a mapping shows. -/
def viewItems (kind : ViewKind) (address : Nat) : Work (List Datum) := do
  let es ← entriesOf address
  match kind with
  | .keys => return es.map (·.1)
  | .values => return es.map (·.2)
  | .items => return es.map fun (k, v) => .tuple [k, v]

end Work

/-- A number for comparison: not a number, infinite, or a ratio with a positive denominator. -/
inductive Quantity where
  | nan
  | infinite (negative : Bool)
  | ratio (num : Int) (den : Nat)
  deriving Inhabited

namespace Quantity

/-- The quantity of a number of the machine. -/
def ofFloat (x : Binary64) : Quantity :=
  if x.isNaN then .nan
  else if x.isInfinite then .infinite x.negative
  else
    let m : Int := if x.negative then -(x.significand : Int) else x.significand
    if x.scale < 0 then .ratio m (twoTo x.scale.natAbs) else .ratio (m * twoTo x.scale.natAbs) 1

/-- Whether a quantity is less than another; nothing is less or greater than `nan`. -/
def lt : Quantity → Quantity → Bool
  | .ratio a b, .ratio c d => a * d < c * b
  | .infinite true, .infinite false => true
  | .infinite true, .ratio _ _ => true
  | .ratio _ _, .infinite false => true
  | _, _ => false

/-- Whether two quantities are equal. -/
def eq : Quantity → Quantity → Bool
  | .ratio a b, .ratio c d => a * d == c * b
  | .infinite a, .infinite b => a == b
  | _, _ => false

end Quantity

namespace Datum

/-- The quantity of a real number. -/
def quantity? : Datum → Option Quantity
  | .int i => some (.ratio i 1)
  | .bool b => some (.ratio (if b then 1 else 0) 1)
  | .float x => some (.ofFloat x)
  | _ => Option.none

/-- The number of items of a value that has items. -/
def length? (d : Datum) : Work (Option Nat) := do
  match d with
  | .text s => return some s.length
  | .bytes b => return some b.length
  | .tuple xs => return some xs.length
  | .range a b c => return some (rangeLength a b c)
  | .view _ a => return some (← Work.entriesOf a).length
  | .cell a =>
    match ← Work.read a with
    | .list xs => return some xs.size
    | .dict es => return some es.length
    | .set ms _ => return some ms.length
    | .names bound => return some bound.length
    | _ => return Option.none
  | _ => return Option.none

/-- Whether a value counts as true. -/
def truth (d : Datum) : Work Bool := do
  match d with
  | .none => return false
  | .bool b => return b
  | .int i => return i != 0
  | .float x => return !x.isZero
  | .complex a b => return !(a.isZero && b.isZero)
  | d =>
    match ← d.length? with
    | some n => return n != 0
    | Option.none => return true

/-- The members of a value that behaves like a set. -/
def members? (d : Datum) : Work (Option Members) := do
  match d with
  | .view .keys a => return some (← Work.viewItems .keys a)
  | .view .items a => return some (← Work.viewItems .items a)
  | .cell a =>
    match ← Work.read a with
    | .set ms _ => return some ms
    | _ => return Option.none
  | _ => return Option.none

/-- The items of a list or a tuple. -/
def sequence? (d : Datum) : Work (Option (Bool × List Datum)) := do
  match d with
  | .tuple xs => return some (false, xs)
  | .cell a =>
    match ← Work.read a with
    | .list xs => return some (true, xs.toList)
    | _ => return Option.none
  | _ => return Option.none

/-- Whether two lists of values are equal, given when two values are. -/
def allEqual (same : Datum → Datum → Work Bool) : List Datum → List Datum → Work Bool
  | x :: xs, y :: ys => do if ← same x y then allEqual same xs ys else return false
  | _, _ => return true

/-- Whether every entry of a mapping stands in another one with an equal value. -/
def entriesEqual (same : Datum → Datum → Work Bool) : Pairs → Pairs → Work Bool
  | [], _ => return true
  | (k, v) :: es, others =>
    match Pairs.get? others k with
    | some w => do if ← same v w then entriesEqual same es others else return false
    | Option.none => return false

/-- Whether two values are one object or equal, given when two values are equal. -/
def sameOr (equals : Datum → Datum → Work Bool) (a b : Datum) : Work Bool :=
  if a.isSame b then return true else equals a b

/-- Whether two values are equal, up to some depth. -/
def equalsWithin : Nat → Datum → Datum → Work Bool
  | 0, _, _ => Work.tooDeep " in comparison"
  | n + 1, a, b => do
    match a, b with
    | .float x, .float y => return x.eq y
    | .tuple xs, .tuple ys =>
      if xs.length != ys.length then return false
      allEqual (sameOr (equalsWithin n)) xs ys
    | .cell x, .cell y =>
      if x == y then return true
      match ← Work.read x, ← Work.read y with
      | .list xs, .list ys =>
        if xs.size != ys.size then return false
        allEqual (sameOr (equalsWithin n)) xs.toList ys.toList
      | .set xs _, .set ys _ => return xs.length == ys.length && Members.subset xs ys
      | .dict xs, .dict ys =>
        if xs.length != ys.length then return false
        entriesEqual (sameOr (equalsWithin n)) xs ys
      | _, _ => return false
    | a, b =>
      match ← a.members?, ← b.members? with
      | some xs, some ys => return xs.length == ys.length && Members.subset xs ys
      | _, _ => return a.sameKey b

/-- Whether two values are equal. -/
def equals (a b : Datum) : Work Bool := equalsWithin Work.deepest a b

/-- Whether two values are one object or equal. -/
def coincides (a b : Datum) : Work Bool := sameOr equals a b

/-- The sign of an order comparison. -/
def orderSign : Code.CompareOp → String
  | .lt => "<"
  | .le => "<="
  | .gt => ">"
  | _ => ">="

/-- The outcome of an order comparison of two lists, of which one is the start of the other, by
    their lengths. -/
def orderLengths (op : Code.CompareOp) (m n : Nat) : Bool :=
  match op with
  | .lt => m < n
  | .le => m ≤ n
  | .gt => n < m
  | _ => n ≤ m

/-- The outcome of an order comparison of two quantities. -/
def orderQuantities (op : Code.CompareOp) (p q : Quantity) : Bool :=
  match op with
  | .lt => p.lt q
  | .le => p.lt q || p.eq q
  | .gt => q.lt p
  | _ => q.lt p || p.eq q

/-- The outcome of an order comparison of two texts as lists of numbers. -/
def orderNumbers (op : Code.CompareOp) : List Nat → List Nat → Bool
  | x :: xs, y :: ys => if x == y then orderNumbers op xs ys else orderLengths op x y
  | xs, ys => orderLengths op xs.length ys.length

/-- The outcome of an order comparison of two sets: one holds the other. -/
def orderMembers (op : Code.CompareOp) (xs ys : Members) : Bool :=
  match op with
  | .lt => Members.subset xs ys && xs.length < ys.length
  | .le => Members.subset xs ys
  | .gt => Members.subset ys xs && ys.length < xs.length
  | _ => Members.subset ys xs

/-- An order comparison of two lists: the first items that differ decide. -/
def orderLists (op : Code.CompareOp) (order : Datum → Datum → Work Bool) :
    List Datum → List Datum → Work Bool
  | x :: xs, y :: ys => do
    if ← coincides x y then orderLists op order xs ys else order x y
  | xs, ys => return orderLengths op xs.length ys.length

/-- The error of two values without an order. -/
def unordered (op : Code.CompareOp) (a b : Datum) : Work Bool := do
  Work.typeError
    ("'" ++ orderSign op ++ "' not supported between instances of '" ++ (← a.typeName) ++
      "' and '" ++ (← b.typeName) ++ "'")

/-- An order comparison of two values, up to some depth. -/
def orderWithin (op : Code.CompareOp) : Nat → Datum → Datum → Work Bool
  | 0, _, _ => Work.tooDeep " in comparison"
  | n + 1, a, b => do
    match a.quantity?, b.quantity? with
    | some p, some q => return orderQuantities op p q
    | _, _ =>
    match a, b with
    | .text s, .text t =>
      return orderNumbers op (s.toList.map (·.val.toNat)) (t.toList.map (·.val.toNat))
    | .bytes s, .bytes t => return orderNumbers op (s.map (·.toNat)) (t.map (·.toNat))
    | .host (.date s), .host (.date t) =>
      return orderNumbers op [s.year, s.month, s.day] [t.year, t.month, t.day]
    | a, b =>
    match ← a.sequence?, ← b.sequence? with
    | some (isList, xs), some (isList', ys) =>
      if isList == isList' then orderLists op (orderWithin op n) xs ys
      else unordered op a b
    | _, _ =>
    match ← a.members?, ← b.members? with
    | some xs, some ys => return orderMembers op xs ys
    | _, _ => unordered op a b
/-- An order comparison of two values. -/
def order (op : Code.CompareOp) (a b : Datum) : Work Bool := orderWithin op Work.deepest a b

end Datum

end SessionScript.Evaluator
