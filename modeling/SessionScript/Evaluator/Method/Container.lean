import SessionScript.Evaluator.Args
import SessionScript.Evaluator.Item

/-!
# Methods of containers

What code can ask of lists, tuples, mappings and sets. Arguments that are walked through come as
tuples.
-/

namespace SessionScript.Evaluator.Method

/-- The items of an argument that was walked through. -/
def walked (d : Datum) : List Datum :=
  match d with
  | .tuple xs => xs
  | _ => []

/-- The position of the first item that coincides with a value, counted from a position on. -/
def positionFrom (d : Datum) : Nat → List Datum → Work (Option Nat)
  | _, [] => return none
  | n, x :: xs => do if ← x.coincides d then return some n else positionFrom d (n + 1) xs

/-- How many items coincide with a value. -/
def countOf (d : Datum) (xs : List Datum) : Work Datum := do
  let found ← xs.filterM fun x => x.coincides d
  return .int found.length

/-- The position of a value in a sequence between two bounds. -/
def positionOf (args : Args) (xs : List Datum) (missing : Datum → Work String) : Work Datum := do
  let ds ← args.between "index" 1 3
  let d := ds.headD .none
  let limit := fun (b : Option Datum) (standard : Int) => match b with
    | some b => do return (← b.sliceBound).getD standard
    | none => return standard
  let low ← limit ds[1]? 0
  let high ← limit ds[2]? xs.length
  let start := (Stretch.clamp xs.length 1 low).toNat
  let stop := (Stretch.clamp xs.length 1 high).toNat
  match ← positionFrom d start ((xs.drop start).take (stop - start)) with
  | some n => return .int n
  | none => Work.valueError (← missing d)

/-- The names of the methods of lists. -/
def listNames : List String :=
  ["append", "extend", "insert", "pop", "remove", "clear", "index", "count", "reverse", "copy",
    "sort"]

/-- A call of a method of a list. -/
def ofList (name : String) (address : Nat) (xs : Array Datum) (args : Args) : Work Datum := do
  let set := fun (ys : Array Datum) => do
    Work.write address (.list ys)
    return Datum.none
  match name with
  | "append" => set (xs.push (← args.one "list.append"))
  | "extend" => set (xs ++ (walked (← args.one "list.extend")).toArray)
  | "insert" =>
    let ds ← args.between name 2 2
    let i ← Args.integer (ds.headD .none)
    let k := (Stretch.clamp xs.size 1 i).toNat
    set ((xs.toList.take k ++ [ds.getD 1 .none] ++ xs.toList.drop k).toArray)
  | "pop" =>
    let ds ← args.between name 0 1
    let i ← match (ds[0]? : Option Datum) with
      | some d => Args.integer d
      | none => pure (-1)
    if xs.isEmpty then Work.raise "IndexError" "pop from empty list"
    match Datum.position? xs.size i with
    | none => Work.raise "IndexError" "pop index out of range"
    | some k =>
      let _ ← set (Datum.withoutPositions [k] xs.toList).toArray
      return xs.getD k .none
  | "remove" =>
    let d ← args.one "list.remove"
    match ← positionFrom d 0 xs.toList with
    | some k => set (Datum.withoutPositions [k] xs.toList).toArray
    | none => Work.valueError "list.remove(x): x not in list"
  | "clear" =>
    args.none "list.clear"
    set #[]
  | "index" => positionOf args xs.toList fun d => do return (← d.shown) ++ " is not in list"
  | "count" => countOf (← args.one "list.count") xs.toList
  | "reverse" =>
    args.none "list.reverse"
    set xs.reverse
  | _ =>
    args.none "list.copy"
    Work.new (.list xs)

/-- The names of the methods of tuples. -/
def tupleNames : List String := ["index", "count"]

/-- A call of a method of a tuple. -/
def ofTuple (name : String) (xs : List Datum) (args : Args) : Work Datum := do
  if name == "count" then countOf (← args.one "tuple.count") xs
  else positionOf args xs fun _ => return "tuple.index(x): x not in tuple"

/-- The names of the methods of mappings. -/
def dictNames : List String :=
  ["get", "keys", "values", "items", "pop", "popitem", "setdefault", "update", "clear", "copy",
    "fromkeys"]

/-- Entries put into a mapping one by one. -/
def putAll (es more : Pairs) : Pairs := more.foldl (fun acc e => Pairs.put acc e.1 e.2) es

/-- The entries of an argument of an update: a mapping, or pairs that were walked through. -/
def entriesOf (d : Datum) : Work Pairs := do
  match d with
  | .tuple ps =>
    return ps.filterMap fun p => match p with
      | .tuple [k, v] => some (k, v)
      | _ => none
  | .cell a => Work.entriesOf a
  | _ => return []

/-- A call of a method of a mapping. -/
def ofDict (name : String) (address : Nat) (es : Pairs) (args : Args) : Work Datum := do
  let set := fun (news : Pairs) => Work.write address (.dict news)
  match name with
  | "get" =>
    let ds ← args.between name 1 2
    let key := ds.headD .none
    key.needKey
    return (Pairs.get? es key).getD (ds.getD 1 .none)
  | "keys" =>
    args.none "dict.keys"
    return .view .keys address
  | "values" =>
    args.none "dict.values"
    return .view .values address
  | "items" =>
    args.none "dict.items"
    return .view .items address
  | "pop" =>
    let ds ← args.between name 1 2
    let key := ds.headD .none
    key.needKey
    match Pairs.get? es key, (ds[1]? : Option Datum) with
    | some v, _ =>
      set (Pairs.erase es key)
      return v
    | none, some d => return d
    | none, none => throw ⟨"KeyError", [key]⟩
  | "popitem" =>
    args.none "dict.popitem"
    match es.getLast? with
    | some (k, v) =>
      set es.dropLast
      return .tuple [k, v]
    | none => Work.raise "KeyError" "popitem(): dictionary is empty"
  | "setdefault" =>
    let ds ← args.between name 1 2
    let key := ds.headD .none
    key.needKey
    match Pairs.get? es key with
    | some v => return v
    | none =>
      let v := ds.getD 1 .none
      set (Pairs.put es key v)
      return v
  | "update" =>
    if 1 < args.positional.length then
      Work.typeError
        ("update expected at most 1 argument, got " ++ Text.ofNat args.positional.length)
    let more ← match args.positional with
      | [d] => entriesOf d
      | _ => pure []
    let named := args.named.map fun (k, d) => (Datum.text k, d)
    set (putAll es (more ++ named))
    return .none
  | "clear" =>
    args.none "dict.clear"
    set []
    return .none
  | _ =>
    args.none "dict.copy"
    Work.new (.dict es)

/-- The names of the methods of sets that do not change them. -/
def frozenNames : List String :=
  ["union", "intersection", "difference", "symmetric_difference", "issubset", "issuperset",
    "isdisjoint", "copy"]

/-- The names of the methods of sets. -/
def setNames : List String :=
  frozenNames ++
    ["add", "remove", "discard", "pop", "clear", "update", "intersection_update",
      "difference_update", "symmetric_difference_update"]

/-- A set combined with others, one after the other. -/
def combined (op : Code.BinaryOp) (ms : Members) (others : List Datum) : Members :=
  others.foldl (fun acc d =>
    let ns := Members.ofList (walked d)
    match op with
    | .bitOr => ns.foldl Members.add acc
    | .bitAnd => acc.filter (Members.has ns)
    | .sub => acc.filter fun m => !Members.has ns m
    | _ => (acc.filter fun m => !Members.has ns m) ++ ns.filter fun n => !Members.has acc n) ms

/-- The operation that a method of sets performs. -/
def setOperation? : String → Option Code.BinaryOp
  | "union" | "update" => some .bitOr
  | "intersection" | "intersection_update" => some .bitAnd
  | "difference" | "difference_update" => some .sub
  | "symmetric_difference" | "symmetric_difference_update" => some .bitXor
  | _ => none

/-- A call of a method of a set. -/
def ofSet (name : String) (address : Nat) (ms : Members) (frozen : Bool) (args : Args) :
    Work Datum := do
  let set := fun (news : Members) => do
    Work.write address (.set news frozen)
    return Datum.none
  let owner := "set." ++ name
  match setOperation? name with
  | some op =>
    if !args.named.isEmpty then Work.typeError (owner ++ "() takes no keyword arguments")
    if op == .bitXor then let _ ← args.one owner
    (args.positional.flatMap walked).forM Datum.needKey
    let news := combined op ms args.positional
    if name == "update" || name.endsWith "_update" then set news
    else Work.new (.set news frozen)
  | none =>
    match name with
    | "issubset" => return .bool (Members.subset ms (walked (← args.one owner)))
    | "issuperset" => return .bool (Members.subset (walked (← args.one owner)) ms)
    | "isdisjoint" => return .bool (!(walked (← args.one owner)).any (Members.has ms))
    | "add" =>
      let d ← args.one owner
      d.needKey
      set (Members.add ms d)
    | "remove" =>
      let d ← args.one owner
      d.needKey
      if Members.has ms d then set (Members.erase ms d) else throw ⟨"KeyError", [d]⟩
    | "discard" =>
      let d ← args.one owner
      d.needKey
      set (Members.erase ms d)
    | "pop" =>
      args.none owner
      match Members.inOrder ms with
      | m :: _ =>
        let _ ← set (Members.erase ms m)
        return m
      | [] => Work.raise "KeyError" "pop from an empty set"
    | "clear" =>
      args.none owner
      set []
    | _ =>
      args.none owner
      Work.new (.set ms frozen)

/-- The names of the methods whose arguments are walked through before the call. -/
def walkingNames : List String :=
  ["extend", "join", "union", "intersection", "difference", "symmetric_difference", "issubset",
    "issuperset", "isdisjoint", "intersection_update", "difference_update",
    "symmetric_difference_update"]

end SessionScript.Evaluator.Method
