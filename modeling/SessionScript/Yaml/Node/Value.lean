import SessionScript.Yaml.Node
import SessionScript.Yaml.Node.Scalar

/-!
# Values of nodes

A tag decides what a node denotes. Where a document has several faults, the one that counts is in
the outermost collection, and of those the first: the parts of a collection are looked at before
the parts of its parts.
-/

namespace SessionScript.Yaml.Node

/-- What a tag of the host makes of the text of a scalar and its marks. -/
abbrev HostTag := String → Mark → Mark → Except TagError Value

/-- A result, or an error with its depth in the document. -/
abbrev Building := Except (Nat × ReadError)

/-- Two results, or the error that counts. -/
def both {α β : Type} : Building α → Building β → Building (α × β)
  | .ok a, .ok b => .ok (a, b)
  | .error e, .ok _ => .error e
  | .ok _, .error f => .error f
  | .error e, .error f => .error (if f.1 < e.1 then f else e)

/-- All results, or the error that counts. -/
def all {α : Type} : List (Building α) → Building (List α)
  | [] => .ok []
  | b :: bs => (both b (all bs)).map fun r => r.1 :: r.2

/-- A result or a fault at a depth. -/
def atDepth {α : Type} (depth : Nat) (x : Except Fault α) : Building α :=
  x.mapError fun f => (depth, .text f)

mutual

/-- The greatest number of collections around a scalar of a node. -/
def height : Node → Nat
  | .scalar _ _ _ _ | .enclosing _ _ _ => 1
  | .sequence _ items _ _ => heightOfItems items + 1
  | .mapping _ entries _ _ => heightOfEntries entries + 1

/-- The height of the highest item. -/
def heightOfItems : List Node → Nat
  | [] => 0
  | v :: vs => max (height v) (heightOfItems vs)

/-- The height of the highest key or value. -/
def heightOfEntries : List (Node × Node) → Nat
  | [] => 0
  | (k, v) :: es => max (max (height k) (height v)) (heightOfEntries es)

end

/-- The fault of a node of the wrong shape. -/
def wrongShape (expected : String) (node : Node) : Fault :=
  Scalar.constructionFault ("expected a " ++ expected ++ " node, but found " ++ node.shape)
    node.start

/-- A fault of a part of a collection. -/
def partFault (doing : String) (start : Mark) (problem : String) (place : Mark) : Fault :=
  .marked .constructing
    { context := some ("while constructing " ++ doing)
      contextMark := some start
      problem := some problem
      problemMark := some place }

/-- The tags whose values are collections, which are no keys. -/
def collectionTags : List String := ["seq", "map", "set", "omap", "pairs"].map coreTag

/-- The text of a scalar, or of the value under the key `=` of a mapping. -/
def scalarText : Nat → Node → Except Fault (List Char)
  | _, .scalar _ text _ _ => .ok text
  | n + 1, .mapping tag entries start stop =>
    match entries.find? fun e => e.1.tag == coreTag "value" with
    | some (_, v) => scalarText n v
    | none => .error (wrongShape "scalar" (.mapping tag entries start stop))
  | _, node => .error (wrongShape "scalar" node)

/-- A key as it stands in a mapping: the key `=` is a text. -/
def asKey : Node → Node
  | .scalar tag text start stop =>
    .scalar (if tag == coreTag "value" then coreTag "str" else tag) text start stop
  | node => node

/-- The entries of a mapping that starts at a mark. Those of the mappings under the key `<<` come
    first, of several the last one's. A mapping that is merged into itself adds nothing. The first
    argument exceeds the height of the entries. -/
def mergedEntries : Nat → Mark → List (Node × Node) → Except Fault (List (Node × Node))
  | 0, _, entries => .ok entries
  | n + 1, start, entries => do
    let (merges, own) := entries.partition fun e => e.1.tag == coreTag "merge"
    let merged ← merges.mapM fun (_, source) => do
      match source with
      | .mapping _ es s _ => mergedEntries n s es
      | .enclosing _ true _ => return []
      | .sequence _ items _ _ =>
        let groups ← items.mapM fun item => do
          match item with
          | .mapping _ es s _ => mergedEntries n s es
          | .enclosing _ true _ => return []
          | other =>
            throw
              (partFault "a mapping" start
                ("expected a mapping for merging, but found " ++ other.shape) other.start)
        return groups.reverse.flatten
      | other =>
        throw
          (partFault "a mapping" start
            ("expected a mapping or list of mappings for merging, but found " ++ other.shape)
            other.start)
    return merged.flatten ++ own.map fun e => (asKey e.1, e.2)

/-- The only entry of an item of an ordered mapping. -/
def onlyEntry (doing : String) (start : Mark) (item : Node) : Except Fault (Node × Node) :=
  match item with
  | .mapping _ [e] _ _ => .ok e
  | .mapping _ es s _ =>
    .error
      (partFault doing start
        ("expected a single mapping item, but found " ++ Text.ofNat es.length ++ " items") s)
  | other =>
    .error
      (partFault doing start ("expected a mapping of length 1, but found " ++ other.shape)
        other.start)

/-- The value of a scalar under a tag that is not the tag of a collection. -/
def scalarValue (n : Nat) (node : Node) : Except Fault Value :=
  let tag := node.tag
  let text := scalarText n node
  if tag == coreTag "null" then text.map fun _ => .null
  else if tag == coreTag "bool" then text.bind Scalar.readBool
  else if tag == coreTag "int" then text.bind Scalar.readInt
  else if tag == coreTag "float" then text.bind Scalar.readFloat
  else if tag == coreTag "binary" then text.bind (Scalar.readBytes · node.start)
  else if tag == coreTag "timestamp" then
    -- What is held against the pattern of timestamps is the content of the node itself.
    match node with
    | .mapping _ _ _ _ => text.bind fun _ => .error (.value .type)
    | _ => text.bind Scalar.readTimestamp
  else if tag == coreTag "str" then text.map fun cs => .text (String.ofList cs)
  else
    .error
      (Scalar.constructionFault
        ("could not determine a constructor for the tag " ++ Text.quoted tag) node.start)

/-- The value that a tag of the host makes of a scalar. -/
def hostValue (make : HostTag) (n : Nat) (node : Node) : Except ReadError Value := do
  let text ← (scalarText n node).mapError .text
  (make (String.ofList text) node.start node.stop).mapError .tag

/-- The value of a node at a depth. The first argument exceeds the height of the node. -/
def value (host : List (String × HostTag)) : Nat → Nat → Node → Building Value
  | _, _, .enclosing _ isMapping _ =>
    .ok (if isMapping then .other "dict" "\x7b...\x7d" else .other "list" "[...]")
  | 0, _, _ => .ok .null
  | n + 1, depth, node =>
    let inner := depth + 1
    let pair := fun (e : Node × Node) => both (value host n inner e.1) (value host n inner e.2)
    let entry := fun (e : Node × Node) =>
      let key :=
        if collectionTags.contains e.1.tag then
          atDepth inner (.error (partFault "a mapping" node.start "found unhashable key" e.1.start))
        else value host n inner e.1
      both key (value host n inner e.2)
    let entries : Building Entries :=
      match node with
      | .mapping _ es start _ => do
        let es ← atDepth inner (mergedEntries n start es)
        return Entries.ofPairs (← all (es.map entry))
      | other => atDepth inner (.error (wrongShape "mapping" other))
    let ordered := fun (doing : String) =>
      match node with
      | .sequence _ items start _ => do
        let pairs ← all (items.map fun item => do
          pair (← atDepth inner (onlyEntry doing start item)))
        return Value.list (pairs.map fun p => .tuple [p.1, p.2])
      | other =>
        atDepth inner
          (.error
            (partFault doing other.start ("expected a sequence, but found " ++ other.shape)
              other.start))
    match host.lookup node.tag with
    | some make => (hostValue make n node).mapError fun e => (depth, e)
    | none =>
      if node.tag == coreTag "seq" then
        match node with
        | .sequence _ items _ _ => (all (items.map (value host n inner))).map .list
        | other => atDepth inner (.error (wrongShape "sequence" other))
      else if node.tag == coreTag "map" then entries.map .dict
      else if node.tag == coreTag "set" then
        entries.map fun es => .set (Value.distinct (es.map (·.1)))
      else if node.tag == coreTag "omap" then ordered "an ordered map"
      else if node.tag == coreTag "pairs" then ordered "pairs"
      else atDepth depth (scalarValue n node)

/-- The value of a root node. -/
def rootValue (host : List (String × HostTag)) (node : Node) : Except ReadError Value :=
  (value host (node.height + 1) 0 node).mapError (·.2)

end SessionScript.Yaml.Node
