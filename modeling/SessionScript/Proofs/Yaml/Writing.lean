import SessionScript.Proofs.Json.Rendering
import SessionScript.Yaml.Writer

/-!
# Values that documents can hold

Writing a value goes through its leaves, and through those of its keys, and fails at the first one
that has no scalar in documents: an object of the host, or an integer with too many digits. Where a
value stands and what was written before it makes no difference.
-/

namespace SessionScript

namespace Value

/-! ## What is written of a value -/

mutual

/-- The leaves of a value in the order in which they are written, those of its keys among them. -/
def parts : Value → List Value
  | .dict es => entryParts es
  | .list xs | .tuple xs | .set xs => itemParts xs
  | leaf => [leaf]

def itemParts : List Value → List Value
  | [] => []
  | v :: vs => parts v ++ itemParts vs

def entryParts : List (Value × Value) → List Value
  | [] => []
  | (k, v) :: es => parts k ++ (parts v ++ entryParts es)

end

/-- Whether a value is an object of the host, of which nothing but a label is known. -/
def isOpaque : Value → Bool
  | .object _ | .error _ _ | .other _ _ => true
  | _ => false

/-- Why a leaf is not written. -/
def leafFault? (leaf : Value) : Option Yaml.WriteError :=
  if leaf.isOpaque then some (.unsupported leaf)
  else if leaf.isShort then none else some .longInteger

theorem mem_itemParts {part : Value} {vs : List Value} :
    part ∈ itemParts vs ↔ ∃ v ∈ vs, part ∈ v.parts := by
  induction vs with
  | nil => simp [itemParts]
  | cons v vs ih => simp [itemParts, ih]

theorem mem_entryParts {part : Value} {es : List (Value × Value)} :
    part ∈ entryParts es ↔ ∃ e ∈ es, part ∈ e.1.parts ∨ part ∈ e.2.parts := by
  induction es with
  | nil => simp [entryParts]
  | cons e es ih => simp [entryParts, ih, or_assoc]

end Value

/-! ## Writing -/

namespace Yaml

open Value

/-- The error that a computation ends with, if it fails. -/
def errorOf? {ε α : Type} : Except ε α → Option ε
  | .ok _ => none
  | .error e => some e

theorem errorOf?_eq_none {ε α : Type} {x : Except ε α} : errorOf? x = none ↔ ∃ a, x = .ok a := by
  cases x <;> simp [errorOf?]

theorem errorOf?_eq_some {ε α : Type} {x : Except ε α} {e : ε} :
    errorOf? x = some e ↔ x = .error e := by
  cases x <;> simp [errorOf?]

/-- The first part of a computation that fails gives the error, if the second one's does not depend
    on what the first one gives. -/
theorem errorOf?_bind {ε α β : Type} {x : Except ε α} {next : α → Except ε β} (later : Option ε)
    (same : ∀ a, errorOf? (next a) = later) : errorOf? (x >>= next) = (errorOf? x).or later := by
  cases x with
  | error e => rfl
  | ok a => exact same a

theorem errorOf?_ofValue {leaf : Value} (isLeaf : leaf.isContainer = false) :
    errorOf? (ScalarText.ofValue leaf) = leaf.leafFault? := by
  cases leaf with
  | int i =>
    cases long : Text.Numeral.isLong i <;>
      simp [ScalarText.ofValue, ScalarText.ofValue?, leafFault?, isOpaque, isShort, errorOf?, long]
  | list _ | tuple _ | set _ | dict _ => cases isLeaf
  | _ => rfl

/-- A leaf is written as its scalar, if it has one. -/
theorem writeNode_leaf {leaf : Value} (isLeaf : leaf.isContainer = false) (depth : Option Nat)
    (place : NodePlace) (c : Canvas) :
    writeNode depth place leaf c =
      ScalarText.ofValue leaf >>= fun s => pure (writeScalar depth place s c) := by
  cases leaf with
  | list _ | tuple _ | set _ | dict _ => cases isLeaf
  | _ => rw [writeNode] <;> simp

theorem writeLeaf_fault {leaf : Value} (isLeaf : leaf.isContainer = false) (depth : Option Nat)
    (place : NodePlace) (c : Canvas) :
    errorOf? (writeNode depth place leaf c) = leaf.parts.findSome? leafFault? := by
  have single : leaf.parts = [leaf] := by
    cases leaf with
    | list _ | tuple _ | set _ | dict _ => cases isLeaf
    | _ => rfl
  rw [writeNode_leaf isLeaf, errorOf?_bind none fun _ => rfl, errorOf?_ofValue isLeaf, single,
    Option.or_none, List.findSome?_singleton]

mutual

/-- Writing a value fails at the first of its leaves, those of keys included, that is not
    written. -/
theorem writeNode_fault (depth : Option Nat) (place : NodePlace) :
    ∀ (v : Value) (c : Canvas),
      errorOf? (writeNode depth place v c) = v.parts.findSome? leafFault?
  | .list [], _ | .tuple [], _ | .dict [], _ | .set [], _ => by
    rw [writeNode]
    rfl
  | .list (x :: xs), c | .tuple (x :: xs), c => by
    rw [writeNode]
    exact writeItems_fault _ (x :: xs) c
  | .dict (e :: es), c => by
    rw [writeNode]
    exact writeEntries_fault _ (e :: es) c
  | .set (x :: xs), c => by
    rw [writeNode]
    exact writeMembers_fault _ (x :: xs) _
  | .null, c | .bool _, c | .int _, c | .float _, c | .text _, c | .bytes _, c | .date _, c
  | .datetime _, c | .object _, c | .error _ _, c | .other _ _, c =>
    writeLeaf_fault rfl depth place c

theorem writeItems_fault (depth : Nat) :
    ∀ (vs : List Value) (c : Canvas),
      errorOf? (writeItems depth vs c) = (itemParts vs).findSome? leafFault?
  | [], c => by
    rw [writeItems]
    rfl
  | v :: vs, c => by
    rw [writeItems, errorOf?_bind _ (writeItems_fault depth vs), writeNode_fault, itemParts,
      List.findSome?_append]

theorem writeEntries_fault (depth : Nat) :
    ∀ (es : List (Value × Value)) (c : Canvas),
      errorOf? (writeEntries depth es c) = (entryParts es).findSome? leafFault?
  | [], c => by
    rw [writeEntries]
    rfl
  | (k, v) :: es, c => by
    have others (c : Canvas) :
        errorOf? (writeNode (some depth) .entry v (closeKey depth k c) >>= writeEntries depth es) =
          (parts v ++ entryParts es).findSome? leafFault? := by
      rw [errorOf?_bind _ (writeEntries_fault depth es), writeNode_fault, List.findSome?_append]
    rw [writeEntries, errorOf?_bind _ others, writeNode_fault, entryParts, ← List.findSome?_append]

theorem writeMembers_fault (depth : Nat) :
    ∀ (vs : List Value) (c : Canvas),
      errorOf? (writeMembers depth vs c) = (itemParts vs).findSome? leafFault?
  | [], c => by
    rw [writeMembers]
    rfl
  | v :: vs, c => by
    rw [writeMembers, errorOf?_bind _ fun c => writeMembers_fault depth vs _, writeNode_fault,
      itemParts, List.findSome?_append]

end

/-- A value is written, or the first of its leaves that can not be gives the error. -/
theorem write_fault (v : Value) : errorOf? (write v) = v.parts.findSome? leafFault? := by
  rw [write, errorOf?_bind none fun _ => rfl, writeNode_fault, Option.or_none]

end Yaml

end SessionScript
