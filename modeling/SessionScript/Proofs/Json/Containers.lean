import SessionScript.Proofs.Json.Rendering
import SessionScript.Proofs.Json.RoundTrip

/-!
# Containers in templates

The text of a container inside a template is JSON. It is missing exactly if there is a set or a key
that JSON can not hold, and what it is read as is the container with arrays for lists and tuples and
with the text of every leaf that JSON has no form for.
-/

namespace SessionScript

namespace Json

open Value

/-! ## The tree of a container -/

mutual

/-- The tree that the text of a value shows: every leaf that is no constant, integer or text is
    there with its own text. Sets have no tree, and neither have keys that are no texts. -/
def shownTree? : Value → Option Tree
  | .null => some .null
  | .bool b => some (.bool b)
  | .int i => some (.int i)
  | .text s => some (.text s)
  | .list xs | .tuple xs => (shownTrees? xs).map .array
  | .dict es => (shownMembers? es).map .object
  | .set _ => none
  | leaf => leaf.stringify.toOption.map .text

/-- The trees of items. -/
def shownTrees? : List Value → Option (List Tree)
  | [] => some []
  | v :: vs => do return (← shownTree? v) :: (← shownTrees? vs)

/-- The members of entries. -/
def shownMembers? : List (Value × Value) → Option (List (String × Tree))
  | [] => some []
  | (.text k, v) :: es => do return (k, ← shownTree? v) :: (← shownMembers? es)
  | _ => none

end

/-- What the text of a container shows. -/
structure IsShownWhole (v : Value) : Prop where
  sets : v.isSetFree
  keys : v.HasTextKeys
  leaves : ∀ leaf ∈ v.leaves, ∀ x, leaf ≠ .float x

/-- A value shows a tree, which is also the tree of the value with its leaves in JSON form. -/
def Shows (v : Value) (t : Tree) : Prop :=
  shownTree? v = some t ∧ treeOf? (mapLeaves jsonLeaf v) = some t

theorem shows_leaf {v : Value} (leaf : v.isContainer = false) (fractionless : ∀ x, v ≠ .float x) :
    ∃ t, Shows v t := by
  simp only [Shows, mapLeaves_leaf _ leaf]
  cases v with
  | null => exact ⟨.null, rfl, rfl⟩
  | bool b => exact ⟨.bool b, rfl, rfl⟩
  | int i => exact ⟨.int i, rfl, rfl⟩
  | text s => exact ⟨.text s, rfl, rfl⟩
  | float x => exact absurd rfl (fractionless x)
  | list _ | tuple _ | set _ | dict _ => cases leaf
  | bytes _ | date _ | datetime _ | object _ | error _ _ | other _ _ => exact ⟨_, rfl, rfl⟩

theorem shows_items {xs : List Value} (each : ∀ x ∈ xs, ∃ t, Shows x t) :
    ∃ ts, shownTrees? xs = some ts ∧ treesOf? (xs.map (mapLeaves jsonLeaf)) = some ts := by
  induction xs with
  | nil => exact ⟨[], rfl, rfl⟩
  | cons x xs ih =>
    obtain ⟨⟨t, shown, tree⟩, rest⟩ := List.forall_mem_cons.mp each
    obtain ⟨ts, showns, trees⟩ := ih rest
    refine ⟨t :: ts, ?_, ?_⟩
    · simp [shownTrees?, shown, showns]
    · simp [treesOf?, tree, trees]

theorem shows_entries {es : List (Value × Value)} (keyed : ∀ e ∈ es, ∃ s, e.1 = .text s)
    (each : ∀ e ∈ es, ∃ t, Shows e.2 t) :
    ∃ ms, shownMembers? es = some ms ∧
      membersOf? (es.map fun e => (e.1, e.2.mapLeaves jsonLeaf)) = some ms := by
  induction es with
  | nil => exact ⟨[], rfl, rfl⟩
  | cons e es ih =>
    obtain ⟨k, v⟩ := e
    obtain ⟨⟨s, key⟩, keyed⟩ := List.forall_mem_cons.mp keyed
    obtain ⟨⟨t, shown, tree⟩, each⟩ := List.forall_mem_cons.mp each
    obtain ⟨ms, showns, trees⟩ := ih keyed each
    obtain rfl : k = .text s := key
    refine ⟨(s, t) :: ms, ?_, ?_⟩
    · simp [shownMembers?, shown, showns]
    · simp [membersOf?, tree, trees]

theorem IsShownWhole.items {v : Value} {xs : List Value} (whole : IsShownWhole v)
    (sets : v.isSetFree ↔ areItemsSetFree xs) (keys : v.keys = itemKeys xs)
    (leaves : v.leaves = itemLeaves xs) : ∀ x ∈ xs, IsShownWhole x := by
  have free := areItemsSetFree_iff.mp (sets.mp whole.sets)
  have keyed := whole.keys
  have fractionless := whole.leaves
  rw [HasTextKeys, keys, forall_itemKeys] at keyed
  rw [leaves, forall_itemLeaves] at fractionless
  exact fun x among => ⟨free x among, keyed x among, fractionless x among⟩

/-- A value without sets and fractions, all keys of which are texts, shows a tree. -/
theorem exists_shows (v : Value) : IsShownWhole v → ∃ t, Shows v t := by
  induction v using Value.inductOn with
  | leaf v leaf =>
    intro whole
    have itself : v ∈ v.leaves := by
      cases v with
      | list _ | tuple _ | set _ | dict _ => cases leaf
      | _ => simp [leaves]
    exact shows_leaf leaf (whole.leaves v itself)
  | list xs ih =>
    intro whole
    have each := whole.items (by rw [isSetFree]) (by rw [keys]) (by rw [leaves])
    obtain ⟨ts, shown, trees⟩ := shows_items fun x among => ih x among (each x among)
    refine ⟨.array ts, ?_, ?_⟩
    · rw [shownTree?, shown]
      rfl
    · rw [mapLeaves_list, treeOf?, trees]
      rfl
  | tuple xs ih =>
    intro whole
    have each := whole.items (by rw [isSetFree]) (by rw [keys]) (by rw [leaves])
    obtain ⟨ts, shown, trees⟩ := shows_items fun x among => ih x among (each x among)
    refine ⟨.array ts, ?_, ?_⟩
    · rw [shownTree?, shown]
      rfl
    · rw [mapLeaves_tuple, treeOf?, trees]
      rfl
  | set xs ih =>
    intro whole
    cases whole.sets
  | dict es ih =>
    intro whole
    obtain ⟨sets, keyed, fractionless⟩ := whole
    rw [isSetFree, areEntriesSetFree_iff] at sets
    rw [HasTextKeys, keys, forall_entryKeys] at keyed
    rw [leaves, forall_entryLeaves] at fractionless
    obtain ⟨ms, shown, members⟩ := shows_entries (fun e among => (keyed e among).1)
      fun e among => ih e among ⟨sets e among, (keyed e among).2, fractionless e among⟩
    refine ⟨.object ms, ?_, ?_⟩
    · rw [shownTree?, shown]
      rfl
    · rw [mapLeaves_dict, treeOf?, members]
      rfl

end Json

namespace Value

open Json

/-! ## Texts of containers -/

theorem not_hasJsonForm_iff {v : Value} :
    ¬ v.HasJsonForm ↔ ¬ v.isSetFree ∨ ∃ k ∈ v.keys, ¬ k.isJsonKey := by
  constructor
  · intro formless
    by_contra none
    push Not at none
    exact formless ⟨none.1, none.2⟩
  · rintro (sets | ⟨k, among, other⟩) form
    · exact sets form.sets
    · exact other (form.keys k among)

/-- A container without integers that are too long has no text inside a template, and a `TypeError`
    is raised, exactly if it is a set or holds one, or if it holds a key other than a text, a
    number, a truth value or null. If it has a text, and its keys are texts and none of its leaves
    is a number with a fraction, the text is read as the tree that the container shows. -/
theorem container_text {v : Value} (container : v.isContainer) :
    (v.IsWritable → ((∃ e, v.stringify = .error e ∧ e.kind = "TypeError") ↔
      ¬ v.isSetFree ∨ ∃ k ∈ v.keys, ¬ k.isJsonKey)) ∧
    ∀ s, v.stringify = .ok s → v.HasTextKeys → (∀ leaf ∈ v.leaves, ∀ x, leaf ≠ .float x) →
      ∃ t, shownTree? v = some t ∧ Json.read s = some t := by
  constructor
  · intro writable
    rw [← not_hasJsonForm_iff]
    constructor
    · rintro ⟨e, failed, -⟩
      exact (stringify_error failed writable).1
    · intro formless
      cases shown : v.stringify with
      | error e => exact ⟨e, rfl, (stringify_error shown writable).2⟩
      | ok s => exact absurd ((stringify_isOk_iff v).mp ⟨s, shown⟩).1 formless
  · intro s shown keyed fractionless
    have form := ((stringify_isOk_iff v).mp ⟨s, shown⟩).1
    obtain ⟨t, tree, same⟩ := exists_shows v ⟨form.sets, keyed, fractionless⟩
    rw [stringify_container container] at shown
    exact ⟨t, tree, (read_write shown).trans (readTree?_of_treeOf? _ same)⟩

/-- The text of a mapping shows a tuple as an array, and bytes and an object by their texts. -/
theorem container_text_of_tuple :
    let v : Value := .dict [(.text "a", .tuple [.text "\"", .bytes [0x78], .object "o", .int 1])]
    v.isContainer ∧ v.IsWritable ∧ v.HasTextKeys ∧ (∀ leaf ∈ v.leaves, ∀ x, leaf ≠ .float x) ∧
      ((∃ e, v.stringify = .error e ∧ e.kind = "TypeError") ↔
        ¬ v.isSetFree ∨ ∃ k ∈ v.keys, ¬ k.isJsonKey) ∧
      ∃ s, v.stringify = .ok s ∧
        Json.read s =
          some (.object [("a", .array [.text "\"", .text "x", .text "<o>", .int 1])]) := by
  intro v
  have writable : v.IsWritable := by
    constructor
    · simp [v, leaves, entryLeaves, itemLeaves, isShort, Text.Numeral.isLong]
      decide
    · simp [v, keys, entryKeys, itemKeys, isShort]
  have keyed : v.HasTextKeys := by simp [v, HasTextKeys, keys, entryKeys, itemKeys]
  have fractionless : ∀ leaf ∈ v.leaves, ∀ x, leaf ≠ .float x := by
    simp [v, leaves, entryLeaves, itemLeaves]
  obtain ⟨s, shown⟩ : ∃ s, v.stringify = .ok s := (stringify_isOk_iff v).mpr
    ⟨⟨rfl, by simp [v, keys, entryKeys, itemKeys, isJsonKey]⟩, writable⟩
  obtain ⟨raises, reads⟩ := container_text (v := v) rfl
  obtain ⟨t, tree, read⟩ := reads s shown keyed fractionless
  refine ⟨rfl, writable, keyed, fractionless, raises writable, s, shown, ?_⟩
  rw [read, ← tree]
  rfl

end Value

end SessionScript
