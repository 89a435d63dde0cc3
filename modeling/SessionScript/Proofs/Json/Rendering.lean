import SessionScript.Proofs.Json.Validity

/-!
# Values that templates can show

Which values have a text inside a template. Leaves always have one, and those in a container that
JSON has no form for are replaced by theirs. But nothing is put in the place of a set or of a
mapping key that JSON can not hold, and integers with too many digits are not written.
-/

namespace SessionScript

namespace Value

/-! ## What keeps a value from being shown -/

/-- Whether JSON can hold a value as a key: a text, a number, a truth value or null. -/
def isJsonKey : Value → Bool
  | .text _ | .int _ | .float _ | .bool _ | .null => true
  | _ => false

/-- Whether a value is no integer with more digits than are written. -/
def isShort : Value → Bool
  | .int i => !Text.Numeral.isLong i
  | _ => true

/-- Neither the value is a set nor is there one in it, and JSON can hold all its keys. -/
structure HasJsonForm (v : Value) : Prop where
  sets : v.isSetFree
  keys : ∀ k ∈ v.keys, k.isJsonKey

/-- No integer in a value, be it a leaf or a key, has more digits than are written. -/
structure IsWritable (v : Value) : Prop where
  leaves : ∀ leaf ∈ v.leaves, leaf.isShort
  keys : ∀ k ∈ v.keys, k.isShort

theorem IsWritable.items {v : Value} {xs : List Value} (writable : v.IsWritable)
    (leaves : v.leaves = itemLeaves xs) (keys : v.keys = itemKeys xs) :
    ∀ x ∈ xs, x.IsWritable := by
  obtain ⟨short, shortKeys⟩ := writable
  rw [leaves, forall_itemLeaves] at short
  rw [keys, forall_itemKeys] at shortKeys
  exact fun x among => ⟨short x among, shortKeys x among⟩

/-- Whether a value can be shown in a template. -/
def IsShowable (v : Value) : Prop := v.HasJsonForm ∧ v.IsWritable

theorem isShowable_iff {v : Value} :
    v.IsShowable ↔ v.isSetFree ∧ (∀ k ∈ v.keys, k.isJsonKey ∧ k.isShort) ∧
      ∀ leaf ∈ v.leaves, leaf.isShort := by
  constructor
  · rintro ⟨form, writable⟩
    exact ⟨form.sets, fun k among => ⟨form.keys k among, writable.keys k among⟩, writable.leaves⟩
  · rintro ⟨sets, keys, leaves⟩
    exact ⟨⟨sets, fun k among => (keys k among).1⟩, ⟨leaves, fun k among => (keys k among).2⟩⟩

theorem isShowable_leaf {v : Value} (leaf : v.isContainer = false) :
    v.IsShowable ↔ v.isShort := by
  rw [isShowable_iff]
  cases v <;> simp_all [isContainer, isSetFree, keys, leaves]

/-- Items can be shown one by one. -/
theorem isShowable_items {v : Value} {xs : List Value}
    (sets : v.isSetFree ↔ areItemsSetFree xs) (keys : v.keys = itemKeys xs)
    (leaves : v.leaves = itemLeaves xs) : v.IsShowable ↔ ∀ x ∈ xs, x.IsShowable := by
  simp only [isShowable_iff]
  rw [sets, keys, leaves, areItemsSetFree_iff, forall_itemKeys, forall_itemLeaves, forall₂_and,
    forall₂_and]

theorem isShowable_list (xs : List Value) :
    (Value.list xs).IsShowable ↔ ∀ x ∈ xs, x.IsShowable :=
  isShowable_items (by rw [isSetFree]) (by rw [keys]) (by rw [leaves])

theorem isShowable_tuple (xs : List Value) :
    (Value.tuple xs).IsShowable ↔ ∀ x ∈ xs, x.IsShowable :=
  isShowable_items (by rw [isSetFree]) (by rw [keys]) (by rw [leaves])

theorem isShowable_dict (es : List (Value × Value)) :
    (Value.dict es).IsShowable ↔
      ∀ e ∈ es, (e.1.isJsonKey ∧ e.1.isShort) ∧ e.2.IsShowable := by
  simp only [isShowable_iff]
  rw [isSetFree, Value.keys, Value.leaves, areEntriesSetFree_iff, forall_entryKeys,
    forall_entryLeaves]
  exact ⟨fun ⟨sets, keys, leaves⟩ e among =>
      ⟨(keys e among).1, sets e among, (keys e among).2, leaves e among⟩,
    fun all => ⟨fun e among => (all e among).2.1,
      fun e among => ⟨(all e among).1, (all e among).2.2.1⟩,
      fun e among => (all e among).2.2.2⟩⟩

end Value

/-! ## Texts of values -/

namespace Json

open Value

theorem integerText_isOk_iff (i : Int) :
    (∃ s, integerText i = .ok s) ↔ (Value.int i).isShort := by
  cases long : Text.Numeral.isLong i <;> simp [integerText, isShort, long]

/-- JSON can hold a key if there is a text for it. -/
theorem keyText_isOk_iff (k : Value) : (∃ s, keyText k = .ok s) ↔ k.isJsonKey ∧ k.isShort := by
  cases k with
  | int i => simpa [keyText, isJsonKey] using integerText_isOk_iff i
  | _ => simp [keyText, isJsonKey, isShort]

/-- There is a text for a leaf that JSON can hold, and for the text of any other. -/
theorem hasText_jsonLeaf {v : Value} (leaf : v.isContainer = false) :
    HasText v.jsonLeaf ↔ v.isShort := by
  cases v with
  | int i => simpa [HasText, jsonLeaf, write] using integerText_isOk_iff i
  | list _ | tuple _ | set _ | dict _ => cases leaf
  | _ => simp [HasText, jsonLeaf, write, isShort]

/-- A value of which every leaf is put into a form that JSON has is written if it can be shown. -/
theorem hasText_mapLeaves_iff (v : Value) :
    HasText (mapLeaves jsonLeaf v) ↔ v.IsShowable := by
  induction v using Value.inductOn with
  | leaf v leaf => rw [mapLeaves_leaf _ leaf, hasText_jsonLeaf leaf, isShowable_leaf leaf]
  | list xs ih =>
    rw [mapLeaves_list, hasText_list, writeItems_iff, List.forall_mem_map, isShowable_list]
    exact forall₂_congr ih
  | tuple xs ih =>
    rw [mapLeaves_tuple, hasText_tuple, writeItems_iff, List.forall_mem_map, isShowable_tuple]
    exact forall₂_congr ih
  | set xs ih =>
    rw [mapLeaves_set, isShowable_iff]
    simp [HasText, write, isSetFree]
  | dict es ih =>
    rw [mapLeaves_dict, hasText_dict, writeEntries_iff, List.forall_mem_map, isShowable_dict]
    refine forall₂_congr fun e among => ?_
    rw [keyText_isOk_iff, ih e among]

/-! ## Why a text is missing -/

theorem integerText_error {i : Int} {e : WriteError} (failed : integerText i = .error e) :
    (Value.int i).isShort = false := by
  cases short : (Value.int i).isShort with
  | false => rfl
  | true =>
    obtain ⟨s, written⟩ := (integerText_isOk_iff i).mpr short
    rw [written] at failed
    cases failed

theorem keyText_longInteger {k : Value} (failed : keyText k = .error .longInteger) :
    k.isShort = false := by
  cases k with
  | int i => exact integerText_error failed
  | _ => cases failed

/-- Items are not written because of one of them. -/
theorem writeItems_error {e : WriteError} :
    ∀ {vs : List Value}, writeItems vs = .error e → ∃ v ∈ vs, write v = .error e
  | [], failed => by cases failed
  | v :: vs, failed => by
    rw [writeItems] at failed
    rcases bind_error failed with failed | ⟨s, -, failed⟩
    · exact ⟨v, List.mem_cons_self, failed⟩
    · rcases bind_error failed with failed | ⟨rest, -, done⟩
      · obtain ⟨w, among, failed⟩ := writeItems_error failed
        exact ⟨w, List.mem_cons_of_mem _ among, failed⟩
      · cases done

theorem mappedItems_error {f : Value → Value} {e : WriteError} {vs : List Value}
    (failed : writeItems (vs.map f) = .error e) : ∃ v ∈ vs, write (f v) = .error e := by
  obtain ⟨w, known, failed⟩ := writeItems_error failed
  obtain ⟨v, among, rfl⟩ := List.mem_map.mp known
  exact ⟨v, among, failed⟩

/-- Entries are not written because of the key or the value of one of them. -/
theorem writeEntries_error {e : WriteError} :
    ∀ {es : List (Value × Value)}, writeEntries es = .error e →
      ∃ d ∈ es, keyText d.1 = .error e ∨ write d.2 = .error e
  | [], failed => by cases failed
  | (k, v) :: es, failed => by
    rw [writeEntries] at failed
    rcases bind_error failed with failed | ⟨_, -, failed⟩
    · exact ⟨_, List.mem_cons_self, .inl failed⟩
    · rcases bind_error failed with failed | ⟨_, -, failed⟩
      · exact ⟨_, List.mem_cons_self, .inr failed⟩
      · rcases bind_error failed with failed | ⟨rest, -, done⟩
        · obtain ⟨d, among, failed⟩ := writeEntries_error failed
          exact ⟨d, List.mem_cons_of_mem _ among, failed⟩
        · cases done

/-- A container is not written because of what it is made from. -/
theorem parts_error {α : Type} {e : WriteError} {parts : Except WriteError α} {make : α → String}
    (failed : (parts >>= fun a => pure (make a)) = .error e) : parts = .error e := by
  rcases bind_error failed with failed | ⟨_, -, done⟩
  · exact failed
  · cases done

/-- An integer that is too long is in a value that is not written because of it. -/
theorem write_longInteger (v : Value) :
    write (mapLeaves jsonLeaf v) = .error .longInteger → ¬ v.IsWritable := by
  induction v using Value.inductOn with
  | leaf v leaf =>
    rintro failed ⟨short, -⟩
    rw [mapLeaves_leaf _ leaf] at failed
    cases v with
    | int i =>
      have long := integerText_error (i := i) failed
      have := short (.int i) (by simp [leaves])
      simp [long] at this
    | list _ | tuple _ | set _ | dict _ => cases leaf
    | _ => simp [jsonLeaf, write] at failed
  | list xs ih =>
    intro failed writable
    rw [mapLeaves_list, write] at failed
    obtain ⟨x, among, failed⟩ := mappedItems_error (parts_error failed)
    exact ih x among failed (writable.items (by rw [leaves]) (by rw [keys]) x among)
  | tuple xs ih =>
    intro failed writable
    rw [mapLeaves_tuple, write] at failed
    obtain ⟨x, among, failed⟩ := mappedItems_error (parts_error failed)
    exact ih x among failed (writable.items (by rw [leaves]) (by rw [keys]) x among)
  | set xs ih =>
    intro failed
    rw [mapLeaves_set] at failed
    simp [write] at failed
  | dict es ih =>
    rintro failed ⟨short, shortKeys⟩
    rw [mapLeaves_dict, write] at failed
    obtain ⟨d, known, failed⟩ := writeEntries_error (parts_error failed)
    obtain ⟨e, among, rfl⟩ := List.mem_map.mp known
    rw [leaves, forall_entryLeaves] at short
    rw [keys, forall_entryKeys] at shortKeys
    obtain ⟨key, shortKeys⟩ := shortKeys e among
    rcases failed with failed | failed
    · rw [keyText_longInteger failed] at key
      cases key
    · exact ih e among failed ⟨short e among, shortKeys⟩

end Json

/-! ## Texts inside templates -/

namespace Value

/-- The text of a container inside a template is its JSON text. -/
theorem stringify_container {v : Value} (container : v.isContainer) :
    v.stringify = Json.write (mapLeaves jsonLeaf v) := by
  cases v with
  | list _ | tuple _ | set _ | dict _ => rw [stringify]
  | _ => cases container

/-- A value has a text inside a template if it can be shown, and only then. -/
theorem stringify_isOk_iff (v : Value) : (∃ s, v.stringify = .ok s) ↔ v.IsShowable := by
  cases container : v.isContainer with
  | true =>
    rw [stringify_container container]
    exact Json.hasText_mapLeaves_iff v
  | false =>
    rw [isShowable_leaf container]
    cases v with
    | int i => exact Json.integerText_isOk_iff i
    | list _ | tuple _ | set _ | dict _ => cases container
    | _ => simp [stringify, isShort]

/-- A value with no integer that is too long has no text because of its form. -/
theorem stringify_error {v : Value} {e : Json.WriteError} (failed : v.stringify = .error e)
    (writable : v.IsWritable) : ¬ v.HasJsonForm ∧ e.kind = "TypeError" := by
  constructor
  · intro form
    obtain ⟨s, shown⟩ := (stringify_isOk_iff v).mpr ⟨form, writable⟩
    rw [shown] at failed
    cases failed
  · cases e with
    | unsupported _ | unsupportedKey _ => rfl
    | longInteger =>
      cases container : v.isContainer with
      | true =>
        rw [stringify_container container] at failed
        exact absurd writable (Json.write_longInteger v failed)
      | false =>
        cases v with
        | int i =>
          have long := Json.integerText_error failed
          have := writable.leaves (.int i) (by simp [leaves])
          simp [long] at this
        | list _ | tuple _ | set _ | dict _ => cases container
        | _ => cases failed

end Value

end SessionScript
