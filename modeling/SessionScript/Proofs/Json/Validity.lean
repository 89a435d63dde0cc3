import SessionScript.Proofs.Json.RoundTrip
import SessionScript.Proofs.Schema.Payload
import SessionScript.Proofs.Value.Leaves

/-!
# What JSON can hold

Which values that documents may hold have a JSON text, and which of these texts are JSON. Both are
settled by the leaves of a value: bytes and overlong integers have no text, and the text of a number
that is not finite is no JSON.
-/

namespace SessionScript

namespace Json

open Value

/-! ## Values with a text -/

/-- Whether a value has a JSON text. -/
def HasText (v : Value) : Prop := ∃ s, write v = .ok s

/-- Whether JSON has a form for a leaf, be it a valid one or not. -/
def Writes (leaf : Value) : Prop :=
  (∀ b, leaf ≠ .bytes b) ∧ ∀ i, leaf = .int i → ¬ Text.Numeral.isLong i

theorem writeItems_iff {vs : List Value} :
    (∃ texts, writeItems vs = .ok texts) ↔ ∀ v ∈ vs, HasText v := by
  induction vs with
  | nil => simp [writeItems]
  | cons v vs ih =>
    rw [List.forall_mem_cons, ← ih, HasText]
    constructor
    · rintro ⟨texts, written⟩
      obtain ⟨s, first, written⟩ := bind_ok written
      obtain ⟨rest, others, -⟩ := bind_ok written
      exact ⟨⟨s, first⟩, rest, others⟩
    · rintro ⟨⟨s, first⟩, rest, others⟩
      exact ⟨s :: rest, by rw [writeItems, first, others]; rfl⟩

/-- Entries have texts if JSON can hold their keys and their values have texts. -/
theorem writeEntries_iff {es : List (Value × Value)} :
    (∃ texts, writeEntries es = .ok texts) ↔
      ∀ e ∈ es, (∃ k, keyText e.1 = .ok k) ∧ HasText e.2 := by
  induction es with
  | nil => simp [writeEntries]
  | cons e es ih =>
    obtain ⟨key, v⟩ := e
    rw [List.forall_mem_cons, ← ih, HasText]
    constructor
    · rintro ⟨texts, written⟩
      obtain ⟨k, known, written⟩ := bind_ok written
      obtain ⟨s, first, written⟩ := bind_ok written
      obtain ⟨rest, others, -⟩ := bind_ok written
      exact ⟨⟨⟨k, known⟩, s, first⟩, rest, others⟩
    · rintro ⟨⟨⟨k, known⟩, s, first⟩, rest, others⟩
      exact ⟨_ :: rest, by rw [writeEntries, known, first, others]; rfl⟩

/-- A container has a text if what it is made from has. -/
theorem hasText_of_bind {α : Type} {v : Value} {parts : Except WriteError α} {make : α → String}
    (same : write v = parts >>= fun a => pure (make a)) : HasText v ↔ ∃ a, parts = .ok a := by
  rw [HasText, same]
  constructor
  · rintro ⟨s, written⟩
    obtain ⟨a, known, -⟩ := bind_ok written
    exact ⟨a, known⟩
  · rintro ⟨a, rfl⟩
    exact ⟨make a, rfl⟩

theorem hasText_list (xs : List Value) :
    HasText (.list xs) ↔ ∃ texts, writeItems xs = .ok texts :=
  hasText_of_bind (by rw [write])

theorem hasText_tuple (xs : List Value) :
    HasText (.tuple xs) ↔ ∃ texts, writeItems xs = .ok texts :=
  hasText_of_bind (by rw [write])

theorem hasText_dict (es : List (Value × Value)) :
    HasText (.dict es) ↔ ∃ texts, writeEntries es = .ok texts :=
  hasText_of_bind (by rw [write])

/-- A value of a document has a text if each of its leaves has one. -/
theorem hasText_iff {v : Value} (admitted : v.Admitted) :
    HasText v ↔ ∀ leaf ∈ v.leaves, Writes leaf := by
  induction admitted with
  | null | bool b | float x | text s =>
    simp [HasText, write, leaves, Writes]
  | bytes b => simp [HasText, write, leaves, Writes]
  | int i =>
    cases long : Text.Numeral.isLong i <;>
      simp [HasText, write, integerText, leaves, Writes, long]
  | @list xs _ ih =>
    rw [hasText_list, writeItems_iff, leaves, forall_itemLeaves]
    exact forall₂_congr ih
  | @tuple xs _ ih =>
    rw [hasText_tuple, writeItems_iff, leaves, forall_itemLeaves]
    exact forall₂_congr ih
  | @dict es keys _ ih =>
    rw [hasText_dict, writeEntries_iff, leaves, forall_entryLeaves]
    refine forall₂_congr fun e among => ?_
    obtain ⟨k, text⟩ := keys e among
    rw [← ih e among, text]
    exact and_iff_right ⟨k, rfl⟩

/-! ## Texts that are JSON -/

theorem readTrees?_isSome {vs : List Value} :
    (readTrees? vs).isSome ↔ ∀ v ∈ vs, (readTree? v).isSome := by
  induction vs with
  | nil => simp [readTrees?]
  | cons v vs ih =>
    rw [List.forall_mem_cons, ← ih, readTrees?]
    cases readTree? v <;> cases readTrees? vs <;> simp

theorem readMembers?_isSome {es : List (Value × Value)} (keys : ∀ e ∈ es, ∃ k, e.1 = .text k) :
    (readMembers? es).isSome ↔ ∀ e ∈ es, (readTree? e.2).isSome := by
  induction es with
  | nil => simp [readMembers?]
  | cons e es ih =>
    obtain ⟨key, v⟩ := e
    rw [List.forall_mem_cons] at keys
    obtain ⟨⟨k, rfl⟩, keys⟩ := keys
    rw [List.forall_mem_cons, ← ih keys, readMembers?]
    cases readTree? v <;> cases readMembers? es <;> simp [keyText, Except.toOption]

/-- A value of a document is read back if no leaf is bytes and all its numbers are finite. -/
theorem readTree?_isSome_iff {v : Value} (admitted : v.Admitted) :
    (readTree? v).isSome ↔
      ∀ leaf ∈ v.leaves, (∀ b, leaf ≠ .bytes b) ∧ ∀ x, leaf = .float x → x.isFinite := by
  induction admitted with
  | null | bool b | int i | text s => simp [readTree?, leaves]
  | bytes b => simp [readTree?, leaves]
  | float x => simp [readTree?, leaves, number?_render]
  | @list xs _ ih | @tuple xs _ ih =>
    rw [readTree?, Option.isSome_map, readTrees?_isSome, leaves, forall_itemLeaves]
    exact forall₂_congr ih
  | @dict es keys _ ih =>
    rw [readTree?, Option.isSome_map, readMembers?_isSome keys, leaves, forall_entryLeaves]
    exact forall₂_congr ih

end Json

end SessionScript
