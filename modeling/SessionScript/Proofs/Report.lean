import SessionScript.Proofs.Decimal.Shortest
import SessionScript.Proofs.Yaml.Writing
import SessionScript.Report

/-!
# Texts of reports

The text of a report shows the failing element and the variables of that moment, with every leaf
masked that documents can not hold. Keys are not masked: a report has a text unless a mapping in
what it shows has an object of the host in a key, or an integer has too many digits to be written.
-/

namespace SessionScript

/-! ## Integers that are equal to numbers -/

namespace Binary64

/-- The integer part of a number has no more binary digits than significand and scale allow. -/
theorem natAbs_truncate_lt (x : Binary64) : x.truncate.natAbs < 2 ^ (53 + x.scale.toNat) := by
  have few : x.significand < 2 ^ 53 := x.significand_lt
  have magnitude : (if x.scale < 0 then x.significand / twoTo x.scale.natAbs
      else x.significand * twoTo x.scale.natAbs) < 2 ^ (53 + x.scale.toNat) := by
    by_cases below : x.scale < 0
    · rw [if_pos below, Int.toNat_eq_zero.mpr below.le]
      exact (Nat.div_le_self _ _).trans_lt few
    · have same : x.scale.natAbs = x.scale.toNat := by omega
      rw [if_neg below, same, Nat.pow_add]
      exact Nat.mul_lt_mul_of_pos_right few (twoTo_pos _)
  rw [truncate]
  cases x.negative with
  | true =>
    rw [if_pos rfl, Int.natAbs_neg]
    exact magnitude
  | false => exact magnitude

end Binary64

open Text.Numeral in
/-- An integer that is equal to a number is not too long to be written. -/
theorem isLong_of_toInt? {x : Binary64} {i : Int} (equal : x.toInt? = some i) :
    isLong i = false := by
  rw [Binary64.toInt?] at equal
  split at equal
  · rename_i whole
    cases equal
    rw [Binary64.isIntegral, Bool.and_eq_true] at whole
    have bound : 53 + x.scale.toNat < greatestLength := by
      have most := (Binary64.scale_bounds whole.1).2
      have room : greatestLength = 4300 := rfl
      omega
    have few : x.truncate.natAbs.log2 < greatestLength := by
      rcases Nat.eq_zero_or_pos x.truncate.natAbs with zero | pos
      · rw [zero]
        decide
      · exact ((Nat.log2_lt pos.ne').mpr x.natAbs_truncate_lt).trans bound
    rw [isLong, decide_eq_false (Nat.not_le.mpr few), Bool.false_and]
  · cases equal

namespace Value

/-! ## Members of sets -/

/-- Whether a document can hold a value as it is. -/
def IsDocument (v : Value) : Prop := ∀ part ∈ v.parts, part.leafFault? = none

theorem isDocument_items {vs : List Value} :
    (∀ part ∈ itemParts vs, part.leafFault? = none) ↔ ∀ v ∈ vs, v.IsDocument := by
  induction vs with
  | nil => simp [itemParts]
  | cons v vs ih =>
    rw [itemParts, List.forall_mem_append, List.forall_mem_cons, ih]
    rfl

theorem isDocument_entries {es : List (Value × Value)} :
    (∀ part ∈ entryParts es, part.leafFault? = none) ↔
      ∀ e ∈ es, e.1.IsDocument ∧ e.2.IsDocument := by
  induction es with
  | nil => simp [entryParts]
  | cons e es ih =>
    rw [entryParts, List.forall_mem_append, List.forall_mem_append, List.forall_mem_cons, ih,
      and_assoc]
    rfl

theorem isDocument_leaf {v : Value} (leaf : v.isContainer = false) :
    v.IsDocument ↔ v.isOpaque = false ∧ v.isShort := by
  cases v with
  | list _ | tuple _ | set _ | dict _ => cases leaf
  | _ => simp [IsDocument, parts, leafFault?, isOpaque, isShort]

/-- A document can hold an integer if it can hold a number that is equal to it. -/
theorem isShort_of_integer? {v : Value} {i : Int} (held : v.IsDocument)
    (equal : v.integer? = some i) : (Value.int i).isShort := by
  cases v with
  | bool b =>
    cases equal
    cases b <;> decide
  | int j =>
    cases equal
    exact ((isDocument_leaf rfl).mp held).2
  | float x => simp [isShort, isLong_of_toInt? equal]
  | _ => cases equal

theorem integer?_of_sameKey {v : Value} {i : Int} (same : v.sameKey (.int i)) :
    v.integer? = some i := by
  cases v with
  | bool _ | int _ => simpa [sameKey, integer?] using same
  | float x =>
    rw [integer?]
    cases equal : x.toInt? <;> simp_all [sameKey, integer?]
  | _ => simp [sameKey, integer?] at same

mutual

/-- What is equal to a member that a document can hold, it can hold too. -/
theorem isDocument_of_sameKey : ∀ {v w : Value}, v.sameKey w → v.IsDocument → w.IsDocument
  | _, .int _, same, held =>
    (isDocument_leaf rfl).mpr ⟨rfl, isShort_of_integer? held (integer?_of_sameKey same)⟩
  | .tuple xs, .tuple ys, same, held => by
    rw [sameKey] at same
    exact isDocument_items.mpr (forall_isDocument_of_sameKeys same (isDocument_items.mp held))
  | v, .list _, same, _ | v, .set _, same, _ | v, .dict _, same, _ | v, .object _, same, _
  | v, .error _ _, same, _ | v, .other _ _, same, _ => by
    cases v <;> simp [sameKey, integer?] at same
  | _, .null, _, _ | _, .bool _, _, _ | _, .float _, _, _ | _, .text _, _, _ | _, .bytes _, _, _
  | _, .date _, _, _ | _, .datetime _, _, _ => (isDocument_leaf rfl).mpr ⟨rfl, rfl⟩
  | .null, .tuple _, same, _ | .bool _, .tuple _, same, _ | .int _, .tuple _, same, _
  | .float _, .tuple _, same, _ | .text _, .tuple _, same, _ | .bytes _, .tuple _, same, _
  | .list _, .tuple _, same, _ | .set _, .tuple _, same, _ | .dict _, .tuple _, same, _
  | .date _, .tuple _, same, _ | .datetime _, .tuple _, same, _ | .object _, .tuple _, same, _
  | .error _ _, .tuple _, same, _ | .other _ _, .tuple _, same, _ => by
    simp [sameKey, integer?] at same

theorem forall_isDocument_of_sameKeys :
    ∀ {vs ws : List Value}, sameKeys vs ws → (∀ v ∈ vs, v.IsDocument) → ∀ w ∈ ws, w.IsDocument
  | [], [], _, _ => by simp
  | v :: vs, w :: ws, same, held => by
    rw [sameKeys, Bool.and_eq_true] at same
    obtain ⟨first, others⟩ := List.forall_mem_cons.mp held
    exact List.forall_mem_cons.mpr
      ⟨isDocument_of_sameKey same.1 first, forall_isDocument_of_sameKeys same.2 others⟩
  | [], _ :: _, same, _ | _ :: _, [], same, _ => by simp [sameKeys] at same

end

/-! ## Masking -/

theorem forall_distinct {P : Value → Prop} (stays : ∀ {v w : Value}, v.sameKey w → P v → P w)
    {vs : List Value} : (∀ v ∈ distinct vs, P v) ↔ ∀ v ∈ vs, P v := by
  have step (members : List Value) (v : Value) :
      (∀ w ∈ addMember members v, P w) ↔ (∀ w ∈ members, P w) ∧ P v := by
    rw [addMember]
    split
    · rename_i known
      obtain ⟨m, among, same⟩ := List.any_eq_true.mp known
      exact ⟨fun all => ⟨all, stays same (all m among)⟩, And.left⟩
    · rw [List.forall_mem_append, List.forall_mem_singleton]
  have added : ∀ (vs members : List Value),
      (∀ w ∈ vs.foldl addMember members, P w) ↔ (∀ w ∈ members, P w) ∧ ∀ v ∈ vs, P v := by
    intro vs
    induction vs with
    | nil => simp
    | cons v vs ih =>
      intro members
      rw [List.foldl_cons, ih, step, List.forall_mem_cons, and_assoc]
  simp [distinct, added]

theorem mem_of_mem_distinct {v : Value} {vs : List Value} (among : v ∈ distinct vs) : v ∈ vs := by
  refine List.foldlRecOn (motive := fun members : List Value => ∀ w ∈ members, w ∈ vs) vs _
    (List.forall_mem_nil _) (fun members kept x there w inside => ?_) v among
  rw [addMember] at inside
  split at inside
  · exact kept w inside
  · rcases List.mem_append.mp inside with before | new
    · exact kept w before
    · rwa [List.mem_singleton.mp new]

/-- No key in a value holds an object of the host, and no integer in it, be it a leaf or in a key,
    has more digits than are written. -/
structure HasMaskedForm (v : Value) : Prop where
  keys : ∀ k ∈ v.keys, ∀ part ∈ k.parts, part.isOpaque = false ∧ part.isShort
  leaves : ∀ leaf ∈ v.leaves, leaf.isShort

theorem isDocument_iff {v : Value} :
    v.IsDocument ↔ ∀ part ∈ v.parts, part.isOpaque = false ∧ part.isShort := by
  refine forall₂_congr fun part _ => ?_
  cases known : part.isOpaque <;> cases short : part.isShort <;> simp [leafFault?, known, short]

theorem hasMaskedForm_iff {v : Value} :
    v.HasMaskedForm ↔ (∀ k ∈ v.keys, k.IsDocument) ∧ ∀ leaf ∈ v.leaves, leaf.isShort := by
  simp only [isDocument_iff]
  exact ⟨fun form => ⟨form.keys, form.leaves⟩, fun ⟨keys, leaves⟩ => ⟨keys, leaves⟩⟩

theorem hasMaskedForm_items {v : Value} {vs : List Value} (keys : v.keys = itemKeys vs)
    (leaves : v.leaves = itemLeaves vs) : v.HasMaskedForm ↔ ∀ x ∈ vs, x.HasMaskedForm := by
  simp only [hasMaskedForm_iff]
  rw [keys, leaves, forall_itemKeys, forall_itemLeaves]
  exact forall₂_and.symm

theorem maskLeaf_isDocument {leaf : Value} (isLeaf : leaf.isContainer = false) :
    (Place.maskLeaf leaf).IsDocument ↔ leaf.isShort := by
  cases leaf with
  | list _ | tuple _ | set _ | dict _ => cases isLeaf
  | _ => simp [Place.maskLeaf, IsDocument, parts, leafFault?, isOpaque, isShort]

/-- A value of which the leaves are masked is a document if its keys are. -/
theorem mask_isDocument_iff (v : Value) :
    (v.mapLeaves Place.maskLeaf).IsDocument ↔ v.HasMaskedForm := by
  induction v using inductOn with
  | leaf v leaf =>
    rw [mapLeaves_leaf _ leaf, maskLeaf_isDocument leaf, hasMaskedForm_iff]
    cases v with
    | list _ | tuple _ | set _ | dict _ => cases leaf
    | _ => simp [keys, leaves]
  | list xs ih =>
    rw [mapLeaves_list, IsDocument, parts, isDocument_items, List.forall_mem_map,
      hasMaskedForm_items (by rw [keys]) (by rw [leaves])]
    exact forall₂_congr ih
  | tuple xs ih =>
    rw [mapLeaves_tuple, IsDocument, parts, isDocument_items, List.forall_mem_map,
      hasMaskedForm_items (by rw [keys]) (by rw [leaves])]
    exact forall₂_congr ih
  | set xs ih =>
    rw [mapLeaves_set, IsDocument, parts, isDocument_items, forall_distinct isDocument_of_sameKey,
      List.forall_mem_map, hasMaskedForm_items (by rw [keys]) (by rw [leaves])]
    exact forall₂_congr ih
  | dict es ih =>
    rw [mapLeaves_dict, IsDocument, parts, isDocument_entries, List.forall_mem_map,
      hasMaskedForm_iff, keys, leaves, forall_entryKeys, forall_entryLeaves]
    constructor
    · intro held
      have each (e : Value × Value) (among : e ∈ es) := hasMaskedForm_iff.mp
        ((ih e among).mp (held e among).2)
      exact ⟨fun e among => ⟨(held e among).1, (each e among).1⟩, fun e among => (each e among).2⟩
    · rintro ⟨keys, leaves⟩ e among
      exact ⟨(keys e among).1,
        (ih e among).mpr (hasMaskedForm_iff.mpr ⟨(keys e among).2, leaves e among⟩)⟩

/-- What is written of a value of which the leaves are replaced is in a key of it or in what one of
    its leaves is replaced by. -/
theorem mem_parts_mapLeaves {f : Value → Value} {part : Value} (v : Value) :
    part ∈ (v.mapLeaves f).parts →
      (∃ k ∈ v.keys, part ∈ k.parts) ∨ ∃ leaf ∈ v.leaves, part ∈ (f leaf).parts := by
  have items {xs : List Value}
      (each : ∀ x ∈ xs, part ∈ (x.mapLeaves f).parts →
        (∃ k ∈ x.keys, part ∈ k.parts) ∨ ∃ leaf ∈ x.leaves, part ∈ (f leaf).parts)
      {x : Value} (known : x ∈ xs.map (mapLeaves f)) (among : part ∈ x.parts) :
      (∃ k ∈ itemKeys xs, part ∈ k.parts) ∨ ∃ leaf ∈ itemLeaves xs, part ∈ (f leaf).parts := by
    obtain ⟨y, inside, rfl⟩ := List.mem_map.mp known
    rcases each y inside among with ⟨k, key, held⟩ | ⟨leaf, isLeaf, held⟩
    · exact .inl ⟨k, mem_itemKeys.mpr ⟨y, inside, key⟩, held⟩
    · exact .inr ⟨leaf, mem_itemLeaves.mpr ⟨y, inside, isLeaf⟩, held⟩
  induction v using inductOn with
  | leaf v leaf =>
    intro among
    rw [mapLeaves_leaf _ leaf] at among
    refine .inr ⟨v, ?_, among⟩
    cases v with
    | list _ | tuple _ | set _ | dict _ => cases leaf
    | _ => exact List.mem_singleton_self _
  | list xs ih | tuple xs ih =>
    intro among
    simp only [mapLeaves_list, mapLeaves_tuple] at among
    rw [parts] at among
    obtain ⟨x, known, held⟩ := mem_itemParts.mp among
    rw [keys, leaves]
    exact items ih known held
  | set xs ih =>
    intro among
    rw [mapLeaves_set, parts] at among
    obtain ⟨x, known, held⟩ := mem_itemParts.mp among
    rw [keys, leaves]
    exact items ih (mem_of_mem_distinct known) held
  | dict es ih =>
    intro among
    rw [mapLeaves_dict, parts] at among
    obtain ⟨d, known, held⟩ := mem_entryParts.mp among
    obtain ⟨e, inside, rfl⟩ := List.mem_map.mp known
    rw [keys, leaves]
    rcases held with held | held
    · exact .inl ⟨e.1, mem_entryKeys.mpr ⟨e, inside, .inl rfl⟩, held⟩
    · rcases ih e inside held with ⟨k, key, held⟩ | ⟨leaf, isLeaf, held⟩
      · exact .inl ⟨k, mem_entryKeys.mpr ⟨e, inside, .inr key⟩, held⟩
      · exact .inr ⟨leaf, mem_entryLeaves.mpr ⟨e, inside, isLeaf⟩, held⟩

theorem leafFault?_maskLeaf {leaf part : Value} {e : Yaml.WriteError}
    (masked : part ∈ (Place.maskLeaf leaf).parts) (fault : part.leafFault? = some e) :
    e = .longInteger := by
  cases leaf <;>
    simp_all [Place.maskLeaf, parts, leafFault?, isOpaque, isShort]

end Value

/-! ## Documents -/

namespace Place

open Value

/-- A value is shown if it has a masked form, and only then. -/
theorem document_isOk_iff (v : Value) : (∃ s, document v = .ok s) ↔ v.HasMaskedForm := by
  rw [document, ← Yaml.errorOf?_eq_none, Yaml.write_fault, List.findSome?_eq_none_iff]
  exact mask_isDocument_iff v

/-- An object in a key keeps a value from being shown, if not an integer that is too long. -/
theorem document_error {v : Value} {e : Yaml.WriteError} (failed : document v = .error e) :
    e = .longInteger ∨ ∃ k ∈ v.keys, ∃ part ∈ k.parts, part.isOpaque ∧ e = .unsupported part := by
  rw [document, ← Yaml.errorOf?_eq_some, Yaml.write_fault] at failed
  obtain ⟨part, among, fault⟩ := List.exists_of_findSome?_eq_some failed
  rcases mem_parts_mapLeaves v among with ⟨k, key, held⟩ | ⟨leaf, -, masked⟩
  · rw [leafFault?] at fault
    split at fault
    · rename_i known
      cases fault
      exact .inr ⟨k, key, part, held, known, rfl⟩
    · split at fault
      · cases fault
      · cases fault
        exact .inl rfl
  · exact .inl (leafFault?_maskLeaf masked fault)

/-- The values that a place shows: the failing element, and the variables if there are any. -/
def shown (p : Place) : List Value :=
  match p.excerpt, p.element with
  | none, some v => if v.isFalsy then [] else (p.vars.filter (!·.isFalsy)).toList ++ [v]
  | _, _ => []

/-- Variables are shown below a title, which is no further obstacle. -/
theorem errorOf?_document_vars (vs : Value) :
    Yaml.errorOf? (document (.dict [(.text "vars", vs)])) = Yaml.errorOf? (document vs) := by
  have titled : (Value.dict [(.text "vars", vs.mapLeaves maskLeaf)]).parts =
      .text "vars" :: (vs.mapLeaves maskLeaf).parts := by
    rw [parts, entryParts, entryParts, List.append_nil, parts]
    · rfl
    all_goals simp
  rw [document, Yaml.write_fault, mapLeaves_dict, List.map_singleton, titled,
    List.findSome?_cons_of_isNone rfl, document, Yaml.write_fault]

theorem errorOf?_elementText (vars : Option Value) (element : Value) :
    Yaml.errorOf? (elementText vars element) =
      ((vars.filter (!·.isFalsy)).toList ++ [element]).findSome? fun v =>
        Yaml.errorOf? (document v) := by
  have body (above : List String) :
      Yaml.errorOf? (do
        let body ← document element
        return String.intercalate "\n" (["..."] ++ above ++ [body])) =
        Yaml.errorOf? (document element) := by
    rw [Yaml.errorOf?_bind none fun _ => rfl, Option.or_none]
  cases vars with
  | none => simpa [elementText] using body []
  | some vs =>
    cases empty : vs.isFalsy with
    | true => simpa [elementText, empty, Option.filter] using body []
    | false =>
      simp only [elementText, empty, Bool.false_eq_true, if_false, pure_bind]
      have kept : (some vs).filter (!·.isFalsy) = some vs := by simp [Option.filter, empty]
      rw [Yaml.errorOf?_bind _ fun t => body [t, "---"], errorOf?_document_vars, kept,
        Option.toList_some, List.findSome?_append, List.findSome?_singleton,
        List.findSome?_singleton]

/-- What a place shows fails at the first value that can not be shown. -/
theorem errorOf?_snippet (p : Place) :
    Yaml.errorOf? p.snippet = p.shown.findSome? fun v => Yaml.errorOf? (document v) := by
  unfold snippet shown
  cases p.excerpt with
  | some e => simp [Yaml.errorOf?]
  | none =>
    cases p.element with
    | none => simp [Yaml.errorOf?]
    | some v =>
      cases empty : v.isFalsy with
      | true => simp [Yaml.errorOf?, empty]
      | false => simpa [empty] using errorOf?_elementText p.vars v

end Place

/-! ## Reports -/

namespace Report

open Value

variable {α : Type}

/-- The values that the text of a report shows. -/
def shown (r : Report α) : List Value := r.place.toList.flatMap Place.shown

theorem errorOf?_text (r : Report α) :
    Yaml.errorOf? r.text = r.shown.findSome? fun v => Yaml.errorOf? (Place.document v) := by
  rw [text, shown]
  cases r.place with
  | none => rfl
  | some p =>
    rw [Yaml.errorOf?_bind none fun _ => rfl, Option.or_none, Place.errorOf?_snippet]
    simp

/-- A value is shown if it has a masked form, and a report has a text if all that it shows has one,
    and only then. What keeps a report from having a text is an integer that is too long, or an
    object of the host in a key. -/
theorem text_isOk_iff (r : Report α) :
    (∀ v, (∃ s, Place.document v = .ok s) ↔ v.HasMaskedForm) ∧
      ((∃ s, r.text = .ok s) ↔ ∀ v ∈ r.shown, v.HasMaskedForm) ∧
      ∀ e, r.text = .error e → ∃ v ∈ r.shown, e = .longInteger ∨
        ∃ k ∈ v.keys, ∃ part ∈ k.parts, part.isOpaque ∧ e = .unsupported part := by
  refine ⟨Place.document_isOk_iff, ?_, fun e failed => ?_⟩
  · rw [← Yaml.errorOf?_eq_none, errorOf?_text, List.findSome?_eq_none_iff]
    exact forall₂_congr fun v _ => Yaml.errorOf?_eq_none.trans (Place.document_isOk_iff v)
  · rw [← Yaml.errorOf?_eq_some, errorOf?_text] at failed
    obtain ⟨v, among, fault⟩ := List.exists_of_findSome?_eq_some failed
    exact ⟨v, among, Place.document_error (Yaml.errorOf?_eq_some.mp fault)⟩

/-- The variables and an element of a moment with objects of the host in many places. -/
def crowded : Report Empty where
  kind := .session
  message := "Step failed"
  place := some {
    vars := some (.dict [(.text "clients", .list [.object "client", .tuple [.error "OSError" ""]]),
      (.tuple [.int 1, .bytes []], .set [.object "a", .object "b"])])
    element := some (.dict [(.text "send", .dict [(.null, .other "range" "range(3)")])]) }

/-- A report that shows a mapping with an object of the host as a key. -/
def keyed : Report Empty where
  kind := .session
  message := "Step failed"
  place := some { element := some (.dict [(.object "x", .int 1)]) }

theorem text_isOk_of_crowded :
    (∃ s, crowded.text = .ok s) ∧ keyed.text = .error (.unsupported (.object "x")) ∧
      ∃ v ∈ keyed.shown, ∃ k ∈ v.keys, ∃ part ∈ k.parts,
        part.isOpaque ∧ Yaml.WriteError.unsupported (.object "x") = .unsupported part := by
  have failed : keyed.text = .error (.unsupported (.object "x")) := rfl
  refine ⟨(text_isOk_iff crowded).2.1.mpr fun v among => ?_, failed, ?_⟩
  · constructor <;> revert v <;> decide
  · obtain ⟨v, among, long | inKey⟩ := (text_isOk_iff keyed).2.2 _ failed
    · cases long
    · exact ⟨v, among, inKey⟩

/-- Masking leaves keys as they are: an object of the host in a key is not shown. -/
theorem text_fails_of_object_key :
    Place.document (.dict [(.object "x", .int 1)]) = .error (.unsupported (.object "x")) ∧
      ¬ ∃ s, keyed.text = .ok s :=
  ⟨rfl, fun ⟨_, written⟩ => nomatch written⟩

end Report

end SessionScript
