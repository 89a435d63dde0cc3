import SessionScript.Value.Basic

/-!
# Leaves of values

What a value holds that is no container, in document order. Of the leaves only texts are templates.
What a value is apart from its texts is its outline, and outline and texts make up the value.
Rebuilding a value without sets text by text is going through its texts from left to right and keeps
its outline.
-/

namespace SessionScript

namespace Value

/-! ## Containers -/

/-- Whether a value is a container, and no leaf. -/
def isContainer : Value → Bool
  | .dict _ | .list _ | .tuple _ | .set _ => true
  | _ => false

/-- What holds of leaves, and of a container if it holds of what is in it, holds of all values. -/
@[elab_as_elim]
theorem inductOn {P : Value → Prop} (leaf : ∀ v, v.isContainer = false → P v)
    (list : ∀ xs, (∀ x ∈ xs, P x) → P (.list xs)) (tuple : ∀ xs, (∀ x ∈ xs, P x) → P (.tuple xs))
    (set : ∀ xs, (∀ x ∈ xs, P x) → P (.set xs))
    (dict : ∀ es, (∀ e ∈ es, P e.2) → P (.dict es)) (v : Value) : P v :=
  match v with
  | .list xs => list xs fun x _ => inductOn leaf list tuple set dict x
  | .tuple xs => tuple xs fun x _ => inductOn leaf list tuple set dict x
  | .set xs => set xs fun x _ => inductOn leaf list tuple set dict x
  | .dict es => dict es fun (_, x) _ => inductOn leaf list tuple set dict x
  | .null | .bool _ | .int _ | .float _ | .text _ | .bytes _ | .date _ | .datetime _ | .object _
  | .error _ _ | .other _ _ => leaf _ rfl
termination_by v
decreasing_by
  all_goals try decreasing_tactic
  -- An entry is smaller than the mapping that it is in, and its value is smaller than the entry.
  rename_i among
  have smaller := List.sizeOf_lt_of_mem among
  simp only [Prod.mk.sizeOf_spec] at smaller
  simp only [Value.dict.sizeOf_spec]
  omega

/-! ## Leaves -/

mutual

/-- Everything in a value that is no container, in document order. -/
def leaves : Value → List Value
  | .dict es => entryLeaves es
  | .list xs | .tuple xs | .set xs => itemLeaves xs
  | leaf => [leaf]

/-- The leaves of items. -/
def itemLeaves : List Value → List Value
  | [] => []
  | v :: vs => leaves v ++ itemLeaves vs

/-- The leaves of the values of entries. -/
def entryLeaves : List (Value × Value) → List Value
  | [] => []
  | (_, v) :: es => leaves v ++ entryLeaves es

end

theorem mem_itemLeaves {leaf : Value} {vs : List Value} :
    leaf ∈ itemLeaves vs ↔ ∃ v ∈ vs, leaf ∈ v.leaves := by
  induction vs with
  | nil => simp [itemLeaves]
  | cons v vs ih => simp [itemLeaves, ih]

theorem mem_entryLeaves {leaf : Value} {es : List (Value × Value)} :
    leaf ∈ entryLeaves es ↔ ∃ e ∈ es, leaf ∈ e.2.leaves := by
  induction es with
  | nil => simp [entryLeaves]
  | cons e es ih => simp [entryLeaves, ih]

/-- What holds of all leaves of items holds of all leaves of each of them. -/
theorem forall_itemLeaves {P : Value → Prop} {vs : List Value} :
    (∀ leaf ∈ itemLeaves vs, P leaf) ↔ ∀ v ∈ vs, ∀ leaf ∈ v.leaves, P leaf := by
  simp only [mem_itemLeaves]
  exact ⟨fun all v known leaf among => all leaf ⟨v, known, among⟩,
    fun all leaf ⟨v, known, among⟩ => all v known leaf among⟩

theorem forall_entryLeaves {P : Value → Prop} {es : List (Value × Value)} :
    (∀ leaf ∈ entryLeaves es, P leaf) ↔ ∀ e ∈ es, ∀ leaf ∈ e.2.leaves, P leaf := by
  simp only [mem_entryLeaves]
  exact ⟨fun all e known leaf among => all leaf ⟨e, known, among⟩,
    fun all leaf ⟨e, known, among⟩ => all e known leaf among⟩

/-! ## Rebuilding without effects -/

section MapLeaves

variable (f : Value → Value)

theorem mapItemsM_id (xs : List Value) :
    Id.run (mapItemsM (m := Id) f xs) = xs.map (mapLeaves f) := by
  induction xs with
  | nil => rfl
  | cons x xs ih =>
    rw [mapItemsM, List.map_cons, ← ih]
    rfl

theorem mapEntriesM_id (es : List (Value × Value)) :
    Id.run (mapEntriesM (m := Id) f es) = es.map fun e => (e.1, e.2.mapLeaves f) := by
  induction es with
  | nil => rfl
  | cons e es ih =>
    rw [mapEntriesM, List.map_cons, ← ih]
    rfl

theorem mapLeaves_list (xs : List Value) :
    mapLeaves f (.list xs) = .list (xs.map (mapLeaves f)) := by
  rw [← mapItemsM_id, mapLeaves, mapLeavesM]
  rfl

theorem mapLeaves_tuple (xs : List Value) :
    mapLeaves f (.tuple xs) = .tuple (xs.map (mapLeaves f)) := by
  rw [← mapItemsM_id, mapLeaves, mapLeavesM]
  rfl

theorem mapLeaves_set (xs : List Value) :
    mapLeaves f (.set xs) = .set (distinct (xs.map (mapLeaves f))) := by
  rw [← mapItemsM_id, mapLeaves, mapLeavesM]
  rfl

theorem mapLeaves_dict (es : List (Value × Value)) :
    mapLeaves f (.dict es) = .dict (es.map fun e => (e.1, e.2.mapLeaves f)) := by
  rw [← mapEntriesM_id, mapLeaves, mapLeavesM]
  rfl

theorem mapLeaves_leaf {v : Value} (leaf : v.isContainer = false) : mapLeaves f v = f v := by
  rw [mapLeaves, mapLeavesM]
  · rfl
  all_goals
    rintro xs rfl
    cases leaf

end MapLeaves

/-! ## Keys -/

mutual

/-- The keys of all mappings in a value, in document order. -/
def keys : Value → List Value
  | .dict es => entryKeys es
  | .list xs | .tuple xs | .set xs => itemKeys xs
  | _ => []

/-- The keys of all mappings in items. -/
def itemKeys : List Value → List Value
  | [] => []
  | v :: vs => keys v ++ itemKeys vs

/-- The keys of entries, each before those of the mappings in its value. -/
def entryKeys : List (Value × Value) → List Value
  | [] => []
  | (k, v) :: es => k :: (keys v ++ entryKeys es)

end

/-- All mappings in a value have texts as keys. -/
def HasTextKeys (v : Value) : Prop := ∀ k ∈ v.keys, ∃ s, k = .text s

theorem mem_itemKeys {k : Value} {vs : List Value} : k ∈ itemKeys vs ↔ ∃ v ∈ vs, k ∈ v.keys := by
  induction vs with
  | nil => simp [itemKeys]
  | cons v vs ih => simp [itemKeys, ih]

theorem mem_entryKeys {k : Value} {es : List (Value × Value)} :
    k ∈ entryKeys es ↔ ∃ e ∈ es, k = e.1 ∨ k ∈ e.2.keys := by
  induction es with
  | nil => simp [entryKeys]
  | cons e es ih => simp [entryKeys, ih, or_assoc]

/-- What holds of all keys in items holds of all keys in each of them. -/
theorem forall_itemKeys {P : Value → Prop} {vs : List Value} :
    (∀ k ∈ itemKeys vs, P k) ↔ ∀ v ∈ vs, ∀ k ∈ v.keys, P k := by
  induction vs with
  | nil => simp [itemKeys]
  | cons v vs ih => rw [itemKeys, List.forall_mem_append, List.forall_mem_cons, ih]

theorem forall_entryKeys {P : Value → Prop} {es : List (Value × Value)} :
    (∀ k ∈ entryKeys es, P k) ↔ ∀ e ∈ es, P e.1 ∧ ∀ k ∈ e.2.keys, P k := by
  induction es with
  | nil => simp [entryKeys]
  | cons e es ih =>
    rw [entryKeys, List.forall_mem_cons, List.forall_mem_append, List.forall_mem_cons, ih,
      and_assoc]

/-! ## Texts -/

/-- The text that a leaf is, if it is one. -/
def text? : Value → Option String
  | .text s => some s
  | _ => none

/-- The texts of a value in document order. -/
def texts (v : Value) : List String := v.leaves.filterMap text?

def itemTexts (vs : List Value) : List String := (itemLeaves vs).filterMap text?

def entryTexts (es : List (Value × Value)) : List String := (entryLeaves es).filterMap text?

theorem texts_dict (es : List (Value × Value)) : texts (.dict es) = entryTexts es := by
  rw [texts, leaves, entryTexts]

theorem texts_list (vs : List Value) : texts (.list vs) = itemTexts vs := by
  rw [texts, leaves, itemTexts]

theorem texts_tuple (vs : List Value) : texts (.tuple vs) = itemTexts vs := by
  rw [texts, leaves, itemTexts]

theorem itemTexts_cons (v : Value) (vs : List Value) :
    itemTexts (v :: vs) = v.texts ++ itemTexts vs := by
  rw [itemTexts, itemLeaves, List.filterMap_append, texts, itemTexts]

theorem entryTexts_cons (k v : Value) (es : List (Value × Value)) :
    entryTexts ((k, v) :: es) = v.texts ++ entryTexts es := by
  rw [entryTexts, entryLeaves, List.filterMap_append, texts, entryTexts]

mutual

/-- Whether a value is no set and holds none. -/
def isSetFree : Value → Bool
  | .set _ => false
  | .dict es => areEntriesSetFree es
  | .list xs | .tuple xs => areItemsSetFree xs
  | _ => true

def areItemsSetFree : List Value → Bool
  | [] => true
  | v :: vs => isSetFree v && areItemsSetFree vs

def areEntriesSetFree : List (Value × Value) → Bool
  | [] => true
  | (_, v) :: es => isSetFree v && areEntriesSetFree es

end

theorem areItemsSetFree_iff {vs : List Value} :
    areItemsSetFree vs ↔ ∀ v ∈ vs, v.isSetFree := by
  induction vs with
  | nil => simp [areItemsSetFree]
  | cons v vs ih => rw [areItemsSetFree, Bool.and_eq_true, List.forall_mem_cons, ih]

theorem areEntriesSetFree_iff {es : List (Value × Value)} :
    areEntriesSetFree es ↔ ∀ e ∈ es, e.2.isSetFree := by
  induction es with
  | nil => simp [areEntriesSetFree]
  | cons e es ih => rw [areEntriesSetFree, Bool.and_eq_true, List.forall_mem_cons, ih]

/-! ## Outlines -/

mutual

/-- A value with every text in it blanked: its containers with their kinds, lengths and keys, and
    its other leaves. -/
def outline : Value → Value
  | .dict es => .dict (outlineEntries es)
  | .list xs => .list (outlineItems xs)
  | .tuple xs => .tuple (outlineItems xs)
  | .set xs => .set (outlineItems xs)
  | .text _ => .text ""
  | leaf => leaf

def outlineItems : List Value → List Value
  | [] => []
  | v :: vs => outline v :: outlineItems vs

def outlineEntries : List (Value × Value) → List (Value × Value)
  | [] => []
  | (k, v) :: es => (k, outline v) :: outlineEntries es

end

theorem texts_leaf {v : Value} (leaf : v.isContainer = false) : v.texts = v.text?.toList := by
  cases v with
  | list _ | tuple _ | set _ | dict _ => cases leaf
  | _ => rfl

theorem outline_leaf {v : Value} (leaf : v.isContainer = false) :
    v.outline = if v.text?.isSome then .text "" else v := by
  cases v with
  | list _ | tuple _ | set _ | dict _ => cases leaf
  | _ => rfl

theorem outline_isContainer (v : Value) : v.outline.isContainer = v.isContainer := by
  cases v <;> rw [outline] <;> simp [isContainer]

/-- There is a set in a value if there is one in its outline. -/
theorem isSetFree_outline (v : Value) : v.outline.isSetFree = v.isSetFree := by
  have items {xs : List Value} (each : ∀ x ∈ xs, x.outline.isSetFree = x.isSetFree) :
      areItemsSetFree (outlineItems xs) = areItemsSetFree xs := by
    induction xs with
    | nil => rfl
    | cons x xs ih =>
      obtain ⟨first, rest⟩ := List.forall_mem_cons.mp each
      rw [outlineItems, areItemsSetFree, areItemsSetFree, first, ih rest]
  have entries {es : List (Value × Value)} (each : ∀ e ∈ es, e.2.outline.isSetFree = e.2.isSetFree) :
      areEntriesSetFree (outlineEntries es) = areEntriesSetFree es := by
    induction es with
    | nil => rfl
    | cons e es ih =>
      obtain ⟨first, rest⟩ := List.forall_mem_cons.mp each
      rw [outlineEntries, areEntriesSetFree, areEntriesSetFree, first, ih rest]
  induction v using inductOn with
  | leaf v leaf =>
    rw [outline_leaf leaf]
    split
    · cases v <;> simp_all [text?, isSetFree]
    · rfl
  | list xs ih | tuple xs ih => exact items ih
  | set xs ih => rfl
  | dict es ih => exact entries ih

/-- There are as many texts as blanks in the outline. -/
theorem length_texts_outline (v : Value) : v.outline.texts.length = v.texts.length := by
  have items {xs : List Value} (each : ∀ x ∈ xs, x.outline.texts.length = x.texts.length) :
      (itemTexts (outlineItems xs)).length = (itemTexts xs).length := by
    induction xs with
    | nil => rfl
    | cons x xs ih =>
      obtain ⟨first, rest⟩ := List.forall_mem_cons.mp each
      rw [outlineItems, itemTexts_cons, itemTexts_cons, List.length_append, List.length_append,
        first, ih rest]
  have entries {es : List (Value × Value)}
      (each : ∀ e ∈ es, e.2.outline.texts.length = e.2.texts.length) :
      (entryTexts (outlineEntries es)).length = (entryTexts es).length := by
    induction es with
    | nil => rfl
    | cons e es ih =>
      obtain ⟨first, rest⟩ := List.forall_mem_cons.mp each
      rw [outlineEntries, entryTexts_cons, entryTexts_cons, List.length_append, List.length_append,
        first, ih rest]
  induction v using inductOn with
  | leaf v leaf =>
    rw [outline_leaf leaf]
    split
    · rename_i text
      rw [texts_leaf leaf, Option.length_toList, text]
      rfl
    · rfl
  | list xs ih | tuple xs ih | set xs ih => exact items ih
  | dict es ih => exact entries ih

theorem length_texts_of_outline {v w : Value} (same : v.outline = w.outline) :
    v.texts.length = w.texts.length := by
  rw [← length_texts_outline v, ← length_texts_outline w, same]

/-- Whether a value is the only one with its outline and its texts. -/
def IsKnown (v : Value) : Prop :=
  ∀ w : Value, v.outline = w.outline → v.texts = w.texts → v = w

theorem eq_of_outlineItems {xs : List Value} (known : ∀ x ∈ xs, x.IsKnown) :
    ∀ {ys : List Value}, outlineItems xs = outlineItems ys → itemTexts xs = itemTexts ys →
      xs = ys := by
  induction xs with
  | nil =>
    rintro (_ | ⟨y, ys⟩) outlines texts
    · rfl
    · cases outlines
  | cons x xs ih =>
    rintro (_ | ⟨y, ys⟩) outlines texts
    · cases outlines
    · obtain ⟨first, rest⟩ := List.forall_mem_cons.mp known
      obtain ⟨outline, outlines⟩ := List.cons.inj outlines
      rw [itemTexts_cons, itemTexts_cons] at texts
      obtain ⟨own, others⟩ := List.append_inj texts (length_texts_of_outline outline)
      rw [first y outline own, ih rest outlines others]

theorem eq_of_outlineEntries {es : List (Value × Value)} (known : ∀ e ∈ es, e.2.IsKnown) :
    ∀ {ds : List (Value × Value)}, outlineEntries es = outlineEntries ds →
      entryTexts es = entryTexts ds → es = ds := by
  induction es with
  | nil =>
    rintro (_ | ⟨d, ds⟩) outlines texts
    · rfl
    · cases outlines
  | cons e es ih =>
    rintro (_ | ⟨d, ds⟩) outlines texts
    · cases outlines
    · obtain ⟨k, v⟩ := e
      obtain ⟨k', w⟩ := d
      obtain ⟨first, rest⟩ := List.forall_mem_cons.mp known
      obtain ⟨entry, behind⟩ := List.cons.inj outlines
      obtain ⟨key, outline⟩ := Prod.mk.inj entry
      rw [entryTexts_cons, entryTexts_cons] at texts
      obtain ⟨own, others⟩ := List.append_inj texts (length_texts_of_outline outline)
      have value : v = w := first w outline own
      rw [key, value, ih rest behind others]

theorem isKnown_leaf {v : Value} (leaf : v.isContainer = false) : v.IsKnown := by
  intro w outline texts
  have leaf' : w.isContainer = false := by
    rw [← outline_isContainer, ← outline, outline_isContainer, leaf]
  rw [outline_leaf leaf, outline_leaf leaf'] at outline
  rw [texts_leaf leaf, texts_leaf leaf'] at texts
  have text : v.text? = w.text? := by
    simpa only [Option.head?_toList] using congrArg List.head? texts
  rw [text] at outline
  split at outline
  · rename_i some
    obtain ⟨s, some⟩ := Option.isSome_iff_exists.mp some
    have of_text {u : Value} (known : u.text? = .some s) : u = .text s := by
      cases u <;> simp_all [text?]
    rw [of_text some, of_text (text.trans some)]
  · exact outline

/-- A value is known by its outline and its texts. -/
theorem isKnown (v : Value) : v.IsKnown := by
  induction v using inductOn with
  | leaf v leaf => exact isKnown_leaf leaf
  | list xs ih =>
    intro w outline texts
    cases w with
    | list ys =>
      rw [texts_list, texts_list] at texts
      rw [eq_of_outlineItems ih (Value.list.inj outline) texts]
    | _ => cases outline
  | tuple xs ih =>
    intro w outline texts
    cases w with
    | tuple ys =>
      rw [texts_tuple, texts_tuple] at texts
      rw [eq_of_outlineItems ih (Value.tuple.inj outline) texts]
    | _ => cases outline
  | set xs ih =>
    intro w outline texts
    cases w with
    | set ys => rw [eq_of_outlineItems ih (Value.set.inj outline) texts]
    | _ => cases outline
  | dict es ih =>
    intro w outline texts
    cases w with
    | dict ds =>
      rw [texts_dict, texts_dict] at texts
      rw [eq_of_outlineEntries ih (Value.dict.inj outline) texts]
    | _ => cases outline

section Rewriting

variable {m : Type → Type} [Monad m]

/-- Rewrites a leaf if it is a text. -/
def rewriteText (h : String → m String) : Value → m Value
  | .text s => do return .text (← h s)
  | v => return v

variable [LawfulMonad m]

mutual

/-- A value whose texts are rewritten has the same outline, and its texts are what the texts are
    rewritten to from left to right. -/
theorem mapLeavesM_parts (h : String → m String) :
    ∀ {v : Value}, v.isSetFree →
      (fun w => (w.outline, w.texts)) <$> v.mapLeavesM (rewriteText h) =
        (fun ts => (v.outline, ts)) <$> v.texts.mapM h
  | .dict es, free => by
    rw [isSetFree] at free
    have parts := congrArg (fun act => (fun p => (Value.dict p.1, p.2)) <$> act)
      (mapEntriesM_parts h free)
    simpa [mapLeavesM, texts_dict, outline] using parts
  | .list xs, free => by
    rw [isSetFree] at free
    have parts := congrArg (fun act => (fun p => (Value.list p.1, p.2)) <$> act)
      (mapItemsM_parts h free)
    simpa [mapLeavesM, texts_list, outline] using parts
  | .tuple xs, free => by
    rw [isSetFree] at free
    have parts := congrArg (fun act => (fun p => (Value.tuple p.1, p.2)) <$> act)
      (mapItemsM_parts h free)
    simpa [mapLeavesM, texts_tuple, outline] using parts
  | .set xs, free => by simp [isSetFree] at free
  | .text s, _ => by simp [mapLeavesM, rewriteText, texts, leaves, text?, outline]
  | .null, _ | .bool _, _ | .int _, _ | .float _, _ | .bytes _, _ | .date _, _ | .datetime _, _
  | .object _, _ | .error _ _, _ | .other _ _, _ => by
    simp [mapLeavesM, rewriteText, texts, leaves, List.filterMap_cons, text?, outline]

theorem mapItemsM_parts (h : String → m String) :
    ∀ {vs : List Value}, areItemsSetFree vs →
      (fun ws => (outlineItems ws, itemTexts ws)) <$> mapItemsM (rewriteText h) vs =
        (fun ts => (outlineItems vs, ts)) <$> (itemTexts vs).mapM h
  | [], _ => by simp [mapItemsM, itemTexts, itemLeaves]
  | v :: vs, free => by
    rw [areItemsSetFree, Bool.and_eq_true] at free
    have split : (fun ws => (outlineItems ws, itemTexts ws)) <$>
          mapItemsM (rewriteText h) (v :: vs) = (do
        let p ← (fun w => (w.outline, w.texts)) <$> v.mapLeavesM (rewriteText h)
        let q ← (fun ws => (outlineItems ws, itemTexts ws)) <$> mapItemsM (rewriteText h) vs
        return (p.1 :: q.1, p.2 ++ q.2)) := by
      simp [mapItemsM, outlineItems, itemTexts_cons]
    rw [split, mapLeavesM_parts h free.1, mapItemsM_parts h free.2, itemTexts_cons,
      List.mapM_append]
    simp [outlineItems]

theorem mapEntriesM_parts (h : String → m String) :
    ∀ {es : List (Value × Value)}, areEntriesSetFree es →
      (fun ds => (outlineEntries ds, entryTexts ds)) <$> mapEntriesM (rewriteText h) es =
        (fun ts => (outlineEntries es, ts)) <$> (entryTexts es).mapM h
  | [], _ => by simp [mapEntriesM, entryTexts, entryLeaves]
  | (k, v) :: es, free => by
    rw [areEntriesSetFree, Bool.and_eq_true] at free
    have split : (fun ds => (outlineEntries ds, entryTexts ds)) <$>
          mapEntriesM (rewriteText h) ((k, v) :: es) = (do
        let p ← (fun w => (w.outline, w.texts)) <$> v.mapLeavesM (rewriteText h)
        let q ← (fun ds => (outlineEntries ds, entryTexts ds)) <$> mapEntriesM (rewriteText h) es
        return ((k, p.1) :: q.1, p.2 ++ q.2)) := by
      simp [mapEntriesM, outlineEntries, entryTexts_cons]
    rw [split, mapLeavesM_parts h free.1, mapEntriesM_parts h free.2, entryTexts_cons,
      List.mapM_append]
    simp [outlineEntries]

end

/-- The texts of a value whose texts are rewritten are what its texts are rewritten to. -/
theorem mapLeavesM_texts (h : String → m String) {v : Value} (free : v.isSetFree) :
    texts <$> v.mapLeavesM (rewriteText h) = v.texts.mapM h := by
  simpa using congrArg (Prod.snd <$> ·) (mapLeavesM_parts h free)

end Rewriting

end Value

end SessionScript
