import SessionScript.Proofs.Effect
import SessionScript.Scenario.Reader

/-!
# Accepted payloads

What the schema of scenarios lets through as the body of a JSON payload: scalars, and lists and
mappings of what it lets through, with texts as keys.
-/

namespace SessionScript

/-! ## Values that documents may hold -/

namespace Value

/-- A value that a document may hold as the body of a payload. -/
inductive Admitted : Value → Prop where
  | null : Admitted .null
  | bool (b : Bool) : Admitted (.bool b)
  | int (i : Int) : Admitted (.int i)
  | float (x : Binary64) : Admitted (.float x)
  | text (s : String) : Admitted (.text s)
  | bytes (b : List UInt8) : Admitted (.bytes b)
  | list {xs : List Value} (each : ∀ v ∈ xs, Admitted v) : Admitted (.list xs)
  | tuple {xs : List Value} (each : ∀ v ∈ xs, Admitted v) : Admitted (.tuple xs)
  | dict {es : Entries} (keys : ∀ e ∈ es, ∃ k, e.1 = .text k) (each : ∀ e ∈ es, Admitted e.2) :
    Admitted (.dict es)

end Value

/-! ## Entries -/

namespace Entries

variable {P : Value → Value → Prop}

/-- What holds of all entries and of every key with the value that is set holds of all entries
    after it is set. -/
theorem forall_put {es : Entries} {key value : Value} (each : ∀ e ∈ es, P e.1 e.2)
    (set : P key value) (again : ∀ e ∈ es, P e.1 value) : ∀ e ∈ es.put key value, P e.1 e.2 := by
  induction es with
  | nil => simpa [put] using set
  | cons entry es ih =>
    obtain ⟨k, v⟩ := entry
    rw [List.forall_mem_cons] at each again
    rw [put]
    split
    · exact List.forall_mem_cons.mpr ⟨again.1, each.2⟩
    · exact List.forall_mem_cons.mpr ⟨each.1, ih each.2 again.2⟩

theorem mem_of_get? {es : Entries} {key v : Value} (found : es.get? key = some v) :
    ∃ k, (k, v) ∈ es := by
  induction es with
  | nil => cases found
  | cons e es ih =>
    obtain ⟨k, w⟩ := e
    rw [get?] at found
    split at found
    · cases found
      exact ⟨k, List.mem_cons_self⟩
    · obtain ⟨k', among⟩ := ih found
      exact ⟨k', List.mem_cons_of_mem _ among⟩

theorem get?_append (es ds : Entries) (key : Value) :
    get? (es ++ ds) key = (es.get? key).or (ds.get? key) := by
  induction es with
  | nil => rfl
  | cons e es ih =>
    rw [List.cons_append, get?, get?]
    split
    · rfl
    · exact ih

end Entries

namespace Schema

open Value

/-! ## Readers that succeed -/

theorem under_ok {α : Type} {key : Key} {part : Reading α} {a : α} (read : under key part = .ok a) :
    part = .ok a := by
  cases part with
  | ok b => exact read
  | error e => cases read

theorem required_ok {α : Type} {es : Entries} {name : String} {read : Value → Reading α} {a : α}
    (found : required es name read = .ok a) :
    ∃ v, es.get? (.text name) = some v ∧ read v = .ok a := by
  rw [required] at found
  split at found
  · exact ⟨_, ‹_›, under_ok found⟩
  · cases under_ok found

/-- Whether the keys of entries are texts and their values may be held. -/
def AdmittedEntries (es : Entries) : Prop := ∀ e ∈ es, (∃ k, e.1 = .text k) ∧ Admitted e.2

theorem AdmittedEntries.ofPairs {pairs : List (Value × Value)} (each : AdmittedEntries pairs) :
    AdmittedEntries (Entries.ofPairs pairs) := by
  have onward : ∀ (more : List (Value × Value)) (es : Entries), AdmittedEntries es →
      AdmittedEntries more → AdmittedEntries (es.putAll more) := by
    intro more
    induction more with
    | nil => exact fun es before _ => before
    | cons e more ih =>
      intro es before after
      obtain ⟨first, after⟩ := List.forall_mem_cons.mp after
      have set := Entries.forall_put (P := fun k v => (∃ s, k = .text s) ∧ Admitted v) before first
        fun d among => ⟨(before d among).1, first.2⟩
      exact ih _ set after
  exact onward pairs [] (by simp [AdmittedEntries]) each

mutual

/-- A value that is read as the body of a payload may be held. -/
theorem readValue?_admitted : ∀ (v : Value) {w : Value}, readValue? v = some w → w.Admitted
  | .null, w, read | .bool _, w, read | .int _, w, read | .float _, w, read | .text _, w, read
  | .bytes _, w, read => by
    cases read
    constructor
  | .list xs, w, read => by
    obtain ⟨ws, items, rfl⟩ := Option.map_eq_some_iff.mp read
    exact .list (readValues?_admitted xs items)
  | .tuple xs, w, read => by
    obtain ⟨ws, items, rfl⟩ := Option.map_eq_some_iff.mp read
    exact .tuple (readValues?_admitted xs items)
  | .dict es, w, read => by
    obtain ⟨pairs, entries, rfl⟩ := Option.map_eq_some_iff.mp read
    have each := (readEntries?_admitted es entries).ofPairs
    exact .dict (fun e among => (each e among).1) (fun e among => (each e among).2)
  | .set _, _, read | .date _, _, read | .datetime _, _, read | .object _, _, read
  | .error _ _, _, read | .other _ _, _, read => by
    cases read

theorem readValues?_admitted : ∀ (vs : List Value) {ws : List Value}, readValues? vs = some ws →
    ∀ w ∈ ws, w.Admitted
  | [], ws, read => by
    cases read
    exact List.forall_mem_nil _
  | v :: vs, ws, read => by
    obtain ⟨w, first, rest, others, rfl⟩ : ∃ w, readValue? v = some w ∧
        ∃ rest, readValues? vs = some rest ∧ w :: rest = ws := by
      simpa [readValues?, Option.bind_eq_some_iff] using read
    exact List.forall_mem_cons.mpr ⟨readValue?_admitted v first, readValues?_admitted vs others⟩

theorem readEntries?_admitted : ∀ (es : List (Value × Value)) {ds : List (Value × Value)},
    readEntries? es = some ds → AdmittedEntries ds
  | [], ds, read => by
    cases read
    exact List.forall_mem_nil _
  | (k, v) :: es, ds, read => by
    obtain ⟨name, -, w, first, rest, others, rfl⟩ : ∃ name, (readText k).toOption = some name ∧
        ∃ w, readValue? v = some w ∧
          ∃ rest, readEntries? es = some rest ∧ (.text name, w) :: rest = ds := by
      simpa [readEntries?, Option.bind_eq_some_iff] using read
    exact List.forall_mem_cons.mpr
      ⟨⟨⟨name, rfl⟩, readValue?_admitted v first⟩, readEntries?_admitted es others⟩

end

end Schema

open Schema

/-! ## Steps -/

/-- The body of a payload that is read may be held. -/
theorem readBody_admitted {v body : Value} (read : readBody v = .ok body) : body.Admitted := by
  obtain ⟨es, -, read⟩ := bind_ok read
  obtain ⟨found, there, read⟩ := bind_ok read
  obtain ⟨-, -, same⟩ := bind_ok read
  cases same
  obtain ⟨w, -, value⟩ := required_ok there
  rw [readValue] at value
  split at value
  · cases value
    exact readValue?_admitted w ‹_›
  · cases under_ok value

theorem Payload.ofValue_admitted {v body : Value} (read : Payload.ofValue v = .ok (.json body)) :
    body.Admitted := by
  rw [Payload.ofValue.eq_def] at read
  split at read
  · cases read
  · cases read
  · split at read
    · cases read
      exact readBody_admitted ‹_›
    · cases under_ok read

/-- What a step reads from the value under its key. -/
def Step.Field (w : Value) : Step → Prop
  | .think seconds => readDuration w = .ok seconds
  | .connect url => readAddress w = .ok url
  | .send payload => Payload.ofValue w = .ok payload

/-- A document that is read as a step is a record with that step under the key of its kind. -/
theorem Step.ofValue_field {doc : Value} {step : Step} (accepted : Step.ofValue doc = .ok step) :
    ∃ (es : Entries) (w : Value),
      doc = .dict es ∧ es.get? (.text step.kind.name) = some w ∧ step.Field w := by
  rw [Step.ofValue] at accepted
  split at accepted
  · rename_i kind _
    obtain ⟨es, record, read⟩ := bind_ok (under_ok accepted)
    have mapping : doc = .dict es := by
      cases doc <;> cases record
      rfl
    have made {α : Type} {part : Reading α} {make : α → Step} {step : Step}
        (read : part.map make = .ok step) : ∃ a, part = .ok a ∧ make a = step := by
      cases part with
      | error e => cases read
      | ok a => exact ⟨a, rfl, Except.ok.inj read⟩
    cases kind
    all_goals
      obtain ⟨step, there, read⟩ := bind_ok read
      obtain ⟨-, -, same⟩ := bind_ok read
      cases same
      obtain ⟨payload, named, same⟩ := made there
      cases same
      obtain ⟨w, found, reads⟩ := required_ok named
      exact ⟨es, w, mapping, found, reads⟩
  · cases accepted

/-- The body of a step that a document asks for may be held. -/
theorem Step.ofValue_admitted {doc body : Value}
    (accepted : Step.ofValue doc = .ok (.send (.json body))) : body.Admitted := by
  obtain ⟨-, w, -, -, field⟩ := Step.ofValue_field accepted
  exact Payload.ofValue_admitted field

end SessionScript
