import Mathlib.Data.List.Induction
import SessionScript.Proofs.Functions.Table
import SessionScript.Proofs.Schema.Element
import SessionScript.Proofs.Schema.Violations
import SessionScript.Proofs.Value.Leaves

/-!
# What scenarios keep of their documents

A document that is read as a scenario is kept as it is: its steps in their order, each with the one
key that tells its kind, and texts, bytes, JSON bodies and variables without a change. Only mapping
keys that are bytes become texts.
-/

namespace SessionScript

/-! ## Documents -/

namespace Value

/-- The keys of every mapping in a value differ from each other. -/
inductive HasDistinctKeys : Value → Prop where
  | leaf {v : Value} (leaf : v.isContainer = false) : HasDistinctKeys v
  | list {xs : List Value} (each : ∀ x ∈ xs, HasDistinctKeys x) : HasDistinctKeys (.list xs)
  | tuple {xs : List Value} (each : ∀ x ∈ xs, HasDistinctKeys x) : HasDistinctKeys (.tuple xs)
  | set {xs : List Value} (each : ∀ x ∈ xs, HasDistinctKeys x) : HasDistinctKeys (.set xs)
  | dict {es : Entries} (apart : es.Pairwise fun d e => d.1.sameKey e.1 = false)
    (each : ∀ e ∈ es, HasDistinctKeys e.2) : HasDistinctKeys (.dict es)

theorem HasDistinctKeys.single {k v : Value} (value : v.HasDistinctKeys) :
    (Value.dict [(k, v)]).HasDistinctKeys :=
  .dict (List.pairwise_singleton _ _) (List.forall_mem_singleton.mpr value)

theorem HasDistinctKeys.apart {es : Entries} (distinct : (Value.dict es).HasDistinctKeys) :
    es.Pairwise fun d e => d.1.sameKey e.1 = false := by
  cases distinct with
  | leaf leaf => cases leaf
  | dict apart _ => exact apart

theorem HasDistinctKeys.entries {es : Entries} (distinct : (Value.dict es).HasDistinctKeys) :
    ∀ e ∈ es, e.2.HasDistinctKeys := by
  cases distinct with
  | leaf leaf => cases leaf
  | dict _ each => exact each

theorem HasDistinctKeys.items {v : Value} {xs : List Value} (distinct : v.HasDistinctKeys)
    (items : Schema.items? v = some xs) : ∀ x ∈ xs, x.HasDistinctKeys := by
  cases distinct with
  | leaf leaf =>
    cases v with
    | list _ | tuple _ | set _ | dict _ => cases leaf
    | _ => cases items
  | list each | tuple each | set each =>
    cases items
    exact each
  | dict _ _ => cases items

end Value

namespace Entries

/-- A key that no entry has gets an entry at the end. -/
theorem put_of_new {es : Entries} {key value : Value}
    (new : ∀ e ∈ es, e.1.sameKey key = false) : es.put key value = es ++ [(key, value)] := by
  induction es with
  | nil => rfl
  | cons e es ih =>
    obtain ⟨k, v⟩ := e
    obtain ⟨other, rest⟩ := List.forall_mem_cons.mp new
    rw [put, if_neg (by rw [other]; exact Bool.false_ne_true), ih rest, List.cons_append]

/-- Entries with different keys are kept when they are set one after the other. -/
theorem ofPairs_eq {es : Entries} (apart : es.Pairwise fun d e => d.1.sameKey e.1 = false) :
    ofPairs es = es := by
  have onward : ∀ (more before : Entries),
      (before ++ more).Pairwise (fun d e => d.1.sameKey e.1 = false) →
        before.putAll more = before ++ more := by
    intro more
    induction more with
    | nil => intro before _; rw [List.append_nil]; rfl
    | cons e more ih =>
      intro before apart
      have new : ∀ d ∈ before, d.1.sameKey e.1 = false := fun d among =>
        (List.pairwise_append.mp apart).2.2 d among e List.mem_cons_self
      have set : before.putAll (e :: more) = (before.put e.1 e.2).putAll more := rfl
      rw [set, put_of_new new, ih, List.append_assoc, List.singleton_append]
      rwa [List.append_assoc, List.singleton_append]
  exact onward es [] apart

end Entries

namespace Schema

open Value

/-! ## Values -/

mutual

/-- A value with texts as keys is read as it is. -/
theorem readValue?_eq : ∀ (v : Value) {w : Value}, readValue? v = some w → v.HasTextKeys →
    v.HasDistinctKeys → w = v
  | .null, w, read, _, _ | .bool _, w, read, _, _ | .int _, w, read, _, _ | .float _, w, read, _, _
  | .text _, w, read, _, _ | .bytes _, w, read, _, _ => by
    cases read
    rfl
  | .list xs, w, read, keyed, distinct => by
    obtain ⟨ws, items, rfl⟩ := Option.map_eq_some_iff.mp read
    rw [HasTextKeys, keys, forall_itemKeys] at keyed
    rw [readValues?_eq xs items keyed (distinct.items rfl)]
  | .tuple xs, w, read, keyed, distinct => by
    obtain ⟨ws, items, rfl⟩ := Option.map_eq_some_iff.mp read
    rw [HasTextKeys, keys, forall_itemKeys] at keyed
    rw [readValues?_eq xs items keyed (distinct.items rfl)]
  | .dict es, w, read, keyed, distinct => by
    obtain ⟨ds, entries, rfl⟩ := Option.map_eq_some_iff.mp read
    rw [HasTextKeys, keys, forall_entryKeys] at keyed
    rw [readEntries?_eq es entries keyed distinct.entries, Entries.ofPairs_eq distinct.apart]
  | .set _, _, read, _, _ | .date _, _, read, _, _ | .datetime _, _, read, _, _
  | .object _, _, read, _, _ | .error _ _, _, read, _, _ | .other _ _, _, read, _, _ => by
    cases read

theorem readValues?_eq : ∀ (vs : List Value) {ws : List Value}, readValues? vs = some ws →
    (∀ v ∈ vs, v.HasTextKeys) → (∀ v ∈ vs, v.HasDistinctKeys) → ws = vs
  | [], ws, read, _, _ => by
    cases read
    rfl
  | v :: vs, ws, read, keyed, distinct => by
    obtain ⟨w, first, rest, others, rfl⟩ : ∃ w, readValue? v = some w ∧
        ∃ rest, readValues? vs = some rest ∧ w :: rest = ws := by
      simpa [readValues?, Option.bind_eq_some_iff] using read
    obtain ⟨here, keyed⟩ := List.forall_mem_cons.mp keyed
    obtain ⟨apart, distinct⟩ := List.forall_mem_cons.mp distinct
    rw [readValue?_eq v first here apart, readValues?_eq vs others keyed distinct]

theorem readEntries?_eq : ∀ (es : List (Value × Value)) {ds : List (Value × Value)},
    readEntries? es = some ds → (∀ e ∈ es, (∃ s, e.1 = .text s) ∧ e.2.HasTextKeys) →
      (∀ e ∈ es, e.2.HasDistinctKeys) → ds = es
  | [], ds, read, _, _ => by
    cases read
    rfl
  | (k, v) :: es, ds, read, keyed, distinct => by
    obtain ⟨name, known, w, first, rest, others, rfl⟩ :
        ∃ name, (readText k).toOption = some name ∧ ∃ w, readValue? v = some w ∧
          ∃ rest, readEntries? es = some rest ∧ (.text name, w) :: rest = ds := by
      simpa [readEntries?, Option.bind_eq_some_iff] using read
    obtain ⟨⟨⟨s, text⟩, here⟩, keyed⟩ := List.forall_mem_cons.mp keyed
    obtain ⟨apart, distinct⟩ := List.forall_mem_cons.mp distinct
    have same : k = .text name := by
      change k = .text s at text
      subst text
      exact congrArg Value.text (Option.some.inj known)
    rw [readValue?_eq v first here apart, readEntries?_eq es others keyed distinct, same]

end

/-- A value of a document, read as what a payload or a variable may hold, is kept. -/
theorem readValue_eq {v w : Value} (read : readValue v = .ok w) (keyed : v.HasTextKeys)
    (distinct : v.HasDistinctKeys) : w = v := by
  rw [readValue] at read
  split at read
  · rename_i found
    cases read
    exact readValue?_eq v found keyed distinct
  · cases under_ok read

/-! ## Records -/

variable {α : Type} {read : Value → Reading α}

/-- A record without other keys has the names of fields as keys. -/
theorem noExtras_ok {names : List String} {es : Entries} (only : noExtras names es = .ok ()) :
    ∀ e ∈ es, ∃ s ∈ names, e.1 = .text s := by
  induction es with
  | nil => exact List.forall_mem_nil _
  | cons entry es ih =>
    obtain ⟨k, v⟩ := entry
    rw [noExtras.eq_def] at only
    split at only
    · cases ‹_ :: _ = _›
    · cases ‹_ :: _ = _›
      split at only
      · rename_i known
        exact List.forall_mem_cons.mpr ⟨⟨_, List.contains_iff_mem.mp known, rfl⟩, ih only⟩
      · cases under_ok only
    · cases under_ok only

/-- A record with one field and no other key is one entry. -/
theorem eq_single {name : String} {es : Entries} {w : Value}
    (apart : es.Pairwise fun d e => d.1.sameKey e.1 = false)
    (only : noExtras [name] es = .ok ()) (found : es.get? (.text name) = some w) :
    es = [(.text name, w)] := by
  have keys : ∀ e ∈ es, e.1 = .text name := by
    intro e among
    obtain ⟨s, known, key⟩ := noExtras_ok only e among
    rw [key, List.mem_singleton.mp known]
  have same : (Value.text name).sameKey (.text name) = true := by simp [sameKey]
  cases es with
  | nil => cases found
  | cons e es =>
    obtain ⟨k, v⟩ := e
    obtain rfl : k = .text name := keys _ List.mem_cons_self
    have value : v = w := by
      rw [Entries.get?, if_pos same] at found
      exact Option.some.inj found
    have alone : es = [] := by
      refine List.eq_nil_iff_forall_not_mem.mpr fun d among => ?_
      have differs := (List.pairwise_cons.mp apart).1 d among
      rw [keys d (List.mem_cons_of_mem _ among), same] at differs
      cases differs
    rw [value, alone]

/-- Items are read one by one, in their order. -/
theorem readItemsFrom_each {n : Nat} {xs : List Value} {as : List α}
    (items : readItemsFrom read n xs = .ok as) :
    List.Forall₂ (fun x a => read x = .ok a) xs as := by
  induction xs generalizing n as with
  | nil =>
    cases items
    exact .nil
  | cons x xs ih =>
    obtain ⟨a, first, items⟩ := bind_ok items
    obtain ⟨as, rest, same⟩ := bind_ok items
    cases same
    exact .cons (under_ok first) (ih rest)

/-- Entries of a mapping from names are read one by one, in their order. -/
theorem readNamed_each {es : Entries} {ps : List (String × α)}
    (entries : readNamed read es = .ok ps) :
    List.Forall₂ (fun e p => readName e.1 = .ok p.1 ∧ read e.2 = .ok p.2) es ps := by
  induction es generalizing ps with
  | nil =>
    cases entries
    exact .nil
  | cons e es ih =>
    obtain ⟨name, named, entries⟩ := bind_ok entries
    obtain ⟨a, first, entries⟩ := bind_ok entries
    obtain ⟨ps, rest, same⟩ := bind_ok entries
    cases same
    exact .cons ⟨under_ok (under_ok named), under_ok first⟩ (ih rest)

end Schema

open Schema

/-! ## Steps -/

/-- A payload holds what a document has in its place. -/
inductive Payload.Keeps : Value → Payload → Prop where
  | text (s : String) : Keeps (.text s) (.text s)
  | bytes (b : List UInt8) : Keeps (.bytes b) (.bytes b)
  | json {raw body : Value} (same : raw.HasTextKeys → body = raw) :
    Keeps (.dict [(.text "json", raw)]) (.json body)

theorem readBody_keeps {v body : Value} (read : readBody v = .ok body)
    (distinct : v.HasDistinctKeys) : Payload.Keeps v (.json body) := by
  obtain ⟨es, record, fields⟩ := bind_ok read
  obtain rfl := readRecord_ok record
  obtain ⟨w, there, rest⟩ := bind_ok fields
  obtain ⟨_, only, same⟩ := bind_ok rest
  cases same
  obtain ⟨raw, found, value⟩ := required_ok there
  obtain rfl := eq_single distinct.apart only found
  exact .json fun keyed => readValue_eq value keyed (distinct.entries _ List.mem_cons_self)

theorem Payload.ofValue_keeps {v : Value} {p : Payload} (read : Payload.ofValue v = .ok p)
    (distinct : v.HasDistinctKeys) : p.Keeps v := by
  rw [Payload.ofValue.eq_def] at read
  split at read
  · cases read
    exact .text _
  · cases read
    exact .bytes _
  · split at read
    · rename_i readBody
      cases read
      exact readBody_keeps readBody distinct
    · cases under_ok read

/-- A step is what a document says: a mapping with the kind of the step as its only key, and, where
    it sends something, with that under the key. -/
structure Step.Keeps (doc : Value) (step : Step) : Prop where
  kind : StepKind.ofValue? doc = some step.kind
  field : ∃ w, doc = .dict [(.text step.kind.name, w)] ∧ step.Field w ∧
    ∀ payload, step = .send payload → payload.Keeps w

theorem map_ok {α β : Type} {part : Reading α} {make : α → β} {b : β}
    (read : part.map make = .ok b) : ∃ a, part = .ok a ∧ make a = b := by
  cases part with
  | error e => cases read
  | ok a => exact ⟨a, rfl, Except.ok.inj read⟩

/-- The record of a step has no other key than the kind of the step. -/
theorem Step.ofValue_only {es : Entries} {step : Step}
    (accepted : Step.ofValue (.dict es) = .ok step) : noExtras [step.kind.name] es = .ok () := by
  rw [Step.ofValue] at accepted
  split at accepted
  · rename_i kind _
    obtain ⟨ds, record, read⟩ := bind_ok (under_ok accepted)
    cases record
    cases kind
    all_goals
      obtain ⟨step, there, read⟩ := bind_ok read
      obtain ⟨_, only, same⟩ := bind_ok read
      cases same
      obtain ⟨payload, -, rfl⟩ := map_ok there
      exact only
  · cases accepted

theorem Step.ofValue_keeps {doc : Value} {step : Step} (accepted : Step.ofValue doc = .ok step)
    (distinct : doc.HasDistinctKeys) : step.Keeps doc := by
  obtain ⟨es, w, rfl, found, field⟩ := Step.ofValue_field accepted
  obtain rfl := eq_single distinct.apart (Step.ofValue_only accepted) found
  refine ⟨by cases step <;> rfl, w, rfl, field, ?_⟩
  rintro payload rfl
  exact Payload.ofValue_keeps field (distinct.entries _ List.mem_cons_self)

/-! ## Variables -/

/-- One more pair: its name is set to its value, and all other names keep theirs. -/
theorem distinctNames_concat {α : Type} (ps : List (String × α)) (p : String × α) :
    distinctNames (ps ++ [p]) =
      if (distinctNames ps).any (·.1 == p.1) then
        (distinctNames ps).map fun q => if q.1 == p.1 then p else q
      else distinctNames ps ++ [p] := by
  rw [distinctNames, List.foldl_append]
  rfl

/-- A name of a mapping has the value of the last pair with that name. -/
theorem last_of_mem_distinctNames {α : Type} {ps : List (String × α)} :
    ∀ {q : String × α}, q ∈ distinctNames ps →
      ∃ front back, ps = front ++ q :: back ∧ ∀ p ∈ back, p.1 ≠ q.1 := by
  induction ps using List.reverseRecOn with
  | nil => intro q among; cases among
  | append_singleton ps p ih =>
    intro q among
    have either : q = p ∨ q ∈ distinctNames ps ∧ p.1 ≠ q.1 := by
      rw [distinctNames_concat] at among
      split at among
      · obtain ⟨r, known, rfl⟩ := List.mem_map.mp among
        by_cases same : r.1 = p.1
        · left
          simp [same]
        · right
          simpa [same, known] using Ne.symm same
      · rename_i fresh
        rcases List.mem_append.mp among with known | known
        · refine .inr ⟨known, fun same => fresh ?_⟩
          exact List.any_eq_true.mpr ⟨q, known, by simp [same]⟩
        · exact .inl (List.mem_singleton.mp known)
    rcases either with rfl | ⟨known, other⟩
    · exact ⟨ps, [], rfl, List.forall_mem_nil _⟩
    · obtain ⟨front, back, split, later⟩ := ih known
      refine ⟨front, back ++ [p], by rw [split, List.append_assoc, List.cons_append], ?_⟩
      exact List.forall_mem_append.mpr ⟨later, List.forall_mem_singleton.mpr other⟩

/-- Every pair gives its name to a mapping. -/
theorem name_mem_distinctNames {α : Type} {ps : List (String × α)} :
    ∀ p ∈ ps, p.1 ∈ (distinctNames ps).map Prod.fst := by
  induction ps using List.reverseRecOn with
  | nil => exact List.forall_mem_nil _
  | append_singleton ps p ih =>
    intro q among
    rw [distinctNames_concat]
    split
    · rename_i known
      rw [names_replace]
      rcases List.mem_append.mp among with before | last
      · exact ih q before
      · obtain ⟨r, there, same⟩ := List.any_eq_true.mp known
        rw [List.mem_singleton.mp last]
        exact List.mem_map.mpr ⟨r, there, by simpa using same⟩
    · rw [List.map_append]
      rcases List.mem_append.mp among with before | last
      · exact List.mem_append_left _ (ih q before)
      · rw [List.mem_singleton.mp last]
        exact List.mem_append_right _ List.mem_cons_self

/-- Variables hold what the entries of a document give to them, each the value of the last entry
    with its name. -/
structure Config.KeepsVars (raw : Entries) (vars : List (String × Value)) : Prop where
  names : (vars.map Prod.fst).Nodup
  value : ∀ x ∈ vars, ∃ front e back, raw = front ++ e :: back ∧ readName e.1 = .ok x.1 ∧
    (∀ d ∈ back, readName d.1 ≠ .ok x.1) ∧ (e.2.HasTextKeys → x.2 = e.2)
  all : ∀ e ∈ raw, ∃ x ∈ vars, readName e.1 = .ok x.1

/-- Two lists that go together are cut at the same place. -/
theorem forall₂_split {α β : Type} {R : α → β → Prop} {as : List α} {front back : List β} {b : β}
    (each : List.Forall₂ R as (front ++ b :: back)) :
    ∃ front' a back', as = front' ++ a :: back' ∧ R a b ∧ List.Forall₂ R back' back := by
  induction front generalizing as with
  | nil =>
    obtain ⟨a, back', first, rest, rfl⟩ := List.forall₂_cons_right_iff.mp each
    exact ⟨[], a, back', rfl, first, rest⟩
  | cons c front ih =>
    obtain ⟨a, as, -, rest, rfl⟩ := List.forall₂_cons_right_iff.mp each
    obtain ⟨front', a', back', rfl, same, later⟩ := ih rest
    exact ⟨a :: front', a', back', rfl, same, later⟩

theorem forall₂_partner {α β : Type} {R : α → β → Prop} {as : List α} {bs : List β}
    (each : List.Forall₂ R as bs) : ∀ a ∈ as, ∃ b ∈ bs, R a b := by
  induction each with
  | nil => exact List.forall_mem_nil _
  | cons first _ ih =>
    refine List.forall_mem_cons.mpr ⟨⟨_, List.mem_cons_self, first⟩, fun a among => ?_⟩
    obtain ⟨b, there, same⟩ := ih a among
    exact ⟨b, List.mem_cons_of_mem _ there, same⟩

theorem readNames_keeps {v : Value} {ps : List (String × Value)}
    (read : readNames readValue v = .ok ps) (distinct : v.HasDistinctKeys) :
    ∃ raw, v = .dict raw ∧ Config.KeepsVars raw (distinctNames ps) := by
  obtain ⟨raw, rfl, entries⟩ : ∃ raw, v = .dict raw ∧ readNamed readValue raw = .ok ps := by
    cases v with
    | dict raw => exact ⟨raw, rfl, read⟩
    | _ => cases read
  have each := readNamed_each entries
  refine ⟨raw, rfl, distinctNames_nodup ps, fun x among => ?_, fun e among => ?_⟩
  · obtain ⟨front, back, rfl, later⟩ := last_of_mem_distinctNames among
    obtain ⟨front', e, back', rfl, ⟨named, value⟩, rest⟩ := forall₂_split each
    refine ⟨front', e, back', rfl, named, fun d known other => ?_, fun keyed => ?_⟩
    · obtain ⟨p, there, named', -⟩ := forall₂_partner rest d known
      exact later p there (Except.ok.inj (named'.symm.trans other))
    · exact readValue_eq value keyed (distinct.entries e (by simp))
  · obtain ⟨p, there, named, -⟩ := forall₂_partner each e among
    obtain ⟨x, known, same⟩ := List.mem_map.mp (name_mem_distinctNames p there)
    exact ⟨x, known, by rw [same, named]⟩

/-! ## Scenarios -/

namespace Schema

variable {α : Type} {read : Value → Reading α}

/-- A field with one name that is read. -/
theorem optional_one {es : Entries} {name : String} {default a : α}
    (read' : optional es [name] default read = .ok a) :
    (es.get? (.text name) = none ∧ a = default) ∨
      ∃ v, es.get? (.text name) = some v ∧ read v = .ok a := by
  cases found : es.get? (.text name) with
  | none =>
    left
    simpa [optional, present?, Entries.has, found, eq_comm] using read'
  | some v =>
    right
    have there : optional es [name] default read = required es name read := by
      simp [optional, present?, Entries.has, found]
    rw [there] at read'
    obtain ⟨w, known, value⟩ := required_ok read'
    exact ⟨w, found ▸ known, value⟩

/-- A field with two names, of which the first one counts if both are there. -/
theorem optional_two {es : Entries} {name other : String} {default a : α}
    (read' : optional es [name, other] default read = .ok a) :
    ((es.get? (.text name)).or (es.get? (.text other)) = none ∧ a = default) ∨
      ∃ v, (es.get? (.text name)).or (es.get? (.text other)) = some v ∧ read v = .ok a := by
  cases found : es.get? (.text name) with
  | none =>
    have alone : optional es [name, other] default read = optional es [other] default read := by
      simp [optional, present?, Entries.has, found]
    rw [alone] at read'
    simpa using optional_one read'
  | some v =>
    have alone : optional es [name, other] default read = optional es [name] default read := by
      simp [optional, present?, Entries.has, found]
    rw [alone] at read'
    simpa [found] using optional_one read'

end Schema

/-- What a configuration has in the field of the variables, which has two names. -/
def Config.varField? (cs : Entries) : Option Value :=
  (cs.get? (.text "vars")).or (cs.get? (.text "variables"))

/-- The entries of a document that give values to variables. -/
def Scenario.varEntries (doc : Entries) : Entries :=
  match doc.get? (.text "config") with
  | some (.dict cs) =>
    match Config.varField? cs with
    | some (.dict raw) => raw
    | _ => []
  | _ => []

theorem Config.keepsVars_nil : Config.KeepsVars [] [] :=
  ⟨List.nodup_nil, List.forall_mem_nil _, List.forall_mem_nil _⟩

/-- Where a value is found it has keys that differ, as the entries have that it is found in. -/
theorem Value.HasDistinctKeys.get? {es : Entries} {key v : Value}
    (distinct : (Value.dict es).HasDistinctKeys) (found : es.get? key = some v) :
    v.HasDistinctKeys := by
  obtain ⟨k, among⟩ := Entries.mem_of_get? found
  exact distinct.entries _ among

theorem Config.ofValue_keeps {v : Value} {c : Config} (read : Config.ofValue v = .ok c)
    (distinct : v.HasDistinctKeys) :
    ∃ cs, v = .dict cs ∧ ((varField? cs = none ∧ c.vars = []) ∨
      ∃ raw, varField? cs = some (.dict raw) ∧ Config.KeepsVars raw c.vars) := by
  obtain ⟨cs, vars, functions, record, given, -, same, -⟩ := Config.ofValue_ok read
  obtain rfl := readRecord_ok record
  rw [same]
  refine ⟨cs, rfl, ?_⟩
  rcases optional_two given with ⟨missing, rfl⟩ | ⟨w, found, names⟩
  · exact .inl ⟨missing, rfl⟩
  · have apart : w.HasDistinctKeys := by
      rcases Option.or_eq_some_iff.mp found with found | ⟨-, found⟩
      · exact distinct.get? found
      · exact distinct.get? found
    obtain ⟨raw, rfl, kept⟩ := readNames_keeps names apart
    exact .inr ⟨raw, found, kept⟩

/-- Steps that are read one by one are kept one by one. -/
theorem keeps_each {xs : List Value} {steps : List Step}
    (each : List.Forall₂ (fun x step => Step.ofValue x = .ok step) xs steps)
    (distinct : ∀ x ∈ xs, x.HasDistinctKeys) : List.Forall₂ Step.Keeps xs steps := by
  induction each with
  | nil => exact .nil
  | cons first _ ih =>
    obtain ⟨apart, distinct⟩ := List.forall_mem_cons.mp distinct
    exact .cons (Step.ofValue_keeps first apart) (ih distinct)

theorem readSteps_keeps {v : Value} {steps : { steps : List Step // steps ≠ [] }}
    (read : readSteps v = .ok steps) (distinct : v.HasDistinctKeys) :
    ∃ xs, items? v = some xs ∧ List.Forall₂ Step.Keeps xs steps.1 := by
  rw [readSteps] at read
  split at read
  · rename_i xs items
    obtain ⟨all, each, made⟩ := bind_ok read
    have kept := keeps_each (readItemsFrom_each each) (distinct.items items)
    split at made
    · cases made
    · cases made
      exact ⟨xs, items, kept⟩
  · cases read

/-- A document that is accepted is kept. There are as many steps as in the document, in the same
    order, and each is a mapping with one key, which is the kind of the step that it is read as;
    texts and bytes to send are not changed, and neither are JSON bodies and variables if the keys
    in them are texts. -/
theorem Scenario.document_kept {doc : Entries} {s : Scenario}
    (accepted : Scenario.ofValue (.dict doc) = .ok s)
    (distinct : (Value.dict doc).HasDistinctKeys) :
    (∃ raw xs, doc.get? (.text "scenario") = some raw ∧ items? raw = some xs ∧
      s.steps.length = xs.length ∧ List.Forall₂ Step.Keeps xs s.steps) ∧
    Config.KeepsVars (varEntries doc) s.config.vars := by
  obtain ⟨es, record, fields⟩ := bind_ok accepted
  obtain rfl : doc = es := Value.dict.inj (readRecord_ok record)
  obtain ⟨title, -, fields⟩ := bind_ok fields
  obtain ⟨description, -, fields⟩ := bind_ok fields
  obtain ⟨config, configured, fields⟩ := bind_ok fields
  obtain ⟨steps, listed, fields⟩ := bind_ok fields
  obtain ⟨-, -, same⟩ := bind_ok fields
  cases same
  constructor
  · obtain ⟨raw, found, read⟩ := required_ok listed
    obtain ⟨xs, items, kept⟩ := readSteps_keeps read (distinct.get? found)
    exact ⟨raw, xs, found, items, kept.length_eq.symm, kept⟩
  · rcases optional_one configured with ⟨missing, rfl⟩ | ⟨v, found, read⟩
    · rw [varEntries, missing]
      exact Config.keepsVars_nil
    · obtain ⟨cs, rfl, vars⟩ := Config.ofValue_keeps read (distinct.get? found)
      rcases vars with ⟨missing, none⟩ | ⟨raw, given, kept⟩
      · rw [varEntries, found]
        simp only [missing, none]
        exact Config.keepsVars_nil
      · rw [varEntries, found]
        simp only [given]
        exact kept

/-- A pause, an integer in a JSON body and a text in a variable are kept. -/
theorem Scenario.document_kept_kinds :
    let body : Value := .dict [(.text "n", .list [.int 1, .text "1"])]
    let doc : Entries :=
      [(.text "config", .dict [(.text "vars", .dict [(.text "v", .text "2")])]),
        (.text "scenario",
          .list [.dict [(.text "think", .bool true)],
            .dict [(.text "send", .dict [(.text "json", body)])]])]
    (Value.dict doc).HasDistinctKeys ∧
      ∃ s, Scenario.ofValue (.dict doc) = .ok s ∧
        s.steps = [.think (.ofInt 1), .send (.json body)] ∧ s.config.vars = [("v", .text "2")] ∧
        (∃ raw xs, doc.get? (.text "scenario") = some raw ∧ items? raw = some xs ∧
          s.steps.length = xs.length ∧ List.Forall₂ Step.Keeps xs s.steps) ∧
        Config.KeepsVars (varEntries doc) s.config.vars := by
  intro body doc
  have config : (Value.dict [(.text "vars", .dict [(.text "v", .text "2")])]).HasDistinctKeys :=
    .single (.single (.leaf rfl))
  have pause : (Value.dict [(.text "think", .bool true)]).HasDistinctKeys := .single (.leaf rfl)
  have items : (Value.list [.int 1, .text "1"]).HasDistinctKeys :=
    .list (List.forall_mem_cons.mpr ⟨.leaf rfl, List.forall_mem_singleton.mpr (.leaf rfl)⟩)
  have send : (Value.dict [(.text "send", .dict [(.text "json", body)])]).HasDistinctKeys :=
    .single (.single (.single items))
  have distinct : (Value.dict doc).HasDistinctKeys := by
    refine .dict (List.pairwise_pair.mpr rfl) (List.forall_mem_cons.mpr ⟨config, ?_⟩)
    refine List.forall_mem_singleton.mpr (.list (List.forall_mem_cons.mpr ⟨pause, ?_⟩))
    exact List.forall_mem_singleton.mpr send
  obtain ⟨s, accepted, steps, vars⟩ : ∃ s, Scenario.ofValue (.dict doc) = .ok s ∧
      s.steps = [.think (.ofInt 1), .send (.json body)] ∧ s.config.vars = [("v", .text "2")] :=
    ⟨_, rfl, rfl, rfl⟩
  exact ⟨distinct, s, accepted, steps, vars, Scenario.document_kept accepted distinct⟩

end SessionScript
