import Mathlib.Data.List.TakeWhile
import SessionScript.Proofs.Template.Names
import SessionScript.Proofs.Yaml.Reading

/-!
# Variables on the command line

Every item that sets a variable gives its name a value, is refused, or ends the program: the latter
if its text is a document of which a scalar denotes no value of its type. Items are read from left
to right up to the first one without a value, and the last one of a name counts.
-/

namespace SessionScript

theorem Value.sameKey_text {k : Value} {s : String} : k.sameKey (.text s) ↔ k = .text s := by
  cases k <;> simp [sameKey, integer?]

/-- What is set is found under its name, and all else as before. -/
theorem Entries.get?_put_text (es : Entries) (name other : String) (v : Value) :
    (es.put (.text name) v).get? (.text other) =
      if name = other then some v else es.get? (.text other) := by
  induction es with
  | nil => exact get?_single name other v
  | cons e es ih =>
    obtain ⟨k, w⟩ := e
    by_cases here : k.sameKey (.text name)
    · obtain rfl := Value.sameKey_text.mp here
      rw [put, if_pos here, get?, get?]
      simp [Value.sameKey]
      split <;> rfl
    · rw [put, if_neg here, get?, get?, ih]
      by_cases found : k.sameKey (.text other)
      · have differ : name ≠ other := fun same => here (same ▸ found)
        rw [if_pos found, if_neg differ, if_pos found]
      · rw [if_neg found, if_neg found]

namespace CommandLine

/-- A word without an equals sign has no value. -/
theorem Words.splitValue_of_not_mem {word : String} (free : '=' ∉ word.toList) :
    Words.splitValue word = (word, none) := by
  have none : word.toList.dropWhile (· != '=') = [] := by
    refine List.dropWhile_eq_nil_iff.mpr fun c among => ?_
    simp only [bne_iff_ne]
    rintro rfl
    exact free among
  rw [Words.splitValue, none]

/-- A word is cut at its first equals sign. -/
theorem Words.exists_of_mem {word : String} (sign : '=' ∈ word.toList) :
    ∃ name value, word = name ++ "=" ++ value ∧ '=' ∉ name.toList := by
  obtain ⟨front, back, parts, free⟩ := List.eq_append_cons_of_mem sign
  refine ⟨String.ofList front, String.ofList back, ?_, by simpa using free⟩
  rw [← String.toList_inj]
  simp [parts]

namespace RunRequest

/-! ## What an item says -/

/-- An item assigns a text to a name if the name of a variable stands before its first equals sign
    and the text behind it. -/
structure Assigns (item name text : String) : Prop where
  parts : item = name ++ "=" ++ text
  first : '=' ∉ name.toList
  named : isVariable name.toList

/-- The value that a text denotes. It is read as a document; the empty text, and a text that is no
    document, stand for themselves. -/
inductive Denotes (text : String) : Value → Prop where
  | empty : text = "" → Denotes text (.text "")
  | document (v : Value) :
    text ≠ "" → Yaml.read [] text.toList = .ok (some v) → Denotes text v
  | noDocument : text ≠ "" → Yaml.read [] text.toList = .ok none → Denotes text .null
  | character (c : Char) :
    Yaml.read [] text.toList = .error (.text (.character c)) → Denotes text (.text text)
  | grammar (stage : Yaml.Stage) (f : Yaml.MarkedFault) :
    Yaml.read [] text.toList = .error (.text (.marked stage f)) → Denotes text (.text text)

/-- What an item comes to: a value for a name, or how the program ends at it. -/
inductive Setting (item : String) : Except Finish (String × Value) → Prop where
  | value {name text : String} {v : Value} :
    Assigns item name text → Denotes text v → Setting item (.ok (name, v))
  | noAssignment : (∀ name text, ¬ Assigns item name text) →
    Setting item (.error (.misused .run (.notAnAssignment item)))
  | noValue {name text : String} {e : Yaml.ConversionError} :
    Assigns item name text → Yaml.read [] text.toList = .error (.text (.value e)) →
    Setting item (.error (.crashed (.raise e.kind "")))

variable {item : String}

/-- Every item comes to something. -/
theorem exists_setting (item : String) : ∃ r, Setting item r := by
  by_cases assigns : ∃ name text, Assigns item name text
  · obtain ⟨name, text, assigns⟩ := assigns
    by_cases empty : text = ""
    · exact ⟨_, .value assigns (.empty empty)⟩
    · cases result : Yaml.read [] text.toList with
      | ok v? =>
        cases v? with
        | none => exact ⟨_, .value assigns (.noDocument empty result)⟩
        | some v => exact ⟨_, .value assigns (.document v empty result)⟩
      | error e =>
        obtain ⟨f, rfl⟩ := Yaml.read_error result
        cases f with
        | character c => exact ⟨_, .value assigns (.character c result)⟩
        | marked stage f => exact ⟨_, .value assigns (.grammar stage f result)⟩
        | value e => exact ⟨_, .noValue assigns result⟩
  · exact ⟨_, .noAssignment fun name text h => assigns ⟨name, text, h⟩⟩

theorem ne_empty_of_error {text : String} {e : Yaml.ReadError}
    (failed : Yaml.read [] text.toList = .error e) : text ≠ "" := by
  rintro rfl
  have read : Yaml.read [] "".toList = .ok none := rfl
  cases read.symm.trans failed

theorem settingOf_of_denotes {text : String} {v : Value} (denotes : Denotes text v) :
    settingOf text = .ok v := by
  cases denotes with
  | empty blank => simp [settingOf, blank]
  | document v full read => simp [settingOf, full, read]
  | noDocument full read => simp [settingOf, full, read]
  | character c read => simp [settingOf, ne_empty_of_error read, read]
  | grammar stage f read => simp [settingOf, ne_empty_of_error read, read]

theorem settingOf_of_unreadable {text : String} {e : Yaml.ConversionError}
    (read : Yaml.read [] text.toList = .error (.text (.value e))) :
    settingOf text = .error (.raise e.kind "") := by
  simp [settingOf, ne_empty_of_error read, read]

/-- An item is read as what it comes to, whatever was set before. -/
theorem assign_of_setting {r : Except Finish (String × Value)} (h : Setting item r)
    (vars : Entries) : assign vars item = r.map fun p => vars.put (.text p.1) p.2 := by
  cases h with
  | value assigns denotes =>
    rw [assign, assigns.parts, Words.splitValue_append _ assigns.first]
    simp [assigns.named, settingOf_of_denotes denotes, Except.map]
  | noAssignment none =>
    by_cases sign : '=' ∈ item.toList
    · obtain ⟨name, text, rfl, first⟩ := Words.exists_of_mem sign
      have unnamed : ¬ isVariable name.toList := fun named => none name text ⟨rfl, first, named⟩
      rw [assign, Words.splitValue_append _ first]
      simp [unnamed, Except.map]
    · rw [assign, Words.splitValue_of_not_mem sign]
      rfl
  | noValue assigns read =>
    have failed := settingOf_of_unreadable read
    rw [assign, assigns.parts, Words.splitValue_append _ assigns.first]
    simp [assigns.named, failed, Except.map]

theorem setting_unique {r r' : Except Finish (String × Value)} (h : Setting item r)
    (h' : Setting item r') : r = r' := by
  have same := (assign_of_setting h []).symm.trans (assign_of_setting h' [])
  cases r <;> cases r' <;> simp_all [Except.map, Entries.put, Prod.ext_iff]

/-! ## Lists of items -/

/-- Reading items ends at the first one that has no value for a name. -/
theorem assigned_error_iff {items : List String} {vars : Entries} {finish : Finish} :
    items.foldlM assign vars = .error finish ↔
      ∃ front item back, items = front ++ item :: back ∧
        (∀ i ∈ front, ∃ p, Setting i (.ok p)) ∧ Setting item (.error finish) := by
  induction items generalizing vars with
  | nil => simp [pure, Except.pure]
  | cons i items ih =>
    obtain ⟨r, h⟩ := exists_setting i
    rw [List.foldlM_cons, assign_of_setting h]
    cases r with
    | ok p =>
      refine (@ih (vars.put (.text p.1) p.2)).trans ⟨?_, ?_⟩
      · rintro ⟨front, item, back, rfl, set, ends⟩
        exact ⟨i :: front, item, back, rfl, List.forall_mem_cons.mpr ⟨⟨p, h⟩, set⟩, ends⟩
      · rintro ⟨_ | ⟨i', front⟩, item, back, parts, set, ends⟩
        · cases parts
          cases setting_unique h ends
        · cases parts
          exact ⟨front, item, back, rfl, (List.forall_mem_cons.mp set).2, ends⟩
    | error finish' =>
      constructor
      · intro same
        cases same
        exact ⟨[], i, items, rfl, List.forall_mem_nil _, h⟩
      · rintro ⟨_ | ⟨i', front⟩, item, back, parts, set, ends⟩
        · cases parts
          exact congrArg Except.error (Except.error.inj (setting_unique h ends))
        · cases parts
          obtain ⟨p, ok⟩ := (List.forall_mem_cons.mp set).1
          cases setting_unique h ok

theorem assigned_isOk_iff {items : List String} {vars : Entries} :
    (∃ vars', items.foldlM assign vars = .ok vars') ↔
      ∀ item ∈ items, ∃ p, Setting item (.ok p) := by
  induction items generalizing vars with
  | nil => simp [pure, Except.pure]
  | cons i items ih =>
    obtain ⟨r, h⟩ := exists_setting i
    rw [List.foldlM_cons, assign_of_setting h, List.forall_mem_cons]
    cases r with
    | ok p => exact ih.trans ⟨fun others => ⟨⟨p, h⟩, others⟩, And.right⟩
    | error finish =>
      constructor
      · rintro ⟨vars', ended⟩
        cases ended
      · rintro ⟨⟨p, ok⟩, -⟩
        cases setting_unique h ok

/-- No item is one of a name. -/
def Leaves (items : List String) (name : String) : Prop :=
  ∀ item ∈ items, ∀ v, ¬ Setting item (.ok (name, v))

/-- The last of the items of a name gives it a value. -/
def LastSets (items : List String) (name : String) (v : Value) : Prop :=
  ∃ front item back, items = front ++ item :: back ∧ Setting item (.ok (name, v)) ∧
    Leaves back name

theorem lastSets_cons {items : List String} {name : String} {v : Value} :
    LastSets (item :: items) name v ↔
      (Setting item (.ok (name, v)) ∧ Leaves items name) ∨ LastSets items name v := by
  constructor
  · rintro ⟨_ | ⟨first, front⟩, i, back, parts, sets, last⟩
    · cases parts
      exact .inl ⟨sets, last⟩
    · cases parts
      exact .inr ⟨front, i, back, rfl, sets, last⟩
  · rintro (⟨sets, last⟩ | ⟨front, i, back, rfl, sets, last⟩)
    · exact ⟨[], item, items, rfl, sets, last⟩
    · exact ⟨item :: front, i, back, rfl, sets, last⟩

/-- The last item of a name gives its value; the other names keep theirs. -/
theorem get?_assigned {items : List String} {vars vars' : Entries}
    (ended : items.foldlM assign vars = .ok vars') (name : String) (v : Value) :
    vars'.get? (.text name) = some v ↔
      LastSets items name v ∨ (vars.get? (.text name) = some v ∧ Leaves items name) := by
  induction items generalizing vars with
  | nil =>
    cases ended
    simp [LastSets, Leaves]
  | cons i items ih =>
    obtain ⟨r, h⟩ := exists_setting i
    rw [List.foldlM_cons, assign_of_setting h] at ended
    cases r with
    | error finish => cases ended
    | ok p =>
      have only (q : String × Value) : Setting i (.ok q) ↔ p = q :=
        ⟨fun sets => Except.ok.inj (setting_unique h sets), fun same => same ▸ h⟩
      have leaves : Leaves (i :: items) name ↔ p.1 ≠ name ∧ Leaves items name := by
        rw [Leaves, List.forall_mem_cons]
        refine and_congr_left fun _ => ⟨fun none same => none p.2 ?_, fun other w sets => ?_⟩
        · exact (only _).mpr (same ▸ rfl)
        · exact other (congrArg Prod.fst ((only _).mp sets))
      rw [ih ended, Entries.get?_put_text, lastSets_cons, leaves, only]
      by_cases here : p.1 = name
      · obtain ⟨n, w⟩ := p
        cases here
        simp [or_comm]
      · have other : p ≠ (name, v) := fun same => here (congrArg Prod.fst same)
        simp [here, other]

/-- Items that set variables bind names to values, and the last item of a name counts. They end the
    program at the first one without a value: such an item either assigns nothing to the name of a
    variable and is refused, or it has a document for its text of which a scalar denotes no value of
    its type, and the error that this raises is handled nowhere. -/
theorem assigned_iff (items : List String) :
    (∀ finish, items.foldlM assign [] = .error finish ↔
      ∃ front item back, items = front ++ item :: back ∧
        (∀ i ∈ front, ∃ p, Setting i (.ok p)) ∧ Setting item (.error finish)) ∧
    ((∃ vars, items.foldlM assign [] = .ok vars) ↔
      ∀ item ∈ items, ∃ p, Setting item (.ok p)) ∧
    ∀ vars, items.foldlM assign [] = .ok vars →
      Named vars ∧ ∀ name v, vars.get? (.text name) = some v ↔ LastSets items name v := by
  refine ⟨fun finish => assigned_error_iff, assigned_isOk_iff, fun vars ended => ⟨?_, ?_⟩⟩
  · exact assigned_named (List.forall_mem_nil _) ended
  · intro name v
    have unset : Entries.get? [] (.text name) ≠ some v := by simp [Entries.get?]
    rw [get?_assigned ended]
    exact or_iff_left fun before => unset before.1

theorem assigned_iff_of_repeated :
    ["a=", "b=", "a="].foldlM assign [] = .ok [(.text "a", .text ""), (.text "b", .text "")] ∧
      LastSets ["a=", "b=", "a="] "a" (.text "") := by
  have ended : ["a=", "b=", "a="].foldlM assign [] =
      .ok [(.text "a", .text ""), (.text "b", .text "")] := rfl
  exact ⟨ended, (((assigned_iff _).2.2 _ ended).2 "a" (.text "")).mp rfl⟩

/-- A text may look like a day and denote none: the program ends with the error that this raises. -/
theorem assigned_fails_of_no_day :
    ["d=2024-13-45"].foldlM assign [] = .error (.crashed (.raise "ValueError" "")) := by
  have read : Yaml.read [] "2024-13-45".toList = .error (.text (.value .value)) := by
    decide +kernel
  have assigns : Assigns "d=2024-13-45" "d" "2024-13-45" := ⟨rfl, by decide, by decide⟩
  exact assigned_error_iff.mpr
    ⟨[], _, [], rfl, List.forall_mem_nil _, .noValue assigns read⟩

end RunRequest

end CommandLine

end SessionScript
