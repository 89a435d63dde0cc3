import SessionScript.Proofs.Schema.Payload

/-!
# Violations of documents

Where the violations lie that the readers of documents find. A record is looked at field by field
and items and entries one after the other, so that what lies before a violation was read.
-/

namespace SessionScript

namespace Schema

/-! ## Violations of a value itself -/

/-- The reading can only fail by the value itself, not by a part of it. -/
def FailsWhole {α : Type} (reading : Reading α) : Prop :=
  ∀ e, reading = .error e → e.location = []

namespace FailsWhole

variable {α β : Type}

theorem ok (a : α) : FailsWhole (.ok a) := nofun

theorem broken (rule : Rule) : FailsWhole (α := α) (broken rule) := by
  rintro e ⟨⟩
  rfl

theorem bind {reading : Reading α} {next : α → Reading β} (first : FailsWhole reading)
    (rest : ∀ a, FailsWhole (next a)) : FailsWhole (reading >>= next) := by
  intro e failed
  rcases bind_error failed with failed | ⟨a, -, failed⟩
  · exact first e failed
  · exact rest a e failed

theorem map {reading : Reading α} (f : α → β) (first : FailsWhole reading) :
    FailsWhole (reading.map f) := by
  intro e failed
  cases reading with
  | error e' =>
    cases failed
    exact first _ rfl
  | ok a => cases failed

end FailsWhole

theorem readText_failsWhole (v : Value) : FailsWhole (readText v) := by
  rw [readText.eq_def]
  split
  · exact .ok _
  · split
    · exact .ok _
    · exact .broken _
  · exact .broken _

theorem readOptionalText_failsWhole (v : Value) : FailsWhole (readOptionalText v) := by
  rw [readOptionalText.eq_def]
  split
  · exact .ok _
  · exact (readText_failsWhole v).map _

theorem readName_failsWhole (v : Value) : FailsWhole (readName v) := by
  refine (readText_failsWhole v).bind fun s => ?_
  split
  · exact .ok _
  · exact .broken _

theorem readNumber_failsWhole (v : Value) : FailsWhole (readNumber v) := by
  rw [readNumber.eq_def]
  split
  · exact .ok _
  · exact .ok _
  · split
    · exact .ok _
    · exact .broken _
  · split
    · exact .ok _
    · exact .broken _
  · split
    · exact .ok _
    · exact .broken _
  · exact .broken _

theorem readDuration_failsWhole (v : Value) : FailsWhole (readDuration v) := by
  refine (readNumber_failsWhole v).bind fun x => ?_
  split
  · exact .broken _
  · exact .ok _

theorem flagOfInt_failsWhole (i : Int) : FailsWhole (flagOfInt i) := by
  rw [flagOfInt]
  split
  · exact .ok _
  · split
    · exact .ok _
    · exact .broken _

theorem flagOfWord_failsWhole (s : String) : FailsWhole (flagOfWord s) := by
  rw [flagOfWord]
  split
  · exact .ok _
  · split
    · exact .ok _
    · exact .broken _

theorem readFlag_failsWhole (v : Value) : FailsWhole (readFlag v) := by
  rw [readFlag.eq_def]
  split
  · exact .ok _
  · exact flagOfInt_failsWhole _
  · split
    · exact flagOfInt_failsWhole _
    · exact .broken _
  · exact flagOfWord_failsWhole _
  · split
    · exact flagOfWord_failsWhole _
    · exact .broken _
  · exact .broken _

/-! ## Violations of parts -/

section Parts

variable {α : Type} {read : Value → Reading α} {es : Entries} {e : Violation}

theorem under_error {key : Key} {part : Reading α} (failed : under key part = .error e) :
    ∃ e', part = .error e' ∧ e.location = key :: e'.location := by
  cases part with
  | error e' =>
    cases failed
    exact ⟨e', rfl, rfl⟩
  | ok a => cases failed

theorem readRecord_ok {name : String} {v : Value} (record : readRecord name v = .ok es) :
    v = .dict es := by
  cases v <;> cases record
  rfl

/-- A field that has to be there is missing, or its value is not read. -/
theorem required_error {name : String} (failed : required es name read = .error e) :
    es.get? (.text name) = none ∧ e.location = [.name name] ∨
      ∃ v e', es.get? (.text name) = some v ∧ read v = .error e' ∧
        e.location = .name name :: e'.location := by
  rw [required] at failed
  split at failed
  · obtain ⟨e', failed, located⟩ := under_error failed
    exact .inr ⟨_, e', ‹_›, failed, located⟩
  · obtain ⟨e', failed, located⟩ := under_error failed
    cases failed
    exact .inl ⟨‹_›, located⟩

theorem present?_some {names : List String} {name : String}
    (present : present? es names = some name) :
    name ∈ names ∧ (es.get? (.text name)).isSome :=
  ⟨List.mem_of_find?_eq_some present, List.find?_some (p := fun n => es.has (.text n)) present⟩

/-- The value of a field that may be missing is not read. -/
theorem optional_error {names : List String} {default : α}
    (failed : optional es names default read = .error e) :
    ∃ name ∈ names, ∃ v e', es.get? (.text name) = some v ∧ read v = .error e' ∧
      e.location = .name name :: e'.location := by
  rw [optional] at failed
  split at failed
  · rename_i name present
    obtain ⟨among, there⟩ := present?_some present
    refine ⟨name, among, ?_⟩
    rcases required_error failed with ⟨missing, -⟩ | found
    · rw [missing] at there
      cases there
    · exact found
  · cases failed

/-- A field of a record is missing, or its value is read. -/
def Allows (es : Entries) (name : String) (read : Value → Reading α) : Prop :=
  ∀ v, es.get? (.text name) = some v → ∃ a, read v = .ok a

theorem optional_ok_iff {name : String} {default : α} :
    (∃ a, optional es [name] default read = .ok a) ↔ Allows es name read := by
  cases found : es.get? (.text name) with
  | none => simp [Allows, optional, present?, Entries.has, found]
  | some v =>
    have present : optional es [name] default read = under (.name name) (read v) := by
      simp [optional, present?, Entries.has, required, found]
    rw [present]
    cases reading : read v with
    | error e =>
      refine iff_of_false ?_ ?_
      · rintro ⟨a, read⟩
        cases read
      · intro allows
        obtain ⟨a, read⟩ := allows v found
        rw [reading] at read
        cases read
    | ok a =>
      refine iff_of_true ⟨a, rfl⟩ ?_
      intro w there
      cases found.symm.trans there
      exact ⟨a, reading⟩

theorem noExtras_error {names : List String} (failed : noExtras names es = .error e) :
    ∃ key, e.location = [key] := by
  induction es with
  | nil => cases failed
  | cons entry es ih =>
    obtain ⟨k, v⟩ := entry
    rw [noExtras.eq_def] at failed
    split at failed
    · cases ‹_ :: _ = _›
    · cases ‹_ :: _ = _›
      split at failed
      · exact ih failed
      · cases failed
        exact ⟨_, rfl⟩
    · cases ‹_ :: _ = _›
      cases failed
      exact ⟨_, rfl⟩

/-- A record whose fields are read can still have a key that is no field. -/
theorem extras_error {names : List String} {a : α}
    (failed : (do noExtras names es; return a) = Except.error e) : ∃ key, e.location = [key] := by
  rcases bind_error failed with failed | ⟨-, -, failed⟩
  · exact noExtras_error failed
  · cases failed

/-- Some item is not read and those before it are. -/
theorem readItemsFrom_error {n : Nat} {xs : List Value}
    (failed : readItemsFrom read n xs = .error e) :
    ∃ front v back e', xs = front ++ v :: back ∧ (∀ w ∈ front, ∃ a, read w = .ok a) ∧
      read v = .error e' ∧ e.location = .index (n + front.length : Nat) :: e'.location := by
  induction xs generalizing n with
  | nil => cases failed
  | cons v vs ih =>
    rcases bind_error failed with failed | ⟨a, first, failed⟩
    · obtain ⟨e', failed, located⟩ := under_error failed
      exact ⟨[], v, vs, e', rfl, List.forall_mem_nil _, failed, located⟩
    · rcases bind_error failed with failed | ⟨as, -, failed⟩
      · obtain ⟨front, w, back, e', rfl, before, failed, located⟩ := ih failed
        refine ⟨v :: front, w, back, e', rfl,
          List.forall_mem_cons.mpr ⟨⟨a, under_ok first⟩, before⟩, failed, ?_⟩
        rw [located, List.length_cons, Nat.add_right_comm, Nat.add_assoc]
      · cases failed

theorem readItemsFrom_ok {n : Nat} {xs : List Value} {as : List α}
    (items : readItemsFrom read n xs = .ok as) : ∀ v ∈ xs, ∃ a, read v = .ok a := by
  induction xs generalizing n as with
  | nil => exact List.forall_mem_nil _
  | cons v vs ih =>
    obtain ⟨a, first, items⟩ := bind_ok items
    obtain ⟨as, rest, -⟩ := bind_ok items
    exact List.forall_mem_cons.mpr ⟨⟨a, under_ok first⟩, ih rest⟩

/-- The key of an entry is no name or its value is not read, and the values before it are. -/
theorem readNamed_error (failed : readNamed read es = .error e) :
    ∃ front k v back, es = front ++ (k, v) :: back ∧ (∀ w ∈ front, ∃ a, read w.2 = .ok a) ∧
      (e.location = [Key.ofValue k, .name "[key]"] ∨
        ∃ name e', readName k = .ok name ∧ read v = .error e' ∧
          e.location = Key.ofValue k :: e'.location) := by
  induction es with
  | nil => cases failed
  | cons entry es ih =>
    obtain ⟨k, v⟩ := entry
    rcases bind_error failed with failed | ⟨name, named, failed⟩
    · obtain ⟨e', failed, located⟩ := under_error failed
      obtain ⟨e'', failed, located'⟩ := under_error failed
      rw [located', readName_failsWhole k e'' failed] at located
      exact ⟨[], k, v, es, rfl, List.forall_mem_nil _, .inl located⟩
    · rcases bind_error failed with failed | ⟨a, first, failed⟩
      · obtain ⟨e', failed, located⟩ := under_error failed
        exact ⟨[], k, v, es, rfl, List.forall_mem_nil _,
          .inr ⟨name, e', under_ok (under_ok named), failed, located⟩⟩
      · rcases bind_error failed with failed | ⟨as, -, failed⟩
        · obtain ⟨front, k', w, back, rfl, before, either⟩ := ih failed
          exact ⟨(k, v) :: front, k', w, back, rfl,
            List.forall_mem_cons.mpr ⟨⟨a, under_ok first⟩, before⟩, either⟩
        · cases failed

end Parts

theorem readValue_error {v : Value} {e : Violation} (failed : readValue v = .error e) :
    e.location = [.name "str"] := by
  rw [readValue] at failed
  split at failed
  · cases failed
  · cases failed
    rfl

end Schema

open Schema

/-! ## Violations of steps -/

theorem StepKind.ofValue?_some {v : Value} {kind : StepKind} (known : ofValue? v = some kind) :
    ∃ (es : Entries) (w : Value), v = .dict es ∧ es.get? (.text kind.name) = some w := by
  rw [ofValue?.eq_def] at known
  split at known
  · rename_i es
    split at known
    · rename_i only
      cases known
      have among := (List.mem_filter.mp (only ▸ List.mem_singleton_self kind)).2
      obtain ⟨w, found⟩ := Option.isSome_iff_exists.mp among
      exact ⟨es, w, rfl, found⟩
    · cases known
  · cases known

/-- The locations of violations in a step of a kind, below the label of the kind, where a value
    stands under the key of the kind. -/
inductive Step.Breaks (kind : StepKind) (w : Value) : List Key → Prop where
  /-- The value under the key of the kind, or a key that does not belong to the step. -/
  | here (key : Key) : Breaks kind w [key]
  /-- No payload; the violation is that of the first form of payloads. -/
  | payload (sends : kind = .send) : Breaks kind w [.name kind.name, .name "str"]
  /-- A key of the parameters of a connection. -/
  | parameter (connects : kind = .connect) {ws : Entries} (mapping : w = .dict ws) (key : Key) :
    Breaks kind w [.name kind.name, key]

theorem readAddress_error {w : Value} {e : Violation} (failed : readAddress w = .error e) :
    e.location = [] ∨ ∃ ws key, w = .dict ws ∧ e.location = [key] := by
  rcases bind_error failed with failed | ⟨ws, record, failed⟩
  · cases w <;> cases failed
    all_goals exact .inl rfl
  · have mapping := readRecord_ok record
    rcases bind_error failed with failed | ⟨url, -, failed⟩
    · rcases required_error failed with ⟨-, located⟩ | ⟨v, e', -, failed, located⟩
      · exact .inr ⟨ws, _, mapping, located⟩
      · rw [readText_failsWhole v e' failed] at located
        exact .inr ⟨ws, _, mapping, located⟩
    · obtain ⟨key, located⟩ := extras_error failed
      exact .inr ⟨ws, key, mapping, located⟩

theorem Payload.ofValue_error {w : Value} {e : Violation} (failed : Payload.ofValue w = .error e) :
    e.location = [.name "str"] := by
  rw [Payload.ofValue.eq_def] at failed
  split at failed
  · cases failed
  · cases failed
  · split at failed
    · cases failed
    · cases failed
      rfl

theorem Step.ofKind_error {kind : StepKind} {es : Entries} {w : Value} {e : Violation}
    (found : es.get? (.text kind.name) = some w)
    (failed : Step.ofKind kind (.dict es) = .error e) : Step.Breaks kind w e.location := by
  -- a violation in the field, or else in a key that does not belong to the step
  have broken {α : Type} {read : Value → Reading α} {make : α → Step}
      (failed : (do
        let step ← (required es kind.name read).map make
        noExtras [kind.name] es
        return step) = Except.error e) :
      (∃ e', read w = .error e' ∧ e.location = .name kind.name :: e'.location) ∨
        ∃ key, e.location = [key] := by
    rcases reading : required es kind.name read with e' | a
    · rw [reading] at failed
      cases failed
      rcases required_error reading with ⟨missing, -⟩ | ⟨v, e', there, failed, located⟩
      · rw [found] at missing
        cases missing
      · obtain rfl := Option.some.inj (found.symm.trans there)
        exact .inl ⟨e', failed, located⟩
    · rw [reading] at failed
      exact .inr (extras_error failed)
  rcases bind_error failed with failed | ⟨ds, record, failed⟩
  · cases failed
  cases record
  cases kind with
  | think =>
    rcases broken failed with ⟨e', failed, located⟩ | ⟨key, located⟩
    · rw [located, readDuration_failsWhole w e' failed]
      exact .here _
    · rw [located]
      exact .here key
  | connect =>
    rcases broken failed with ⟨e', failed, located⟩ | ⟨key, located⟩
    · rw [located]
      rcases readAddress_error failed with whole | ⟨ws, key, mapping, part⟩
      · rw [whole]
        exact .here _
      · rw [part]
        exact .parameter rfl mapping key
    · rw [located]
      exact .here key
  | send =>
    rcases broken failed with ⟨e', failed, located⟩ | ⟨key, located⟩
    · rw [located, Payload.ofValue_error failed]
      exact .payload rfl
    · rw [located]
      exact .here key

/-- A step that is not read has no kind, or it is broken below the label of its kind. -/
theorem Step.ofValue_error {v : Value} {e : Violation} (failed : Step.ofValue v = .error e) :
    e.location = [] ∨ ∃ (kind : StepKind) (es : Entries) (w : Value) (q : List Key),
      StepKind.ofValue? v = some kind ∧ v = .dict es ∧ es.get? (.text kind.name) = some w ∧
        Step.Breaks kind w q ∧ e.location = .name kind.name :: q := by
  rw [Step.ofValue] at failed
  split at failed
  · rename_i kind known
    obtain ⟨e', failed, located⟩ := under_error failed
    obtain ⟨es, w, rfl, found⟩ := StepKind.ofValue?_some known
    exact .inr ⟨kind, es, w, _, known, rfl, found, Step.ofKind_error found failed, located⟩
  · cases failed
    exact .inl rfl

/-! ## Violations of configurations -/

theorem readParams_error {v : Value} {e : Violation} (failed : readParams v = .error e) :
    e.location = [] ∨ ∃ key, e.location = [key] := by
  rw [readParams] at failed
  split at failed
  · obtain ⟨front, w, back, e', -, -, failed, located⟩ := readItemsFrom_error failed
    rw [readName_failsWhole w e' failed] at located
    exact .inr ⟨_, located⟩
  · cases failed
    exact .inl rfl

theorem FunctionDefinition.ofValue_error {v : Value} {e : Violation}
    (failed : FunctionDefinition.ofValue v = .error e) :
    e.location = [] ∨ (∃ ds, v = .dict ds) ∧
      ∃ key, e.location = [key] ∨ e.location = [.name "params", key] := by
  rcases bind_error failed with failed | ⟨ds, record, failed⟩
  · cases v <;> cases failed
    all_goals exact .inl rfl
  · refine .inr ⟨⟨ds, readRecord_ok record⟩, ?_⟩
    rcases bind_error failed with failed | ⟨params, -, failed⟩
    · obtain ⟨name, among, w, e', -, failed, located⟩ := optional_error failed
      obtain rfl := List.mem_singleton.mp among
      rcases readParams_error failed with whole | ⟨key, part⟩
      · exact ⟨_, .inl (whole ▸ located)⟩
      · exact ⟨key, .inr (part ▸ located)⟩
    · rcases bind_error failed with failed | ⟨code, -, failed⟩
      · rcases required_error failed with ⟨-, located⟩ | ⟨w, e', -, failed, located⟩
        · exact ⟨_, .inl located⟩
        · rw [readText_failsWhole w e' failed] at located
          exact ⟨_, .inl located⟩
      · obtain ⟨key, located⟩ := extras_error failed
        exact ⟨key, .inl located⟩

/-- The locations of violations in the configuration of a scenario. -/
inductive Config.Breaks (v : Value) : List Key → Prop where
  /-- The configuration as a whole. -/
  | whole : Breaks v []
  /-- The value of a field, or a key that is no field. -/
  | field (key : Key) : Breaks v [key]
  /-- The definition of a function. -/
  | function (key : Key) : Breaks v [.name "functions", key]
  /-- The name or the value of a variable, or the name of a function. -/
  | label (field : String) (among : field ∈ ["vars", "variables", "functions"]) (key : Key)
    (label : String) : Breaks v [.name field, key, .name label]
  /-- A part of the definition of a function. If the function is called as the list of steps is,
      a mapping stands under that name. -/
  | part {cs fs : Entries} (mapping : v = .dict cs)
    (functions : cs.get? (.text "functions") = some (.dict fs)) (key : Key)
    (definition : key = .name "scenario" → ∃ ds, fs.get? (.text "scenario") = some (.dict ds))
    (last : Key) (q : List Key) (below : q = [last] ∨ q = [.name "params", last]) :
    Breaks v (.name "functions" :: key :: q)

/-- Among the keys that are read as names, only the text itself is shown as the name of the list of
    steps: bytes are shown as such. -/
theorem eq_scenario_of_shown {k : Value} {s : String} (read : readName k = .ok s)
    (shown : Key.ofValue k = .name "scenario") : k = .text "scenario" := by
  obtain ⟨t, text, -⟩ := bind_ok read
  cases k with
  | text s => exact congrArg Value.text (Key.name.inj shown)
  | bytes b =>
    have marked : Key.ofValue (.bytes b) = .name (Text.quotedBytes b) := rfl
    rw [marked, Key.name.injEq, Text.quotedBytes] at shown
    have same := congrArg (fun s => s.toList.head?) shown
    simp at same
  | _ => cases text

/-- If a part of a definition is broken, a mapping stands under the name of the function. -/
theorem definition_of_split {front back : Entries} {v : Value} {name : String}
    (before : ∀ d ∈ front, ∃ f, FunctionDefinition.ofValue d.2 = .ok f)
    (mapping : ∃ ds, v = .dict ds) :
    ∃ ds, Entries.get? (front ++ (.text name, v) :: back) (.text name) = some (.dict ds) := by
  rw [Entries.get?_append]
  cases found : front.get? (.text name) with
  | some w =>
    obtain ⟨k, among⟩ := Entries.mem_of_get? found
    obtain ⟨f, read⟩ := before _ among
    obtain ⟨ds, record, -⟩ := bind_ok read
    exact ⟨ds, congrArg some (readRecord_ok record)⟩
  | none =>
    obtain ⟨ds, rfl⟩ := mapping
    exact ⟨ds, by simp [Entries.get?, Value.sameKey]⟩

/-- A value under a name or the name itself is not read. -/
theorem readNames_error {α : Type} {read : Value → Reading α} {v : Value} {e : Violation}
    (failed : readNames read v = .error e) :
    e.location = [] ∨ ∃ es, v = .dict es ∧ readNamed read es = .error e := by
  cases v with
  | dict es => exact .inr ⟨es, rfl, failed⟩
  | _ =>
    cases failed
    exact .inl rfl

theorem Config.ofValue_error {v : Value} {e : Violation} (failed : Config.ofValue v = .error e) :
    Config.Breaks v e.location := by
  rcases bind_error failed with failed | ⟨cs, record, failed⟩
  · cases v <;> cases failed
    all_goals exact .whole
  have mapping := readRecord_ok record
  rcases bind_error failed with failed | ⟨target, -, failed⟩
  · obtain ⟨name, -, w, e', -, failed, located⟩ := optional_error failed
    rw [located, readText_failsWhole w e' failed]
    exact .field _
  rcases bind_error failed with failed | ⟨defers, -, failed⟩
  · obtain ⟨name, -, w, e', -, failed, located⟩ := optional_error failed
    rw [located, readFlag_failsWhole w e' failed]
    exact .field _
  rcases bind_error failed with failed | ⟨vars, -, failed⟩
  · obtain ⟨name, among, w, e', -, failed, located⟩ := optional_error failed
    rw [located]
    have among : name ∈ ["vars", "variables", "functions"] :=
      List.mem_append_left ["functions"] among
    rcases readNames_error failed with whole | ⟨vs, -, failed⟩
    · rw [whole]
      exact .field _
    · obtain ⟨front, k, u, back, -, -, key | ⟨s, e'', -, failed, value⟩⟩ := readNamed_error failed
      · rw [key]
        exact .label name among _ _
      · rw [value, readValue_error failed]
        exact .label name among _ _
  rcases bind_error failed with failed | ⟨functions, -, failed⟩
  · obtain ⟨name, among, w, e', found, failed, located⟩ := optional_error failed
    obtain rfl := List.mem_singleton.mp among
    rw [located]
    rcases readNames_error failed with whole | ⟨fs, rfl, failed⟩
    · rw [whole]
      exact .field _
    · obtain ⟨front, k, u, back, rfl, before, key | ⟨s, e'', named, failed, value⟩⟩ :=
        readNamed_error failed
      · rw [key]
        exact .label "functions" (by simp) _ _
      · rw [value]
        rcases FunctionDefinition.ofValue_error failed with whole | ⟨record, last, below⟩
        · rw [whole]
          exact .function _
        · refine .part mapping found _ (fun shown => ?_) last _ below
          obtain rfl := eq_scenario_of_shown named shown
          exact definition_of_split before record
  obtain ⟨key, located⟩ := extras_error failed
  rw [located]
  exact .field key

/-! ## Violations of scenarios -/

theorem readSteps_ok {v : Value} {steps : { steps : List Step // steps ≠ [] }}
    (read : readSteps v = .ok steps) :
    ∃ xs, items? v = some xs ∧ ∀ x ∈ xs, ∃ step, Step.ofValue x = .ok step := by
  rw [readSteps] at read
  split at read
  · obtain ⟨steps, each, -⟩ := bind_ok read
    exact ⟨_, ‹_›, readItemsFrom_ok each⟩
  · cases read

/-- Steps are broken in the first step that is not read, or as a whole if every step is read. -/
theorem readSteps_error {v : Value} {e : Violation} (failed : readSteps v = .error e) :
    (e.location = [] ∧ ∀ xs, items? v = some xs → ∀ x ∈ xs, ∃ step, Step.ofValue x = .ok step) ∨
      ∃ front x back e', items? v = some (front ++ x :: back) ∧
        (∀ w ∈ front, ∃ step, Step.ofValue w = .ok step) ∧ Step.ofValue x = .error e' ∧
          e.location = .index front.length :: e'.location := by
  rw [readSteps] at failed
  split at failed
  · rename_i xs items
    rcases bind_error failed with failed | ⟨steps, each, failed⟩
    · obtain ⟨front, x, back, e', rfl, before, failed, located⟩ := readItemsFrom_error failed
      rw [Nat.zero_add] at located
      exact .inr ⟨front, x, back, e', items, before, failed, located⟩
    · split at failed
      · cases failed
        refine .inl ⟨rfl, fun ys items' => ?_⟩
        cases items.symm.trans items'
        exact readItemsFrom_ok each
      · cases failed
  · rename_i other
    cases failed
    exact .inl ⟨rfl, fun xs items => absurd (other.symm.trans items) nofun⟩

namespace Scenario

variable {es : Entries} {e : Violation}

/-- The title, the description and the configuration of a scenario are read or missing. -/
structure HeadIsValid (es : Entries) : Prop where
  title : Allows es "title" readOptionalText
  description : Allows es "description" readOptionalText
  config : Allows es "config" Config.ofValue

theorem ofValue_ok {s : Scenario} (read : ofValue (.dict es) = .ok s) :
    HeadIsValid es ∧ Allows es "scenario" readSteps := by
  obtain ⟨_, record, read⟩ := bind_ok read
  cases record
  obtain ⟨title, titled, read⟩ := bind_ok read
  obtain ⟨description, described, read⟩ := bind_ok read
  obtain ⟨config, configured, read⟩ := bind_ok read
  obtain ⟨steps, found, read⟩ := bind_ok read
  refine ⟨⟨optional_ok_iff.mp ⟨_, titled⟩, optional_ok_iff.mp ⟨_, described⟩,
    optional_ok_iff.mp ⟨_, configured⟩⟩, fun v there => ?_⟩
  obtain ⟨w, there', read⟩ := required_ok found
  rw [there] at there'
  cases there'
  exact ⟨_, read⟩

/-- What is broken first in a document: the title, the description or the configuration, or, if
    they are valid, the steps or at last a key of the document. -/
theorem ofValue_error (failed : ofValue (.dict es) = .error e) :
    (¬ HeadIsValid es ∧ (e.location = [.name "title"] ∨ e.location = [.name "description"] ∨
      ∃ v q, es.get? (.text "config") = some v ∧ Config.Breaks v q ∧
        e.location = .name "config" :: q)) ∨
    (HeadIsValid es ∧ ((∃ v e', es.get? (.text "scenario") = some v ∧ readSteps v = .error e' ∧
        e.location = .name "scenario" :: e'.location) ∨
      (Allows es "scenario" readSteps ∧ ∃ key, e.location = [key]))) := by
  have refused {α : Type} {name : String} {default : α} {read : Value → Reading α}
      (failed : optional es [name] default read = .error e) : ¬ Allows es name read := by
    intro allows
    obtain ⟨a, read⟩ := optional_ok_iff.mpr allows
    rw [read] at failed
    cases failed
  rcases bind_error failed with failed | ⟨_, record, failed⟩
  · cases failed
  cases record
  rcases bind_error failed with failed | ⟨title, titled, failed⟩
  · obtain ⟨name, among, v, e', -, unread, located⟩ := optional_error failed
    obtain rfl := List.mem_singleton.mp among
    rw [readOptionalText_failsWhole v e' unread] at located
    exact .inl ⟨fun head => refused failed head.title, .inl located⟩
  rcases bind_error failed with failed | ⟨description, described, failed⟩
  · obtain ⟨name, among, v, e', -, unread, located⟩ := optional_error failed
    obtain rfl := List.mem_singleton.mp among
    rw [readOptionalText_failsWhole v e' unread] at located
    exact .inl ⟨fun head => refused failed head.description, .inr (.inl located)⟩
  rcases bind_error failed with failed | ⟨config, configured, failed⟩
  · obtain ⟨name, among, v, e', found, unread, located⟩ := optional_error failed
    obtain rfl := List.mem_singleton.mp among
    exact .inl ⟨fun head => refused failed head.config,
      .inr (.inr ⟨v, _, found, Config.ofValue_error unread, located⟩)⟩
  refine .inr ⟨⟨optional_ok_iff.mp ⟨_, titled⟩, optional_ok_iff.mp ⟨_, described⟩,
    optional_ok_iff.mp ⟨_, configured⟩⟩, ?_⟩
  rcases bind_error failed with failed | ⟨steps, found, failed⟩
  · rcases required_error failed with ⟨missing, located⟩ | broken
    · exact .inr ⟨fun v there => absurd (missing.symm.trans there) nofun, _, located⟩
    · exact .inl broken
  · obtain ⟨v, there, read⟩ := required_ok found
    refine .inr ⟨fun w there' => ?_, extras_error failed⟩
    rw [there] at there'
    cases there'
    exact ⟨_, read⟩

end Scenario

end SessionScript
