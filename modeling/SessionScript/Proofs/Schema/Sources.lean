import SessionScript.Proofs.Yaml.Reading

/-!
# Sources of failures

Whatever keeps the text of a source from being a scenario is a failure of the schema. It is under
the name of the source if the schema is violated, or if reading ends with a fault that has its place
in the text; an empty document, a character that no document may hold and a scalar without a value
are reported without a name.
-/

namespace SessionScript

/-- A report is about a source of this name. -/
def Report.Names {α : Type} (r : Report α) (name : String) : Prop :=
  ∃ p, r.place = some p ∧ p.filename = some name

/-- A violation is reported as a failure of the schema in the source that was read. -/
theorem Schema.Violation.exists_report (v : Violation) (document : Value)
    (filename : Option String) :
    ∃ message place, v.report document filename =
        { kind := .schema, message := message, place := some place } ∧
      place.filename = filename := by
  unfold report
  extract_lets place whole
  by_cases none : whole
  · rw [if_pos none]
    exact ⟨_, _, rfl, rfl⟩
  · rw [if_neg none]
    exact ⟨_, _, rfl, rfl⟩

/-- What is validated is accepted, or the failure names the source. -/
theorem Schema.validate_error_names {α : Type} {read : Value → Reading α} {v : Value}
    {filename : Option String} {r : Report Failure} (failed : validate read v filename = .error r) :
    r.kind = .schema ∧ ∀ name, r.Names name ↔ filename = some name := by
  rw [validate] at failed
  split at failed
  · cases failed
  · rename_i violation _
    obtain ⟨message, place, report, named⟩ := violation.exists_report v filename
    cases failed
    rw [report]
    refine ⟨rfl, fun name => ⟨?_, fun same => ⟨place, rfl, named.trans same⟩⟩⟩
    rintro ⟨p, there, under⟩
    cases there
    exact named.symm.trans under

namespace Source

variable {s : Source}

/-- The text of a source is a document of a value that is not null. -/
def Holds (s : Source) (v : Value) : Prop := v ≠ .null ∧ Yaml.read [] s.text = .ok (some v)

/-- Reading the text of a source ends with a fault that has its place in the text. -/
def StopsInText (s : Source) : Prop :=
  ∃ stage f, Yaml.read [] s.text = .error (.text (.marked stage f))

instance : Decidable s.StopsInText :=
  match read : Yaml.read [] s.text with
  | .error (.text (.marked stage f)) => isTrue ⟨stage, f, read⟩
  | .error (.text (.character _)) | .error (.text (.value _)) | .error (.tag _) | .ok _ =>
    isFalse fun ⟨_, _, stops⟩ => nomatch read.symm.trans stops

theorem value_ok_iff {v : Value} : s.value [] = .ok v ↔ s.Holds v := by
  rw [value, Holds]
  split
  · rename_i read
    simp [read]
  · rename_i read
    simp only [read, Except.ok.injEq, Option.some.injEq, reduceCtorEq, false_iff]
    rintro ⟨some, same⟩
    exact some same.symm
  · rename_i w full read
    simp only [read, Except.ok.injEq, Option.some.injEq]
    refine ⟨fun same => ⟨?_, same⟩, And.right⟩
    rintro rfl
    exact full same
  · rename_i read
    simp [read]
  · rename_i read
    simp [read]

/-- The name of a source is reported with a fault in its text, unless it is empty. -/
theorem markedReport_names_iff {name : String} (known : s.filename = some name) (kind : String)
    (f : Yaml.MarkedFault) : (s.markedReport kind f).Names name ↔ name ≠ "" := by
  have reported : (s.markedReport kind f).Names name ↔ s.reportedName f.mark = some name :=
    ⟨fun ⟨p, there, under⟩ => by cases there; exact under, fun under => ⟨_, rfl, under⟩⟩
  rw [reported]
  unfold reportedName
  rw [known]
  by_cases empty : name = ""
  · subst empty
    have dropped : (some "").filter (· != "") = none := rfl
    rw [dropped]
    cases f.mark <;> simp [Place.unknownSource]
  · simp [empty, Option.filter]

/-- Where a source holds no value, its name is reported with a fault in its text and only then. -/
theorem value_error {r : Report Failure} (failed : s.value [] = .error r) :
    r.kind = .schema ∧ ∀ name, s.filename = some name →
      (r.Names name ↔ s.StopsInText ∧ name ≠ "") := by
  have nowhere {r : Report Failure} (kind : r.kind = .schema) (unplaced : r.place = none)
      (passes : ¬ s.StopsInText) : r.kind = .schema ∧ ∀ name, s.filename = some name →
        (r.Names name ↔ s.StopsInText ∧ name ≠ "") := by
    refine ⟨kind, fun name _ => iff_of_false ?_ fun named => passes named.1⟩
    rintro ⟨p, there, -⟩
    cases unplaced.symm.trans there
  rw [value] at failed
  split at failed
  · rename_i read
    cases failed
    exact nowhere rfl rfl fun ⟨_, _, stops⟩ => nomatch read.symm.trans stops
  · rename_i read
    cases failed
    exact nowhere rfl rfl fun ⟨_, _, stops⟩ => nomatch read.symm.trans stops
  · cases failed
  · rename_i f read
    cases failed
    cases f with
    | character c => exact nowhere rfl rfl fun ⟨_, _, stops⟩ => nomatch read.symm.trans stops
    | value e => exact nowhere rfl rfl fun ⟨_, _, stops⟩ => nomatch read.symm.trans stops
    | marked stage f =>
      exact ⟨rfl, fun name known => (markedReport_names_iff known _ f).trans
        ⟨fun named => ⟨⟨stage, f, read⟩, named⟩, And.right⟩⟩
  · rename_i e read
    obtain ⟨f, same⟩ := Yaml.read_error read
    cases same

end Source

namespace Scenario

/-- A source is read as the scenario that its document is. If it is refused, that is a failure of
    the schema, which is under the name of the source exactly if the document violates the schema,
    or if there is none because of a fault in the text; then an empty name is replaced. -/
theorem ofSource_names_iff (s : Source) :
    (∀ sc, ofSource [] s = .ok sc ↔ ∃ v, s.Holds v ∧ Scenario.ofValue v = .ok sc) ∧
      ∀ r, ofSource [] s = .error r → r.kind = .schema ∧ ∀ name, s.filename = some name →
        (r.Names name ↔ (∃ v, s.Holds v) ∨ (s.StopsInText ∧ name ≠ "")) := by
  constructor
  · intro sc
    constructor
    · intro accepted
      obtain ⟨v, held, validated⟩ := bind_ok accepted
      refine ⟨v, Source.value_ok_iff.mp held, ?_⟩
      rw [Schema.validate] at validated
      split at validated
      · rename_i read
        cases validated
        exact read
      · cases validated
    · rintro ⟨v, held, read⟩
      rw [ofSource, Source.value_ok_iff.mpr held]
      simp [Schema.validate, read, bind, Except.bind]
  · intro r failed
    rcases bind_error failed with failed | ⟨v, held, failed⟩
    · obtain ⟨kind, names⟩ := Source.value_error failed
      have none : ¬ ∃ v, s.Holds v := fun ⟨v, held⟩ =>
        nomatch failed.symm.trans (Source.value_ok_iff.mpr held)
      exact ⟨kind, fun name known => (names name known).trans
        ⟨.inr, fun named => named.resolve_left none⟩⟩
    · obtain ⟨kind, names⟩ := Schema.validate_error_names failed
      exact ⟨kind, fun name known => iff_of_true ((names name).mpr known)
        (.inl ⟨v, Source.value_ok_iff.mp held⟩)⟩

theorem ofSource_names_of_bracket :
    ∃ r, ofSource [] ⟨['['], some "f.yaml", true⟩ = .error r ∧ r.kind = .schema ∧
      r.Names "f.yaml" := by
  have stops : Source.StopsInText ⟨['['], some "f.yaml", true⟩ := by decide +kernel
  obtain ⟨stage, f, read⟩ := stops
  have failed : ofSource [] ⟨['['], some "f.yaml", true⟩ =
      .error (Source.markedReport ⟨['['], some "f.yaml", true⟩ stage.errorKind f) := by
    rw [ofSource, Source.value, read]
    rfl
  obtain ⟨kind, names⟩ := (ofSource_names_iff ⟨['['], some "f.yaml", true⟩).2 _ failed
  exact ⟨_, failed, kind, (names "f.yaml" rfl).mpr (.inr ⟨⟨stage, f, read⟩, by decide⟩)⟩

/-- An empty document is refused without a name. -/
theorem ofSource_fails_of_empty :
    ∃ r, ofSource [] ⟨[], some "f.yaml", true⟩ = .error r ∧ ¬ r.Names "f.yaml" := by
  refine ⟨_, rfl, ?_⟩
  rintro ⟨p, there, -⟩
  cases there

end Scenario

end SessionScript
