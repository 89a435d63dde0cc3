import SessionScript.Proofs.Schema.Violations
import SessionScript.Schema.Report

/-!
# Trails and steps

A trail is followed component by component. It enters a step only where it moves on from a list
that it found under the key of the steps, so that a report names the first step that is not read,
and no step if what comes before the steps is broken, whatever the names in it are.
-/

namespace SessionScript

namespace Schema

/-! ## Moves -/

/-- The part of a value under a key: an entry of a mapping or an item of a list. -/
def part? (v : Value) (key : Key) : Option Value :=
  match v, key with
  | .dict es, key => Entries.get? es key.value
  | .list xs, .index i | .tuple xs, .index i => if 0 ≤ i then xs[i.toNat]? else none
  | _, _ => none

/-- Whether a value is a list of items with indices. -/
def isSequence : Value → Bool
  | .list _ | .tuple _ => true
  | _ => false

@[simp] theorem part?_dict (es : Entries) (key : Key) :
    part? (.dict es) key = es.get? key.value := by
  cases key <;> rfl

namespace Trail

/-- The step that a trail is in after a move. -/
def stepAt (t : Trail) (key : Key) : Option Int :=
  match isSequence t.reached, key with
  | true, .index i => if t.lastKey == some (.name "scenario") then some i else t.step
  | _, _ => t.step

/-- Moves to the part under a key, if there is one. -/
def move (t : Trail) (key : Key) : Trail :=
  match part? t.reached key with
  | some v => ⟨t.reached, v, some key, t.stepAt key⟩
  | none => t

theorem move_some {t : Trail} {key : Key} {v : Value} (found : part? t.reached key = some v) :
    t.move key = ⟨t.reached, v, some key, t.stepAt key⟩ := by
  rw [move, found]

theorem move_none {t : Trail} {key : Key} (missing : part? t.reached key = none) :
    t.move key = t := by
  rw [move, missing]

/-- Where a value has no parts a trail stays. -/
theorem foldl_move_eq {t : Trail} (leaf : ∀ key, part? t.reached key = none) (keys : List Key) :
    keys.foldl move t = t := by
  induction keys with
  | nil => rfl
  | cons key keys ih => rw [List.foldl_cons, move_none (leaf key), ih]

/-- A location is followed move by move. -/
theorem follow_eq_foldl (t : Trail) (keys : List Key) : t.follow keys = keys.foldl move t := by
  induction keys generalizing t with
  | nil => rfl
  | cons key keys ih =>
    obtain ⟨container, reached, lastKey, step⟩ := t
    cases reached with
    | list xs | tuple xs =>
      cases key with
      | name s => exact ih _
      | index i =>
        rw [List.foldl_cons, ← ih, follow, move]
        simp only [part?, stepAt, isSequence]
        cases (if 0 ≤ i then xs[i.toNat]? else none) <;> rfl
    | dict es =>
      rw [List.foldl_cons, ← ih, follow, move]
      simp only [part?_dict, stepAt, isSequence]
      cases Entries.get? es key.value <;> rfl
    | _ => exact (foldl_move_eq (fun key => by cases key <;> rfl) _).symm

/-! ## Steps that a trail enters -/

/-- The trail does not stand at a list under the key of the steps. -/
def IsOutside (t : Trail) : Prop :=
  t.lastKey = some (.name "scenario") → isSequence t.reached = false

/-- A name leads into no step. -/
theorem step_move_name (t : Trail) (s : String) : (t.move (.name s)).step = t.step := by
  rw [move]
  split
  · simp only [stepAt]
    split
    · cases ‹Key.name s = _›
    · rfl
  · rfl

namespace IsOutside

variable {t : Trail}

theorem of_lastKey {key : Key} (last : t.lastKey = some key) (other : key ≠ .name "scenario") :
    t.IsOutside := by
  intro same
  rw [last] at same
  exact absurd (Option.some.inj same) other

theorem step_move (outside : t.IsOutside) (key : Key) : (t.move key).step = t.step := by
  rw [Trail.move]
  split
  · simp only [stepAt]
    split
    · rename_i sequence _
      rw [if_neg]
      intro same
      rw [outside (eq_of_beq same)] at sequence
      cases sequence
    · rfl
  · rfl

theorem move (outside : t.IsOutside) {key : Key} (other : key ≠ .name "scenario") :
    (t.move key).IsOutside := by
  rw [Trail.move]
  split
  · exact of_lastKey rfl other
  · exact outside

/-- Behind the key of the steps a list must be left by an index for a step to be entered. -/
theorem step_foldl (outside : t.IsOutside) {keys : List Key}
    (others : Key.name "scenario" ∉ keys.dropLast) : (keys.foldl Trail.move t).step = t.step := by
  induction keys generalizing t with
  | nil => rfl
  | cons key keys ih =>
    cases keys with
    | nil => exact outside.step_move key
    | cons next keys =>
      rw [List.dropLast_cons_cons, List.mem_cons, not_or] at others
      exact (ih (outside.move (Ne.symm others.1)) others.2).trans (outside.step_move key)

end IsOutside

end Trail

/-- No step is entered on the way to a violation in the configuration. -/
theorem step_of_config {v : Value} {q : List Key} (breaks : Config.Breaks v q) {t : Trail}
    (reached : t.reached = v) (last : t.lastKey = some (.name "config")) :
    (q.foldl Trail.move t).step = t.step := by
  have outside := Trail.IsOutside.of_lastKey last (by decide)
  cases breaks with
  | whole => rfl
  | field key => exact outside.step_move key
  | function key => exact outside.step_foldl (by simp)
  | label field among key label =>
    have other : Key.name field ≠ .name "scenario" := by
      rintro ⟨⟩
      simp at among
    exact (Trail.step_move_name _ label).trans
      (((outside.move other).step_move key).trans (outside.step_move _))
  | @part cs fs mapping functions key definition last q below =>
    have found : part? t.reached (.name "functions") = some (.dict fs) := by
      rw [reached, mapping, part?_dict]
      exact functions
    have entered := outside.move (by decide : Key.name "functions" ≠ .name "scenario")
    have same := outside.step_move (.name "functions")
    -- where the function is called as the list of steps is, the trail stands at its definition
    have within : ((t.move (.name "functions")).move key).IsOutside := by
      by_cases shared : key = .name "scenario"
      · obtain ⟨ds, defined⟩ := definition shared
        subst shared
        rw [Trail.move_some found, Trail.move_some ((part?_dict _ _).trans defined)]
        exact fun _ => rfl
      · exact entered.move shared
    refine (within.step_foldl ?_).trans ((entered.step_move key).trans same)
    rcases below with rfl | rfl <;> simp

/-- Only the last component of a violation in a step can be called as the list of steps is. -/
theorem not_mem_of_step {x : Value} {e : Violation} (failed : Step.ofValue x = .error e) :
    Key.name "scenario" ∉ e.location.dropLast := by
  rcases Step.ofValue_error failed with whole | ⟨kind, es, w, q, -, -, -, breaks, located⟩
  · simp [whole]
  · rw [located]
    cases breaks <;> cases kind <;> simp [StepKind.name]

/-- The trail of a violation in an item of the list of steps enters that step. -/
theorem step_of_steps {es : Entries} {front back : List Value} {x : Value} {e : Violation}
    (found : es.get? (.text "scenario") = some (.list (front ++ x :: back)))
    (failed : Step.ofValue x = .error e) :
    ((.name "scenario" :: .index front.length :: e.location).foldl Trail.move
      { container := .dict es, reached := .dict es }).step = some (front.length : Int) := by
  have item : part? (.list (front ++ x :: back)) (.index front.length) = some x := by
    simp [part?]
  rw [List.foldl_cons, Trail.move_some ((part?_dict _ _).trans found), List.foldl_cons,
    Trail.move_some item]
  have other : Key.index front.length ≠ .name "scenario" := nofun
  exact (Trail.IsOutside.of_lastKey rfl other).step_foldl (not_mem_of_step failed)

/-- No step is entered on the way to what is broken before the steps are looked at. -/
theorem step_of_head {es : Entries} {q : List Key}
    (breaks : q = [.name "title"] ∨ q = [.name "description"] ∨
      ∃ v p, es.get? (.text "config") = some v ∧ Config.Breaks v p ∧ q = .name "config" :: p) :
    (q.foldl Trail.move { container := .dict es, reached := .dict es }).step = none := by
  rcases breaks with rfl | rfl | ⟨v, p, found, breaks, rfl⟩
  · exact Trail.step_move_name _ _
  · exact Trail.step_move_name _ _
  · rw [List.foldl_cons, Trail.move_some ((part?_dict _ _).trans found)]
    exact step_of_config breaks rfl rfl

/-! ## Reports -/

/-- The report of a violation in a document that is a mapping shows where its location leads to. -/
theorem validate_error {α : Type} {read : Value → Reading α} {es : Entries} {e : Violation}
    (failed : read (.dict es) = .error e) (nonempty : es ≠ []) (filename : Option String) :
    ∃ report, validate read (.dict es) filename = .error report ∧
      let t := e.location.foldl Trail.move { container := .dict es, reached := .dict es }
      report.place.bind Place.element = some t.element ∧ report.place.bind Place.step = t.step := by
  have filled : es.isEmpty = false := by
    cases es with
    | nil => exact absurd rfl nonempty
    | cons entry es => rfl
  rw [validate, failed]
  refine ⟨_, rfl, ?_⟩
  simp [causedBy, Violation.report, filled, Trail.follow_eq_foldl]

end Schema

open Schema

namespace Scenario

variable {es : Entries}

/-- If some step is not read, the steps are not read, because of the first step that is not. -/
theorem steps_error {xs : List Value} (broken : ∃ x ∈ xs, ∃ e, Step.ofValue x = .error e) :
    ∃ e front x back e', readSteps (.list xs) = .error e ∧ xs = front ++ x :: back ∧
      (∀ w ∈ front, ∃ step, Step.ofValue w = .ok step) ∧ Step.ofValue x = .error e' ∧
        e.location = .index front.length :: e'.location := by
  have unread : ¬ ∀ x ∈ xs, ∃ step, Step.ofValue x = .ok step := by
    intro each
    obtain ⟨x, among, e, failed⟩ := broken
    obtain ⟨step, read⟩ := each x among
    rw [read] at failed
    cases failed
  rcases read : readSteps (.list xs) with e | steps
  · rcases readSteps_error read with ⟨-, each⟩ | ⟨front, x, back, e', items, first⟩
    · exact absurd (each xs rfl) unread
    · exact ⟨e, front, x, back, e', rfl, Option.some.inj items, first⟩
  · obtain ⟨ys, items, each⟩ := readSteps_ok read
    cases items
    exact absurd each unread

/-- A document with a valid head whose steps are not read fails with what the steps fail with. -/
theorem ofValue_steps_error {v : Value} {e : Violation} (head : HeadIsValid es)
    (found : es.get? (.text "scenario") = some v) (failed : readSteps v = .error e) :
    ∃ e', ofValue (.dict es) = .error e' ∧ e'.location = .name "scenario" :: e.location := by
  have refuse : ¬ Allows es "scenario" readSteps := by
    intro allows
    obtain ⟨steps, read⟩ := allows v found
    rw [read] at failed
    cases failed
  rcases read : ofValue (.dict es) with e' | s
  · rcases ofValue_error read with
      ⟨refused, -⟩ | ⟨-, ⟨w, e'', found', failed', located⟩ | ⟨allows, -⟩⟩
    · exact absurd head refused
    · cases found.symm.trans found'
      cases failed.symm.trans failed'
      exact ⟨e', rfl, located⟩
    · exact absurd allows refuse
  · exact absurd (ofValue_ok read).2 refuse

/-- If the title, the description and the configuration of a document are valid and a step of the
    list under `scenario` is not, the report names the first step that on its own is not valid,
    whatever other keys the document has. If the title, the description or the configuration is not
    valid, the report names no step. -/
theorem reported_step (es : Entries) (filename : Option String) :
    (∀ xs, HeadIsValid es → es.get? (.text "scenario") = some (.list xs) →
      (∃ x ∈ xs, ∃ e, Step.ofValue x = .error e) →
        ∃ report i x e, validate ofValue (.dict es) filename = .error report ∧
          report.place.bind Place.step = some (i : Nat) ∧
          xs[i]? = some x ∧ Step.ofValue x = .error e ∧
          ∀ j < i, ∀ y, xs[j]? = some y → ∃ step, Step.ofValue y = .ok step) ∧
    (¬ HeadIsValid es →
      ∃ report, validate ofValue (.dict es) filename = .error report ∧
        report.place.bind Place.step = none) := by
  refine ⟨fun xs head found broken => ?_, fun refused => ?_⟩
  · obtain ⟨e, front, x, back, e', failed, rfl, before, unread, located⟩ := steps_error broken
    obtain ⟨e'', read, located'⟩ := ofValue_steps_error head found failed
    have nonempty : es ≠ [] := by
      rintro rfl
      cases found
    obtain ⟨report, reported, -, step⟩ := validate_error read nonempty filename
    rw [located', located, step_of_steps found unread] at step
    refine ⟨report, front.length, x, e', reported, step, by simp, unread, fun j below y at_j => ?_⟩
    rw [List.getElem?_append_left below] at at_j
    exact before y (List.mem_of_getElem? at_j)
  · rcases read : ofValue (.dict es) with e | s
    · have nonempty : es ≠ [] := by
        rintro rfl
        exact refused ⟨nofun, nofun, nofun⟩
      obtain ⟨report, reported, -, step⟩ := validate_error read nonempty filename
      rcases ofValue_error read with ⟨-, breaks⟩ | ⟨head, -⟩
      · exact ⟨report, reported, step.trans (step_of_head breaks)⟩
      · exact absurd head refused
    · exact absurd (ofValue_ok read).1 refused

/-- A variable, a key of a step and a function that are called as the list of steps is: the second
    step is named that is not valid, and no step for the function. -/
theorem reported_step_of_namesakes :
    let steps : List Value := [.dict [(.text "think", .int 1)],
      .dict [(.text "scenario", .list [.null]), (.text "think", .int 1)], .null]
    let es : Entries := [(.text "other", .null),
      (.text "config", .dict [(.text "vars", .dict [(.text "scenario", .list [.null])])]),
      (.text "scenario", .list steps)]
    let ds : Entries := [(.text "scenario", .list steps),
      (.text "config", .dict [(.text "functions", .dict [(.text "scenario",
        .dict [(.text "params", .list [.text "1"])])])])]
    (∃ report, validate ofValue (.dict es) none = .error report ∧
      report.place.bind Place.step = some 1) ∧
    ∃ report, validate ofValue (.dict ds) none = .error report ∧
      report.place.bind Place.step = none := by
  intro steps es ds
  constructor
  · have head : HeadIsValid es := by
      refine ⟨nofun, nofun, fun v found => ?_⟩
      cases found
      exact ⟨_, rfl⟩
    obtain ⟨report, i, x, e, reported, step, at_i, broken, before⟩ :=
      (reported_step es none).1 steps head rfl ⟨.null, by simp [steps], _, rfl⟩
    have first : i = 1 := by
      rcases Nat.lt_trichotomy i 1 with below | same | above
      · obtain rfl : i = 0 := by omega
        cases at_i
        cases broken
      · exact same
      · obtain ⟨step, read⟩ := before 1 above _ rfl
        cases read
    rw [first] at step
    exact ⟨report, reported, step⟩
  · refine (reported_step ds none).2 fun head => ?_
    obtain ⟨c, read⟩ := head.config _ rfl
    cases read

end Scenario

end SessionScript
