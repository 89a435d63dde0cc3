import SessionScript.Proofs.Schema.Trails

/-!
# Elements on the path of a violation

The location of a violation in a step has labels of the schema in it. Without them it is the path
of the violation in the document, and a report is expected to show what stands at the last component
of that path that the document has. But a trail takes labels for keys where there are such keys, and
the label of a step, which is its kind, is a key of the step in any case. So the trail is already in
the value under that key when it goes on. It ends where it should if the kind is no key of that
value, and a violation outside of that value is missed.
-/

namespace SessionScript

namespace Schema

/-! ## Paths in documents -/

/-- The value at the end of a path. -/
def at? (v : Value) (path : List Key) : Option Value := path.foldlM part? v

/-- A part of a value as reports show it: with its key in a mapping, or as an item. -/
def shownIn (v : Value) (key : Key) (part : Value) : Value :=
  match v with
  | .dict _ => .dict [(key.value, part)]
  | _ => .list [part]

/-- The element at the last component of a path that exists, behind an element shown so far. -/
def elementOn (shown v : Value) : List Key → Value
  | [] => shown
  | key :: path =>
    match part? v key with
    | some w => elementOn (shownIn v key w) w path
    | none => shown

/-- What is left of a location below the label of a kind of steps without the label of the form of a
    payload, which stands behind the field of the payload. -/
def withoutForm (kind : StepKind) (q : List Key) : List Key :=
  if kind = .send ∧ q = [.name kind.name, .name "str"] then [.name kind.name] else q

@[simp] theorem shownIn_dict (es : Entries) (key : Key) (part : Value) :
    shownIn (.dict es) key part = .dict [(key.value, part)] := rfl

@[simp] theorem elementOn_nil (shown v : Value) : elementOn shown v [] = shown := rfl

theorem elementOn_some {shown v w : Value} {key : Key} (found : part? v key = some w)
    (path : List Key) : elementOn shown v (key :: path) = elementOn (shownIn v key w) w path := by
  rw [elementOn, found]

theorem elementOn_none {shown v : Value} {key : Key} (missing : part? v key = none)
    (path : List Key) : elementOn shown v (key :: path) = shown := by
  rw [elementOn, missing]

theorem part?_dict_of_name {v w : Value} {s : String} (found : part? v (.name s) = some w) :
    ∃ es, v = .dict es := by
  cases v with
  | dict es => exact ⟨es, rfl⟩
  | _ => cases found

/-- Parts are smaller than what they are parts of. -/
theorem sizeOf_part? {v w : Value} {key : Key} (found : part? v key = some w) :
    sizeOf w < sizeOf v := by
  have item {xs : List Value} {i : Int}
      (found : (if 0 ≤ i then xs[i.toNat]? else none) = some w) : sizeOf w < sizeOf xs := by
    split at found
    · exact List.sizeOf_lt_of_mem (List.mem_of_getElem? found)
    · cases found
  cases v with
  | list xs | tuple xs =>
    cases key with
    | name s => cases found
    | index i =>
      have smaller := item found
      simp
      omega
  | dict es =>
    rw [part?_dict] at found
    obtain ⟨k, among⟩ := Entries.mem_of_get? found
    have smaller := List.sizeOf_lt_of_mem among
    simp at smaller ⊢
    omega
  | _ => cases key <;> cases found

/-- The element of a trail that moved on. -/
theorem Trail.element_of_part {v w : Value} {key : Key} (found : part? v key = some w)
    (step : Option Int) : (⟨v, w, some key, step⟩ : Trail).element = shownIn v key w := by
  cases v <;> first | rfl | (cases key <;> cases found)

/-- The last move of a trail ends where the path does. -/
theorem Trail.element_move (t : Trail) (key : Key) :
    (t.move key).element = elementOn t.element t.reached [key] := by
  cases found : part? t.reached key with
  | some w => rw [move_some found, elementOn_some found, element_of_part found, elementOn]
  | none => rw [move_none found, elementOn_none found]

/-! ## Keys beside a path -/

theorem Key.value_eq_text {key : Key} {s : String} (same : key.value = .text s) :
    key = .name s := by
  cases key with
  | name t => exact congrArg Key.name (Value.text.inj same)
  | index i => cases same

/-- A value and its part are not the same under one key. -/
theorem dict_part_ne {v w k : Value} {key : Key} (found : part? v key = some w) :
    Value.dict [(k, w)] ≠ .dict [(k, v)] := by
  simp only [ne_eq, Value.dict.injEq, List.cons.injEq, Prod.mk.injEq, true_and, and_true]
  rintro rfl
  exact Nat.lt_irrefl _ (sizeOf_part? found)

theorem dict_key_ne {key : Key} {s : String} (differs : key ≠ .name s) (v w : Value) :
    Value.dict [(key.value, v)] ≠ .dict [(.text s, w)] := by
  simp only [ne_eq, Value.dict.injEq, List.cons.injEq, Prod.mk.injEq, and_true, not_and]
  exact fun same => absurd (Key.value_eq_text same) differs

theorem elementOn_name_ne {shown v c w : Value} {s k : String} (differs : s ≠ k)
    (there : part? v (.name s) = some c) :
    elementOn shown v [.name s] ≠ .dict [(.text k, w)] := by
  obtain ⟨vs, rfl⟩ := part?_dict_of_name there
  rw [elementOn_some there, elementOn_nil, shownIn_dict]
  have other : Key.name s ≠ .name k := fun same => differs (Key.name.inj same)
  exact dict_key_ne other c w

/-- A trail that has taken a label for a key, and has that key and another label still before it,
    stays where it is if the value has neither as a key. -/
theorem element_of_labels {hs : Entries} {w : Value} {k s : String}
    (below : part? (.dict hs) (.name k) = some w) (differs : s ≠ k) (step : Option Int) :
    ([Key.name k, .name s].foldl Trail.move ⟨.dict hs, w, some (.name k), step⟩).element =
        .dict [(.text k, w)] ↔
      part? w (.name k) = none ∧ part? w (.name s) = none := by
  rw [List.foldl_cons, List.foldl_cons, List.foldl_nil, Trail.element_move]
  cases again : part? w (.name k) with
  | some u =>
    refine iff_of_false ?_ nofun
    rw [Trail.move_some again, Trail.element_of_part again]
    obtain ⟨ws, rfl⟩ := part?_dict_of_name again
    cases there : part? u (.name s) with
    | some c => exact elementOn_name_ne differs there
    | none =>
      rw [elementOn_none there]
      exact dict_part_ne again
  | none =>
    rw [Trail.move_none again, Trail.element_of_part below]
    cases there : part? w (.name s) with
    | some c => exact iff_of_false (elementOn_name_ne differs there) nofun
    | none =>
      rw [elementOn_none there]
      exact iff_of_true rfl ⟨rfl, rfl⟩

section Beside

variable {hs : Entries} {b fallback : Value} {k : String} {key : Key}

/-- When it goes on from the value under the key of the kind instead of the mapping that the path
    leads to, a trail shows the same if the last key is that of the kind and not one of the value as
    well, or if value and mapping happen to have the same under it. -/
theorem elementOn_beside_iff (beside : hs.get? (.text k) = some b)
    (other : fallback ≠ .dict [(.text k, b)])
    (others : key ≠ .name k → ∀ c, part? b key = some c → shownIn b key c ≠ fallback) :
    elementOn (.dict [(.text k, b)]) b [key] = elementOn fallback (.dict hs) [key] ↔
      if key = .name k then part? b key = none
      else ∃ (bs : Entries) (v : Value),
        b = .dict bs ∧ bs.get? key.value = some v ∧ part? (.dict hs) key = some v := by
  have below : part? (.dict hs) (.name k) = some b := (part?_dict _ _).trans beside
  split
  · rename_i same
    subst same
    rw [elementOn_some below, elementOn_nil, shownIn_dict]
    cases found : part? b (.name k) with
    | none => simp [elementOn_none found, Key.value]
    | some c =>
      obtain ⟨bs, rfl⟩ := part?_dict_of_name found
      rw [elementOn_some found, elementOn_nil, shownIn_dict]
      exact iff_of_false (dict_part_ne found) nofun
  · rename_i differs
    cases found : part? b key with
    | none =>
      rw [elementOn_none found]
      constructor
      · intro same
        cases there : part? (.dict hs) key with
        | none => exact absurd (same.trans (elementOn_none there [])).symm other
        | some v =>
          exact absurd (same.trans (elementOn_some there [])).symm (dict_key_ne differs v b)
      · rintro ⟨bs, v, rfl, there, -⟩
        rw [part?_dict, there] at found
        cases found
    | some c =>
      rw [elementOn_some found, elementOn_nil]
      constructor
      · intro same
        cases there : part? (.dict hs) key with
        | none =>
          rw [elementOn_none there] at same
          exact absurd same (others differs c found)
        | some v =>
          rw [elementOn_some there, elementOn_nil, shownIn_dict] at same
          cases b with
          | dict bs =>
            rw [part?_dict] at found
            simp only [shownIn_dict, Value.dict.injEq, List.cons.injEq, Prod.mk.injEq, true_and,
              and_true] at same
            subst same
            exact ⟨bs, c, rfl, found, rfl⟩
          | _ => cases same
      · rintro ⟨bs, v, rfl, there, there'⟩
        rw [part?_dict, there] at found
        cases found
        rw [elementOn_some there', elementOn_nil, shownIn_dict, shownIn_dict]

end Beside

end Schema

open Schema

/-! ## Elements of broken steps -/

theorem StepKind.name_injective {kind other : StepKind} (same : kind.name = other.name) :
    kind = other := by
  cases kind <;> cases other <;> first | rfl | exact absurd same (by decide)

/-- Items of a list are its parts. -/
theorem getElem?_of_part? {v w : Value} {xs : List Value} {i : Nat} (items : items? v = some xs)
    (found : part? v (.index i) = some w) : xs[i]? = some w := by
  cases v with
  | list ys | tuple ys =>
    cases items
    simpa [part?] using found
  | set ys => cases found
  | _ => cases items

/-- A step in which a violation lies below the label of a kind is a mapping with that kind as a key,
    and an item of a list. -/
theorem Scenario.broken_step {es : Entries} {e : Violation} {i : Nat} {kind : StepKind}
    {q : List Key} {step : Value} (failed : Scenario.ofValue (.dict es) = .error e)
    (located : e.location = .name "scenario" :: .index i :: .name kind.name :: q)
    (there : at? (.dict es) [.name "scenario", .index i] = some step) :
    ∃ (v : Value) (ds : Entries) (w : Value), es.get? (.text "scenario") = some v ∧
      (items? v).isSome ∧ part? v (.index i) = some step ∧ step = .dict ds ∧
      ds.get? (.text kind.name) = some w ∧ Step.Breaks kind w q := by
  rcases Scenario.ofValue_error failed with
    ⟨-, title | description | ⟨v, p, -, -, config⟩⟩ |
      ⟨-, ⟨v, e', found, failed, steps⟩ | ⟨-, key, extra⟩⟩
  · simp [located] at title
  · simp [located] at description
  · simp [located] at config
  · have below : e'.location = .index i :: .name kind.name :: q := by
      simpa [located] using steps.symm
    rcases readSteps_error failed with ⟨whole, -⟩ | ⟨front, x, back, e'', items, -, unread, indexed⟩
    · simp [whole] at below
    · obtain ⟨same, labelled⟩ : (front.length : Int) = i ∧ e''.location = .name kind.name :: q := by
        simpa [below] using indexed.symm
      obtain ⟨u, found', item⟩ : ∃ u, es.get? (.text "scenario") = some u ∧
          part? u (.index i) = some step := by
        simpa [at?, Option.bind_eq_some_iff, Key.value] using there
      cases found.symm.trans found'
      obtain rfl : x = step := by
        have at_i := getElem?_of_part? items item
        simpa [← Int.ofNat.inj same] using at_i
      rcases Step.ofValue_error unread with
        whole | ⟨kind', ds, w, q', -, mapping, entry, breaks, at_q⟩
      · simp [whole] at labelled
      · obtain ⟨named, rfl⟩ : kind'.name = kind.name ∧ q' = q := by
          simpa [at_q] using labelled
        cases StepKind.name_injective named
        exact ⟨v, ds, w, found, by simp [items], item, mapping, entry, breaks⟩
  · simp [located] at extra

/-- Whether a trail shows the same for the last key of a path if it goes on from another value than
    the one that the path leads to. Either that key is the kind, which the other value does not have
    as a key again, nor the label of a form if there is one behind the key; or the other value is a
    mapping that happens to have the same under that key. -/
def Step.EndsAlike (kind : StepKind) (holder other : Value) (last : Key) (labelled : Prop) : Prop :=
  if last = .name kind.name then
    part? other last = none ∧ (labelled → part? other (.name "str") = none)
  else
    ∃ (es : Entries) (v : Value),
      other = .dict es ∧ es.get? last.value = some v ∧ part? holder last = some v

/-- Below the label of its kind a step is shown as the path of the violation wants it, unless the
    value that holds the last key of the path also has the kind as a key: then it is if the trail,
    which is in the value under that key, ends alike. -/
theorem Step.element_iff {kind : StepKind} {ds : Entries} {w : Value} {q : List Key}
    (found : ds.get? (.text kind.name) = some w) (breaks : Step.Breaks kind w q)
    (step : Option Int) :
    ∃ front last holder, withoutForm kind q = front ++ [last] ∧
      at? (.dict ds) front = some holder ∧
      ((q.foldl Trail.move ⟨.dict ds, w, some (.name kind.name), step⟩).element =
          elementOn (.list [.dict ds]) (.dict ds) (withoutForm kind q) ↔
        ∀ beside, part? holder (.name kind.name) = some beside →
          Step.EndsAlike kind holder beside last (withoutForm kind q ≠ q)) := by
  have below : part? (.dict ds) (.name kind.name) = some w := (part?_dict _ _).trans found
  cases breaks with
  | here key =>
    have path : withoutForm kind [key] = [key] := by simp [withoutForm]
    refine ⟨[], key, .dict ds, path, rfl, ?_⟩
    rw [path, List.foldl_cons, List.foldl_nil, Trail.element_move, Trail.element_of_part below]
    have other : Value.list [.dict ds] ≠ .dict [(.text kind.name, w)] := nofun
    refine (elementOn_beside_iff found other ?_).trans ?_
    · -- an item of the value is smaller than the step, which it would have to be otherwise
      rintro - c there same
      cases w with
      | dict ws => cases same
      | _ =>
        simp only [shownIn, Value.list.injEq, List.cons.injEq, and_true] at same
        have smaller := sizeOf_part? below
        have smallest := sizeOf_part? there
        rw [same] at smallest
        omega
    · rw [below]
      simp [Step.EndsAlike]
  | payload sends =>
    have path : withoutForm kind [.name kind.name, .name "str"] = [.name kind.name] := by
      simp [withoutForm, sends]
    refine ⟨[], .name kind.name, .dict ds, path, rfl, ?_⟩
    have differs : "str" ≠ kind.name := by
      rw [sends]
      decide
    rw [path, elementOn_some below, elementOn_nil, shownIn_dict]
    refine (element_of_labels below differs step).trans ?_
    rw [below]
    simp [Step.EndsAlike]
  | @parameter connects ws mapping key =>
    have path : withoutForm kind [.name kind.name, key] = [.name kind.name, key] := by
      simp [withoutForm, connects]
    subst mapping
    refine ⟨[.name kind.name], key, .dict ws, path, by simp [at?, below], ?_⟩
    rw [path, elementOn_some below, List.foldl_cons, List.foldl_cons, List.foldl_nil,
      Trail.element_move]
    cases again : part? (.dict ws) (.name kind.name) with
    | none =>
      rw [Trail.move_none again, Trail.element_of_part below]
      exact iff_of_true rfl nofun
    | some b =>
      rw [Trail.move_some again, Trail.element_of_part again]
      have other := dict_part_ne (k := .text kind.name) again
      refine (elementOn_beside_iff ((part?_dict _ _).symm.trans again) other.symm ?_).trans ?_
      · rintro differs c there
        cases b with
        | dict bs => exact dict_key_ne differs c _
        | _ => exact nofun
      · simp [Step.EndsAlike]

/-- The report of a violation in a step of a kind is expected to show the element at the last
    component of the path of the violation that the document has. It does so if the mapping that the
    last key of the path belongs to has no such kind as a key; if it does, the report shows what the
    value under the kind leads to, and that is the same element just if both end alike. -/
theorem Scenario.violation_element_iff {es : Entries} {e : Violation} {i : Nat} {kind : StepKind}
    {q : List Key} {step : Value} (failed : Scenario.ofValue (.dict es) = .error e)
    (located : e.location = .name "scenario" :: .index i :: .name kind.name :: q)
    (there : at? (.dict es) [.name "scenario", .index i] = some step) (filename : Option String) :
    ∃ report front last holder,
      validate Scenario.ofValue (.dict es) filename = .error report ∧
      withoutForm kind q = front ++ [last] ∧ at? step front = some holder ∧
      (report.place.bind Place.element =
          some (elementOn (.dict es) (.dict es)
            (.name "scenario" :: .index i :: withoutForm kind q)) ↔
        ∀ beside, part? holder (.name kind.name) = some beside →
          Step.EndsAlike kind holder beside last (withoutForm kind q ≠ q)) := by
  obtain ⟨v, ds, w, found, items, item, rfl, entry, breaks⟩ :=
    Scenario.broken_step failed located there
  have nonempty : es ≠ [] := by
    rintro rfl
    cases found
  have shown : shownIn v (.index i) (.dict ds) = .list [.dict ds] := by
    cases v <;> first | rfl | cases items
  have listed := (part?_dict es (.name "scenario")).trans found
  have kept := (part?_dict ds (.name kind.name)).trans entry
  obtain ⟨report, reported, element, -⟩ := validate_error failed nonempty filename
  rw [located, List.foldl_cons, Trail.move_some listed, List.foldl_cons, Trail.move_some item,
    List.foldl_cons, Trail.move_some kept] at element
  obtain ⟨front, last, holder, path, leads, same⟩ := Step.element_iff entry breaks _
  refine ⟨report, front, last, holder, reported, path, leads, ?_⟩
  rw [element, elementOn_some listed, elementOn_some item, shown, Option.some.injEq]
  exact same

/-- A payload with a misspelled key is shown under the key of its step. -/
theorem Scenario.violation_element_of_payload :
    let payload : Value := .dict [(.text "jsn", .int 1)]
    let step : Value := .dict [(.text "send", payload)]
    let es : Entries := [(.text "scenario", .list [step])]
    ∃ report, validate Scenario.ofValue (.dict es) none = .error report ∧
      report.place.bind Place.element = some (.dict [(.text "send", payload)]) := by
  intro payload step es
  have failed : Scenario.ofValue (.dict es) = .error
      ⟨[.name "scenario", .index 0, .name "send", .name "send", .name "str"], .text⟩ := rfl
  have located : (⟨[.name "scenario", .index 0, .name "send", .name "send", .name "str"],
      .text⟩ : Violation).location = .name "scenario" :: .index (0 : Nat) ::
        .name StepKind.send.name :: [.name "send", .name "str"] := rfl
  obtain ⟨report, front, last, holder, reported, path, leads, same⟩ :=
    Scenario.violation_element_iff failed located rfl none
  have alone : [] ++ [Key.name "send"] = front ++ [last] := path
  obtain ⟨rfl, rfl⟩ : [] = front ∧ Key.name "send" = last := by
    simpa using List.append_inj' alone rfl
  cases leads
  refine ⟨report, reported, same.mpr fun beside found => ?_⟩
  cases found
  exact ⟨rfl, fun _ => rfl⟩

/-- The report of a scenario with only this step, which is broken, shows an element, but at the end
    of the path of the violation another one is wanted. -/
def Step.IsMistaken (step shown wanted : Value) : Prop :=
  let es : Entries := [(.text "scenario", .list [step])]
  ∃ (e : Violation) (kind : StepKind) (q : List Key) (report : Report Failure),
    Scenario.ofValue (.dict es) = .error e ∧
    e.location = .name "scenario" :: .index 0 :: .name kind.name :: q ∧
    validate Scenario.ofValue (.dict es) none = .error report ∧
    report.place.bind Place.element = some shown ∧
    elementOn (.dict es) (.dict es) (.name "scenario" :: .index 0 :: withoutForm kind q) = wanted ∧
    shown ≠ wanted

/-- A key that no step has, the name of the kind as a key of the parameters of a connection, and the
    label of the first form of payloads as a key of a payload. -/
theorem Step.mistaken_of_extra :
    Step.IsMistaken (.dict [(.text "extra", .bool true), (.text "think", .int 1)])
      (.dict [(.text "think", .int 1)]) (.dict [(.text "extra", .bool true)]) ∧
    Step.IsMistaken (.dict [(.text "connect", .dict [(.text "connect", .int 5)])])
      (.dict [(.text "connect", .int 5)])
      (.dict [(.text "connect", .dict [(.text "connect", .int 5)])]) ∧
    Step.IsMistaken (.dict [(.text "send", .dict [(.text "str", .int 1)])])
      (.dict [(.text "str", .int 1)]) (.dict [(.text "send", .dict [(.text "str", .int 1)])]) := by
  refine ⟨?_, ?_, ?_⟩
  · exact ⟨_, .think, _, _, rfl, rfl, rfl, rfl, rfl, by simp⟩
  · exact ⟨_, .connect, _, _, rfl, rfl, rfl, rfl, rfl, by simp⟩
  · exact ⟨_, .send, _, _, rfl, rfl, rfl, rfl, rfl, by simp⟩

end SessionScript
