import SessionScript.Proofs.Json.Rendering
import SessionScript.Proofs.Template.Invocation

/-!
# What resolving raises

A resolution is expected to fail with a call that can not be read or with what a bound function
raises. It fails otherwise if it has to show a value that has no text: one that holds a set, or a
mapping key that JSON can not hold. Everything else that variables hold and functions return is
shown.
-/

namespace SessionScript

namespace Template

open Value

theorem isShowable_null : Value.null.IsShowable := (isShowable_leaf rfl).mpr rfl

/-- What one step of a path leads to can be shown if the value that it starts from can. -/
theorem Path.step_isShowable {segment : List Char} {v w : Value} (showable : v.IsShowable)
    (stepped : Path.step segment v = some w) : w.IsShowable := by
  have item {xs : List Value} (each : ∀ x ∈ xs, x.IsShowable)
      (stepped : (Text.number? 10 segment).bind (xs[·]?) = some w) : w.IsShowable := by
    obtain ⟨i, -, found⟩ := Option.bind_eq_some_iff.mp stepped
    exact each w (List.mem_of_getElem? found)
  cases v with
  | dict es =>
    obtain ⟨k, among⟩ := Entries.mem_of_get? stepped
    exact ((isShowable_dict es).mp showable _ among).2
  | list xs => exact item ((isShowable_list xs).mp showable) stepped
  | tuple xs => exact item ((isShowable_tuple xs).mp showable) stepped
  | _ => cases stepped

/-- What holds of nothing, and is kept by every step, holds of what a path leads to. -/
theorem Path.follow_keeps {P : Value → Prop} (nothing : P .null)
    (kept : ∀ {segment v w}, P v → Path.step segment v = some w → P w)
    (segments : List (List Char)) : ∀ {v : Value}, P v → P (Path.follow segments v) := by
  induction segments with
  | nil => exact id
  | cons s segments ih =>
    intro v holds
    rw [Path.follow]
    split
    · exact nothing
    · exact nothing
    · rename_i w _ stepped
      exact ih (kept holds stepped)

/-- Where all variables can be shown, so can whatever a path leads to. -/
theorem lookup_isShowable {vars : Entries} (showable : (Value.dict vars).IsShowable)
    (path : List Char) : (lookup vars path).IsShowable := by
  rw [lookup]
  split
  · exact Path.follow_keeps isShowable_null Path.step_isShowable _ showable
  · exact isShowable_null

/-! ## Texts of results and variables -/

theorem textOf_isOk_iff (v : Value) : (∃ s, textOf v = .ok s) ↔ v.IsShowable := by
  rw [← stringify_isOk_iff, textOf]
  cases v.stringify <;> simp

/-- A value has no text because of its form, if not because of an integer that is too long, and that
    is a type error. -/
theorem textOf_error_kind {v : Value} {f : Failure} (failed : textOf v = .error f)
    (writable : v.IsWritable) : f.kind = "TypeError" := by
  rw [textOf] at failed
  split at failed
  · cases failed
  · rename_i e unshown
    cases failed
    exact (stringify_error unshown writable).2

variable {σ : Type}

/-- A resolution fails with a call that can not be read, with what a bound function raises, or else
    because a result or a variable that it has to show can not be shown. A value can be shown unless
    it holds a set, a mapping key that JSON can not hold or an integer that is too long; but for the
    integers this is a type error. And a variable that can not be shown does make a template
    fail. -/
theorem resolve_raises (funcs : Functions σ) (m : Memory σ) :
    (∀ limit v f m', exec (resolve funcs limit v) m = (.error f, m') →
      funcs.Raises m' f ∨ ∃ w, funcs.Brings m' w ∧ ¬ w.IsShowable ∧ textOf w = .error f) ∧
    (∀ w, ((∃ s, textOf w = .ok s) ↔ w.IsShowable) ∧
      ∀ f, textOf w = .error f → w.IsWritable → f.kind = "TypeError") ∧
    ∀ name w, isName name.toList → m.vars.get? (.text name) = some w →
      ((exec (resolve funcs callLimit (.text (marker name))) m).1.isOk ↔ w.IsShowable) := by
  refine ⟨fun limit v f m' failed => ?_,
    fun w => ⟨textOf_isOk_iff w, fun f failed => textOf_error_kind failed⟩,
    fun name w named bound => ?_⟩
  · rcases resolve_failsWith limit v m f m' failed with raised | ⟨w, brought, unshown⟩
    · exact .inl raised
    · refine .inr ⟨w, brought, fun showable => ?_, unshown⟩
      obtain ⟨s, shown⟩ := (textOf_isOk_iff w).mpr showable
      rw [shown] at unshown
      cases unshown
  · rw [renders_of_isName named funcs m w bound, ← textOf_isOk_iff]
    cases textOf w <;> simp [Except.map, Except.isOk, Except.toBool]

/-- Bytes that are no text, an object and a number as a key are shown. What a function raises is all
    that comes of a call. -/
theorem resolve_raises_of_boom :
    let boom : Function Unit := fun _ vars host => (.error (.raise "ValueError" "no"), vars, host)
    let funcs : Functions Unit := [("boom", boom)]
    let x : Value := .dict [(.int 1, .tuple [.bytes [255], .object "o"])]
    let m : Memory Unit := ⟨[(.text "x", x)], (), []⟩
    (exec (resolve funcs callLimit (.text (marker "x"))) m).1.isOk ∧
      ∃ f, exec (resolve funcs callLimit (.text (invocation "boom"))) m = (.error f, m) ∧
        f.kind = "ValueError" ∧ funcs.Raises m f := by
  intro boom funcs x m
  obtain ⟨raises, -, shows⟩ := resolve_raises funcs m
  have all : (Value.dict m.vars).IsShowable := by
    rw [isShowable_iff]
    simp [m, x, isSetFree, areEntriesSetFree, areItemsSetFree, keys, entryKeys, itemKeys, leaves,
      entryLeaves, itemLeaves, isJsonKey, isShort]
    decide
  have showable : x.IsShowable := ((isShowable_dict _).mp all _ List.mem_cons_self).2
  have failed : exec (resolve funcs callLimit (.text (invocation "boom"))) m =
      (.error (.raise "ValueError" "no"), m) := by
    rw [callLimit, resolve_invocation (by decide) (by decide) rfl]
    rfl
  refine ⟨(shows "x" x (by decide) rfl).mpr showable, _, failed, rfl, ?_⟩
  rcases raises callLimit _ _ m failed with raised | ⟨w, brought, unshowable, -⟩
  · exact raised
  · cases brought with
    | result bound returned =>
      cases List.mem_singleton.mp (Functions.mem_of_get? bound)
      cases returned
    | addressed path => exact absurd (lookup_isShowable all path) unshowable

/-- Where no bound function raises anything, a type error is not expected. -/
theorem Functions.not_raises {funcs : Functions σ} {m : Memory σ} {f : Failure}
    (kind : f.kind = "TypeError")
    (calm : ∀ name fn, funcs.get? name = some fn → ∀ args vars host f,
      (fn args vars host).1 ≠ .error f) : ¬ funcs.Raises m f := by
  rintro (_ | _ | ⟨bound, failed⟩)
  · exact absurd kind (by decide : "RecursionError" ≠ "TypeError")
  · exact absurd kind (by decide : "TemplateSyntaxError" ≠ "TypeError")
  · exact calm _ _ bound _ _ _ f (congrArg Prod.fst failed)

/-- A set as a variable and as a result: no bound function raises anything, and nevertheless a
    template that has to show it fails with a type error. -/
theorem resolve_of_formless :
    let w : Value := .set [.int 1]
    let m : Memory Unit := ⟨[(.text "x", w)], (), []⟩
    let funcs : Functions Unit := [("f", fun _ vars host => (.ok w, vars, host))]
    ∃ failure,
      exec (resolve funcs callLimit (.text (marker "x"))) m = (.error failure, m) ∧
      exec (resolve funcs callLimit (.text (invocation "f"))) m = (.error failure, m) ∧
      failure.kind = "TypeError" ∧ ¬ funcs.Raises m failure := by
  intro w m funcs
  have calm : ∀ name fn, funcs.get? name = some fn → ∀ args vars host f,
      (fn args vars host).1 ≠ .error f := by
    intro name fn bound args vars host f
    cases List.mem_singleton.mp (Functions.mem_of_get? bound)
    exact nofun
  obtain ⟨failure, unshown, kind⟩ : ∃ f, textOf w = .error f ∧ f.kind = "TypeError" :=
    ⟨_, rfl, rfl⟩
  refine ⟨failure, ?_, ?_, kind, Functions.not_raises kind calm⟩
  · rw [renders_of_isName (by decide) funcs m w rfl, unshown]
    rfl
  · rw [callLimit, resolve_invocation (by decide) (by decide) rfl, exec_bind, exec_invoke]
    simp only [exec_bind, exec_ofExcept, unshown]

end Template

end SessionScript
