import SessionScript.Proofs.Effect
import SessionScript.Proofs.Value.Leaves
import SessionScript.Template.Resolve

/-!
# How templates fail

Resolving a value fails with what a bound function raises, or in one of three ways of its own: a
call that can not be read, a result or variable that has no text, and calls without an end.
-/

namespace SessionScript

/-! ## Leaves -/

namespace Composes

section Leaves

variable {m : Type → Type} [Monad m] {P : ∀ α : Type, m α → Prop} (composes : Composes P)
  {g : Value → m Value}
include composes

theorem mapItemsM {vs : List Value} (each : ∀ v ∈ vs, P _ (v.mapLeavesM g)) :
    P _ (Value.mapItemsM g vs) := by
  induction vs with
  | nil =>
    rw [Value.mapItemsM]
    exact composes.pure []
  | cons v vs ih =>
    obtain ⟨first, rest⟩ := List.forall_mem_cons.mp each
    rw [Value.mapItemsM]
    exact composes.bind first fun _ => composes.bind (ih rest) fun _ => composes.pure _

theorem mapEntriesM {es : Entries} (each : ∀ e ∈ es, P _ (e.2.mapLeavesM g)) :
    P _ (Value.mapEntriesM g es) := by
  induction es with
  | nil =>
    rw [Value.mapEntriesM]
    exact composes.pure []
  | cons e es ih =>
    obtain ⟨first, rest⟩ := List.forall_mem_cons.mp each
    rw [Value.mapEntriesM]
    exact composes.bind first fun _ => composes.bind (ih rest) fun _ => composes.pure _

/-- What holds of the computations for all leaves holds of rebuilding a value with them. -/
theorem mapLeavesM (leaf : ∀ v, P _ (g v)) (v : Value) : P _ (v.mapLeavesM g) := by
  induction v using Value.inductOn with
  | leaf v isLeaf =>
    rw [Value.mapLeavesM]
    · exact leaf v
    all_goals
      rintro xs rfl
      cases isLeaf
  | list xs each | tuple xs each | set xs each =>
    rw [Value.mapLeavesM]
    exact composes.bind (composes.mapItemsM each) fun _ => composes.pure _
  | dict es each =>
    rw [Value.mapLeavesM]
    exact composes.bind (composes.mapEntriesM each) fun _ => composes.pure _

end Leaves

/-- What holds of resolving every text holds of resolving a value. -/
theorem resolve {σ : Type} {P : ∀ α : Type, Template.Resolving σ α → Prop} (composes : Composes P)
    {funcs : Template.Functions σ} {limit : Nat}
    (texts : ∀ cs, P _ (Template.resolveText funcs limit cs)) (v : Value) :
    P _ (Template.resolve funcs limit v) := by
  refine composes.mapLeavesM (fun leaf => ?_) v
  cases leaf with
  | text s => exact composes.bind (texts s.toList) fun _ => composes.pure _
  | _ => exact composes.pure _

end Composes

namespace Template

variable {σ : Type} {funcs : Functions σ}

/-! ## Texts -/

/-- Every failure of every function of a table is of some kind. -/
def Functions.RaiseOnly (P : Failure → Prop) (funcs : Functions σ) : Prop :=
  ∀ name fn, (name, fn) ∈ funcs → ∀ args vars host f, (fn args vars host).1 = .error f → P f

/-- The failures that templates cause themselves. -/
inductive OwnFailure : Failure → Prop where
  | endless : OwnFailure endless
  | noText (e : Json.WriteError) : OwnFailure (.raise e.kind e.message)
  | unreadable (expression : String) (why : Code.GrammarError) :
    OwnFailure (Call.Fault.syntaxFault expression why).failure

/-- A value without a text is a failure of the template. -/
theorem textOf_error {v : Value} {f : Failure} (failed : textOf v = .error f) : OwnFailure f := by
  unfold textOf at failed
  split at failed
  · cases failed
  · cases failed
    exact .noText _

/-- A text is not rendered if the value of one of its variables has no text. -/
theorem renderPieces_error {vars : Entries} {f : Failure} :
    ∀ {ps : List Piece}, renderPieces vars ps = .error f →
      ∃ path, textOf (lookup vars path) = .error f
  | [], failed => by cases failed
  | .char c :: ps, failed => by
    rw [renderPieces] at failed
    cases rendered : renderPieces vars ps with
    | ok cs => rw [rendered] at failed; cases failed
    | error f' =>
      rw [rendered] at failed
      cases failed
      exact renderPieces_error rendered
  | .variable path :: ps, failed => by
    rw [renderPieces] at failed
    cases text : textOf (lookup vars path) with
    | error f' =>
      rw [text] at failed
      cases failed
      exact ⟨path, text⟩
    | ok s =>
      cases rendered : renderPieces vars ps with
      | ok cs => rw [text, rendered] at failed; cases failed
      | error f' =>
        rw [text, rendered] at failed
        cases failed
        exact renderPieces_error rendered

theorem Functions.get?_cons (name other : String) (fn : Function σ) (funcs : Functions σ) :
    Functions.get? ((name, fn) :: funcs) other =
      if other = name then some fn else funcs.get? other := by
  rw [Functions.get?, Functions.get?, List.lookup_cons]
  by_cases same : other = name
  · simp [same]
  · rw [beq_false_of_ne same, if_neg same]

/-- A function that is bound to a name is one of the table. -/
theorem Functions.mem_of_get? {name : String} {fn : Function σ} :
    ∀ {funcs : Functions σ}, funcs.get? name = some fn → (name, fn) ∈ funcs
  | [], found => by cases found
  | (n, g) :: fs, found => by
    rw [Functions.get?, List.lookup_cons] at found
    split at found
    · rename_i same
      cases found
      simp [eq_of_beq same]
    · exact List.mem_cons_of_mem _ (Functions.mem_of_get? found)

/-- A call ends as its function does, and leaves what the function left. -/
theorem exec_invoke (fn : Function σ) (args : List Value) (m : Memory σ) :
    exec (invoke fn args) m =
      ((fn args m.vars m.host).1,
        { m with vars := (fn args m.vars m.host).2.1, host := (fn args m.vars m.host).2.2 }) := by
  have ran : exec (invoke fn args) m =
      exec (MonadExcept.ofExcept (fn args m.vars m.host).1)
        { m with vars := (fn args m.vars m.host).2.1, host := (fn args m.vars m.host).2.2 } := rfl
  rw [ran, exec_ofExcept]

/-- Variables are replaced with what they are now, and nothing changes. -/
theorem exec_interpolateNow (cs : List Char) (m : Memory σ) :
    exec (interpolateNow cs) m = (interpolate m.vars cs, m) := by
  rw [interpolateNow, exec_bind, exec_get]
  exact exec_ofExcept _ _

/-- What a resolution that leaves a memory is expected to fail with: a call that can not be read, a
    failure that a bound function raises, or calls without an end. -/
inductive Functions.Raises (funcs : Functions σ) (m : Memory σ) : Failure → Prop where
  | endless : Raises funcs m endless
  | unreadable (expression : String) (why : Code.GrammarError) :
    Raises funcs m (Call.Fault.syntaxFault expression why).failure
  | raised {name : String} {fn : Function σ} {args : List Value} {vars : Entries} {host : σ}
    {f : Failure} (bound : funcs.get? name = some fn)
    (failed : fn args vars host = (.error f, m.vars, m.host)) : Raises funcs m f

/-- What a resolution may have to show that has come to a memory: the result of a bound function, or
    the value that a path leads to. -/
inductive Functions.Brings (funcs : Functions σ) (m : Memory σ) : Value → Prop where
  | result {name : String} {fn : Function σ} {args : List Value} {vars : Entries} {host : σ}
    {v : Value} (bound : funcs.get? name = some fn)
    (returned : fn args vars host = (.ok v, m.vars, m.host)) : Brings funcs m v
  | addressed (path : List Char) : Brings funcs m (lookup m.vars path)

/-- How a resolution fails that leaves a memory: as expected, or because there is no text for what
    it has to show. -/
def Functions.FailsWith (funcs : Functions σ) (m : Memory σ) (f : Failure) : Prop :=
  funcs.Raises m f ∨ ∃ v, funcs.Brings m v ∧ textOf v = .error f

theorem interpolateNow_failsWith (cs : List Char) :
    FailsOnly funcs.FailsWith (interpolateNow cs : Resolving σ (List Char)) := by
  intro m f m' failed
  rw [exec_interpolateNow] at failed
  obtain ⟨rendered, rfl⟩ := Prod.mk.inj failed
  obtain ⟨path, unshown⟩ := renderPieces_error rendered
  exact .inr ⟨_, .addressed path, unshown⟩

/-- A call fails as its function does, or because its result has no text; what goes on with the text
    fails in its own way. -/
theorem invoke_failsWith {name : String} {fn : Function σ} (bound : funcs.get? name = some fn)
    (args : List Value) {next : String → Resolving σ (List Char)}
    (hnext : ∀ s, FailsOnly funcs.FailsWith (next s)) :
    FailsOnly funcs.FailsWith (do
      let v ← invoke fn args
      let s ← MonadExcept.ofExcept (textOf v)
      next s) := by
  intro m f m' failed
  rw [exec_bind, exec_invoke] at failed
  rcases ran : fn args m.vars m.host with ⟨f' | v, vars, host⟩
  · simp only [ran] at failed
    cases failed
    exact .inl (.raised bound ran)
  · simp only [ran, exec_bind, exec_ofExcept] at failed
    cases shown : textOf v with
    | error f' =>
      rw [shown] at failed
      cases failed
      exact .inr ⟨v, .result bound ran, shown⟩
    | ok s =>
      rw [shown] at failed
      exact hnext s _ _ _ failed

/-- A text fails with what a bound function raises or in a way of templates. -/
theorem resolveText_failsWith (limit : Nat) :
    ∀ cs, FailsOnly funcs.FailsWith (resolveText funcs limit cs) := by
  induction limit with
  | zero => exact fun _ => .throw fun _ => .inl .endless
  | succ limit ih =>
    intro cs
    unfold resolveText
    split
    · exact interpolateNow_failsWith cs
    · split
      · exact .throw fun _ => .inl (.unreadable _ _)
      · exact (FailsOnly.modify _).bind fun _ => .pure _
      · exact interpolateNow_failsWith cs
      · split
        · exact (FailsOnly.modify _).bind fun _ => .pure _
        · rename_i bound
          exact invoke_failsWith bound _ fun _ => ih _

/-- A value fails as one of its texts does. -/
theorem resolve_failsWith (limit : Nat) (v : Value) :
    FailsOnly funcs.FailsWith (resolve funcs limit v) :=
  FailsOnly.composes.resolve (resolveText_failsWith limit) v

/-- A value fails as the functions that its texts call or in a way of its own. -/
theorem resolve_failsOnly {P : Failure → Prop} (own : ∀ f, OwnFailure f → P f)
    (raise : funcs.RaiseOnly P) (limit : Nat) (v : Value) :
    FailsOnly (fun _ f => P f) (resolve funcs limit v) := by
  intro m f m' failed
  rcases resolve_failsWith limit v m f m' failed with raised | ⟨w, -, unshown⟩
  · cases raised with
    | endless => exact own _ .endless
    | unreadable expression why => exact own _ (.unreadable expression why)
    | raised bound failed =>
      exact raise _ _ (Functions.mem_of_get? bound) _ _ _ f (congrArg Prod.fst failed)
  · exact own _ (textOf_error unshown)

end Template

end SessionScript
