import Mathlib.Order.Defs.Unbundled
import SessionScript.Failure

/-!
# Effects

Templates and sessions are computations that change a state and may fail, and what they did before
a failure stays done. Running one gives how it ends together with the state that it leaves. The
lemmas say this for every way to put such computations together.
-/

namespace SessionScript

variable {τ α β : Type}

/-- How a computation ends when it starts in a state, and the state that it leaves. -/
def exec (act : ExceptT Failure (StateM τ) α) (t : τ) : Except Failure α × τ := act.run.run t

@[simp] theorem exec_pure (a : α) (t : τ) :
    exec (pure a : ExceptT Failure (StateM τ) α) t = (.ok a, t) := rfl

@[simp] theorem exec_throw (f : Failure) (t : τ) :
    exec (throw f : ExceptT Failure (StateM τ) α) t = (.error f, t) := rfl

@[simp] theorem exec_get (t : τ) : exec (get : ExceptT Failure (StateM τ) τ) t = (.ok t, t) := rfl

@[simp] theorem exec_modify (f : τ → τ) (t : τ) :
    exec (modify f : ExceptT Failure (StateM τ) PUnit) t = (.ok ⟨⟩, f t) := rfl

@[simp] theorem exec_ofExcept (e : Except Failure α) (t : τ) :
    exec (MonadExcept.ofExcept e) t = (e, t) := by
  cases e <;> rfl

/-- The second computation runs only if the first one does not fail. -/
theorem exec_bind (act : ExceptT Failure (StateM τ) α) (next : α → ExceptT Failure (StateM τ) β)
    (t : τ) :
    exec (act >>= next) t =
      match exec act t with
      | (.ok a, t') => exec (next a) t'
      | (.error f, t') => (.error f, t') := by
  simp only [exec, ExceptT.run_bind, StateT.run_bind]
  rcases act.run.run t with ⟨result, t'⟩
  cases result <;> rfl

/-- What a computation ends with may be changed without a difference to the state. -/
theorem exec_map (f : α → β) (act : ExceptT Failure (StateM τ) α) (t : τ) :
    exec (f <$> act) t = ((exec act t).1.map f, (exec act t).2) := by
  rw [map_eq_pure_bind, exec_bind]
  rcases exec act t with ⟨result, t'⟩
  cases result <;> rfl

/-- What goes well in the end went well in between. -/
theorem exec_bind_ok {act : ExceptT Failure (StateM τ) α}
    {next : α → ExceptT Failure (StateM τ) β} {t t' : τ} {b : β}
    (ended : exec (act >>= next) t = (.ok b, t')) :
    ∃ a there, exec act t = (.ok a, there) ∧ exec (next a) there = (.ok b, t') := by
  rw [exec_bind] at ended
  rcases ran : exec act t with ⟨f | a, there⟩
  · rw [ran] at ended
    cases ended
  · rw [ran] at ended
    exact ⟨a, there, rfl, ended⟩

/-- The same without a state. -/
theorem bind_ok {ε : Type} {x : Except ε α} {next : α → Except ε β} {b : β}
    (ended : x >>= next = .ok b) : ∃ a, x = .ok a ∧ next a = .ok b := by
  cases x with
  | error e => cases ended
  | ok a => exact ⟨a, rfl, ended⟩

/-- What fails without a state fails in its first part or, after that, in its second. -/
theorem bind_error {ε : Type} {x : Except ε α} {next : α → Except ε β} {e : ε}
    (failed : x >>= next = .error e) : x = .error e ∨ ∃ a, x = .ok a ∧ next a = .error e := by
  cases x with
  | error e' => exact .inl (congrArg Except.error (Except.error.inj failed))
  | ok a => exact .inr ⟨a, rfl, failed⟩

/-- What was done before a failure is not undone where the failure is handled. -/
theorem exec_tryCatch (act : ExceptT Failure (StateM τ) α)
    (handle : Failure → ExceptT Failure (StateM τ) α) (t : τ) :
    exec (tryCatch act handle) t =
      match exec act t with
      | (.ok a, t') => (.ok a, t')
      | (.error f, t') => exec (handle f) t' := by
  rcases h : exec act t with ⟨result, t'⟩
  have ran : StateT.run (ExceptT.run act) t = (result, t') := h
  cases result
  all_goals
    simp only [exec, tryCatch, tryCatchThe, MonadExceptOf.tryCatch, ExceptT.tryCatch,
      ExceptT.run_mk, StateT.run_bind]
    erw [ran]
    rfl

/-- What holds of returning a value, and of two computations one after the other if it holds of
    both. -/
structure Composes {m : Type → Type} [Monad m] (P : ∀ α : Type, m α → Prop) : Prop where
  pure {α : Type} (a : α) : P α (pure a)
  bind {α β : Type} {act : m α} {next : α → m β} (hact : P α act) (hnext : ∀ a, P β (next a)) :
    P β (act >>= next)

/-! ## Failures -/

/-- A computation fails in some ways only, wherever it starts. Which ways these are may depend on the
    state that it leaves. -/
def FailsOnly (P : τ → Failure → Prop) (act : ExceptT Failure (StateM τ) α) : Prop :=
  ∀ t f t', exec act t = (.error f, t') → P t' f

namespace FailsOnly

variable {P : τ → Failure → Prop} {act : ExceptT Failure (StateM τ) α}
  {next : α → ExceptT Failure (StateM τ) β}

theorem pure (a : α) : FailsOnly P (pure a : ExceptT Failure (StateM τ) α) := by
  intro t f t' failed
  cases failed

theorem throw {f : Failure} (hf : ∀ t, P t f) :
    FailsOnly P (throw f : ExceptT Failure (StateM τ) α) := by
  intro t f t' failed
  cases failed
  exact hf t

theorem get : FailsOnly P (get : ExceptT Failure (StateM τ) τ) := by
  intro t f t' failed
  cases failed

theorem modify (g : τ → τ) : FailsOnly P (modify g : ExceptT Failure (StateM τ) PUnit) := by
  intro t f t' failed
  cases failed

/-- What is done after each other fails as one of the parts does. -/
theorem bind (hact : FailsOnly P act) (hnext : ∀ a, FailsOnly P (next a)) :
    FailsOnly P (act >>= next) := by
  intro t f t' failed
  rw [exec_bind] at failed
  rcases ran : exec act t with ⟨f' | a, there⟩
  · rw [ran] at failed
    cases failed
    exact hact t f t' ran
  · rw [ran] at failed
    exact hnext a there f t' failed

theorem composes : Composes fun α => FailsOnly (α := α) P := ⟨pure, bind⟩

end FailsOnly

/-! ## What is left -/

/-- Wherever a computation starts and however it ends, the state that it leaves is related to the
    one that it started in. -/
def Leads (R : τ → τ → Prop) (act : ExceptT Failure (StateM τ) α) : Prop := ∀ t, R t (exec act t).2

namespace Leads

variable {R : τ → τ → Prop} [IsPreorder τ R] {act : ExceptT Failure (StateM τ) α}

theorem pure (a : α) : Leads R (pure a : ExceptT Failure (StateM τ) α) := fun t => refl_of R t

theorem throw (f : Failure) : Leads R (throw f : ExceptT Failure (StateM τ) α) :=
  fun t => refl_of R t

theorem get : Leads R (get : ExceptT Failure (StateM τ) τ) := fun t => refl_of R t

theorem ofExcept (e : Except Failure α) :
    Leads R (MonadExcept.ofExcept e : ExceptT Failure (StateM τ) α) := by
  intro t
  rw [exec_ofExcept]
  exact refl_of R t

/-- What is done after each other leads from the start of the first to the end of the second. -/
theorem bind {next : α → ExceptT Failure (StateM τ) β} (hact : Leads R act)
    (hnext : ∀ a, Leads R (next a)) : Leads R (act >>= next) := by
  intro t
  have first := hact t
  rcases ran : exec act t with ⟨f | a, there⟩
  · simpa only [exec_bind, ran] using first
  · rw [ran] at first
    simpa only [exec_bind, ran] using trans_of R first (hnext a there)

theorem composes : Composes fun α => Leads (α := α) R := ⟨pure, bind⟩

/-- Handling a failure goes on from where it happened. -/
theorem tryCatch {handle : Failure → ExceptT Failure (StateM τ) α} (hact : Leads R act)
    (hhandle : ∀ f, Leads R (handle f)) : Leads R (tryCatch act handle) := by
  intro t
  have first := hact t
  rcases ran : exec act t with ⟨f | a, there⟩
  · rw [ran] at first
    simpa only [exec_tryCatch, ran] using trans_of R first (hhandle f there)
  · simpa only [exec_tryCatch, ran] using first

end Leads

/-! ## What two computations have in common -/

/-- Wherever two computations start, if the states are related they end in the same way and leave
    related states. -/
def Alike {υ : Type} (R : τ → υ → Prop) (act : ExceptT Failure (StateM τ) α)
    (act' : ExceptT Failure (StateM υ) α) : Prop :=
  ∀ t u, R t u → (exec act t).1 = (exec act' u).1 ∧ R (exec act t).2 (exec act' u).2

namespace Alike

variable {υ : Type} {R : τ → υ → Prop} {act : ExceptT Failure (StateM τ) α}
  {act' : ExceptT Failure (StateM υ) α}

theorem pure (a : α) :
    Alike R (pure a : ExceptT Failure (StateM τ) α) (pure a : ExceptT Failure (StateM υ) α) :=
  fun _ _ related => ⟨rfl, related⟩

theorem throw (f : Failure) :
    Alike R (throw f : ExceptT Failure (StateM τ) α) (throw f : ExceptT Failure (StateM υ) α) :=
  fun _ _ related => ⟨rfl, related⟩

theorem ofExcept (e : Except Failure α) :
    Alike R (MonadExcept.ofExcept e : ExceptT Failure (StateM τ) α)
      (MonadExcept.ofExcept e : ExceptT Failure (StateM υ) α) := by
  intro t u related
  rw [exec_ofExcept, exec_ofExcept]
  exact ⟨rfl, related⟩

/-- The common result of computations that are alike. -/
theorem ends (alike : Alike R act act') {t : τ} {u : υ} (related : R t u) :
    ∃ result t' u', exec act t = (result, t') ∧ exec act' u = (result, u') ∧ R t' u' := by
  obtain ⟨same, left⟩ := alike t u related
  exact ⟨_, _, _, rfl, Prod.ext same.symm rfl, left⟩

/-- What is done after computations that are alike starts from the same result in related states. -/
theorem bind {next : α → ExceptT Failure (StateM τ) β} {next' : α → ExceptT Failure (StateM υ) β}
    (hact : Alike R act act') (hnext : ∀ a, Alike R (next a) (next' a)) :
    Alike R (act >>= next) (act' >>= next') := by
  intro t u related
  obtain ⟨result, t', u', ran, ran', left⟩ := hact.ends related
  rw [exec_bind, exec_bind, ran, ran']
  cases result with
  | error f => exact ⟨rfl, left⟩
  | ok a => exact hnext a t' u' left

end Alike

end SessionScript
