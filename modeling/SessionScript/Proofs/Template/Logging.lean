import SessionScript.Proofs.Template.Failing

/-!
# What templates write to the log

Resolving a value writes to the log as templates only, whatever the functions do that it calls.
-/

namespace SessionScript

namespace Template

variable {σ : Type}

/-- Resolving a text leads where its notes and the functions of the table lead. -/
theorem resolveText_leads {R : Memory σ → Memory σ → Prop} [IsPreorder (Memory σ) R]
    {funcs : Functions σ}
    (notes : ∀ severity message, Leads R (note severity .templates message : Resolving σ Unit))
    (invokes : ∀ name fn, funcs.get? name = some fn → ∀ args, Leads R (invoke fn args))
    (limit : Nat) : ∀ cs, Leads R (resolveText funcs limit cs) := by
  have interpolates (cs : List Char) : Leads R (interpolateNow cs : Resolving σ (List Char)) :=
    Leads.get.bind fun _ => .ofExcept _
  induction limit with
  | zero => exact fun _ => .throw _
  | succ limit ih =>
    intro cs
    unfold resolveText
    split
    · exact interpolates cs
    · split
      · exact .throw _
      · exact (notes _ _).bind fun _ => .pure _
      · exact interpolates cs
      · split
        · exact (notes _ _).bind fun _ => .pure _
        · rename_i bound
          exact (invokes _ _ bound _).bind fun _ => (Leads.ofExcept _).bind fun _ => ih _

/-- Whatever is added to the log between two memories is written by templates. -/
def Memory.Writes (m m' : Memory σ) : Prop :=
  ∃ entries, m'.log = m.log ++ entries ∧ ∀ e ∈ entries, e.area = .templates

instance : IsPreorder (Memory σ) Memory.Writes where
  refl m := ⟨[], (List.append_nil _).symm, nofun⟩
  trans := by
    rintro m m' m'' ⟨entries, added, own⟩ ⟨entries', added', own'⟩
    refine ⟨entries ++ entries', by rw [added', added, List.append_assoc], fun e known => ?_⟩
    exact (List.mem_append.mp known).elim (own e) (own' e)

theorem note_writes (severity : Severity) (message : String) :
    Leads Memory.Writes (note severity .templates message : Resolving σ Unit) :=
  fun _ => ⟨_, rfl, by simp⟩

/-- Functions do not write to the log. -/
theorem invoke_writes (fn : Function σ) (args : List Value) :
    Leads Memory.Writes (invoke fn args) := by
  intro m
  rw [exec_invoke]
  exact ⟨[], (List.append_nil _).symm, nofun⟩

theorem resolveText_writes (funcs : Functions σ) (limit : Nat) :
    ∀ cs, Leads Memory.Writes (resolveText funcs limit cs) :=
  resolveText_leads (fun severity message => note_writes severity message)
    (fun _ fn _ args => invoke_writes fn args) limit

/-- A value is resolved with log entries of templates only. -/
theorem resolve_writes (funcs : Functions σ) (limit : Nat) (v : Value) :
    Leads Memory.Writes (resolve funcs limit v) :=
  Leads.composes.resolve (resolveText_writes funcs limit) v

end Template

end SessionScript
