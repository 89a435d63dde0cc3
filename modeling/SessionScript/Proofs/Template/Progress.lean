import SessionScript.Proofs.Template.Names

/-!
# Progress of a resolution

What is done with a text next is planned from the text and the names that are bound, and from
nothing else. If a call is planned, it is made, and the resolution comes to another text; every
other plan ends it. So a resolution is a chain of calls with a text before and after each of them,
and what comes of it is what comes of the last one.
-/

namespace SessionScript.Template

variable {σ : Type}

/-! ## Plans -/

/-- What is done with a text next. -/
inductive Plan (σ : Type) where
  /-- Its variables are replaced. -/
  | render
  /-- It is left as it stands, with a note on why. -/
  | leave (severity : Severity) (message : String)
  /-- The resolution fails. -/
  | refuse (f : Failure)
  /-- A call is made, and the text of its result is put in the place of the marker. -/
  | make (marker : CallMarker) (call : Call) (fn : Function σ)

/-- What is planned for a text. -/
def plan (funcs : Functions σ) (cs : List Char) : Plan σ :=
  match CallMarker.find? cs with
  | none => .render
  | some marker =>
    match Call.parse marker.call with
    | .error (.syntaxFault e why) => .refuse (Call.Fault.syntaxFault e why).failure
    | .error fault =>
      .leave .warning
        ("Template " ++ Text.quoted (String.ofList cs) ++ " left unresolved: " ++
          match fault.failure with
          | .report r => r.message
          | f => f.shown)
    | .ok none => .render
    | .ok (some call) =>
      match funcs.get? call.name with
      | none =>
        .leave .debug
          ("Function " ++ Text.quoted call.name ++ " is not bound, template left unresolved")
      | some fn => .make marker call fn

/-- What carrying out a plan for a text does, where the text with the result of a call goes on to be
    resolved in some way. -/
def Plan.carryOut (next : List Char → Resolving σ (List Char)) (cs : List Char) :
    Plan σ → Resolving σ (List Char)
  | .render => interpolateNow cs
  | .leave severity message => do
    note severity .templates message
    return cs
  | .refuse f => throw f
  | .make marker call fn => do
    let v ← invoke fn call.args
    let s ← MonadExcept.ofExcept (textOf v)
    next (marker.splice s.toList)

/-- A text is resolved as it is planned. -/
theorem resolveText_succ (funcs : Functions σ) (limit : Nat) (cs : List Char) :
    resolveText funcs (limit + 1) cs =
      (plan funcs cs).carryOut (resolveText funcs limit) cs := by
  rw [resolveText, plan]
  cases CallMarker.find? cs with
  | none => rfl
  | some marker =>
    simp only []
    rcases Call.parse marker.call with fault | call?
    · cases fault <;> rfl
    · cases call? with
      | none => rfl
      | some call =>
        simp only []
        cases funcs.get? call.name <;> rfl

section CarryOut

variable {next : List Char → Resolving σ (List Char)} {cs : List Char} {m : Memory σ}

theorem exec_render : exec (Plan.carryOut next cs .render) m = (interpolate m.vars cs, m) :=
  exec_interpolateNow cs m

theorem exec_leave (severity : Severity) (message : String) :
    exec (Plan.carryOut next cs (.leave severity message)) m =
      (.ok cs, { m with log := m.log ++ [⟨severity, .templates, message⟩] }) := rfl

theorem exec_refuse (f : Failure) :
    exec (Plan.carryOut next cs (.refuse f)) m = (.error f, m) := rfl

/-- A call that is made ends the resolution if it fails or if its result has no text. -/
theorem exec_make (marker : CallMarker) (call : Call) (fn : Function σ) :
    exec (Plan.carryOut next cs (.make marker call fn)) m =
      match exec (invoke fn call.args) m with
      | (.error f, m') => (.error f, m')
      | (.ok v, m') =>
        match textOf v with
        | .error f => (.error f, m')
        | .ok s => exec (next (marker.splice s.toList)) m' := by
  rw [Plan.carryOut, exec_bind]
  rcases exec (invoke fn call.args) m with ⟨f | v, m'⟩
  · rfl
  · simp only [exec_bind, exec_ofExcept]
    cases textOf v <;> rfl

end CarryOut

section Plan

variable {funcs : Functions σ} {cs : List Char}

/-- A text in which a bound function is called first is planned so. -/
theorem plan_call {marker : CallMarker} {call : Call} {fn : Function σ}
    (found : CallMarker.find? cs = some marker) (read : Call.parse marker.call = .ok (some call))
    (bound : funcs.get? call.name = some fn) : plan funcs cs = .make marker call fn := by
  rw [plan, found]
  simp only [read, bound]

/-- A planned call is that of the first marker. -/
theorem of_plan_call {marker : CallMarker} {call : Call} {fn : Function σ}
    (planned : plan funcs cs = .make marker call fn) :
    CallMarker.find? cs = some marker ∧ Call.parse marker.call = .ok (some call) ∧
      funcs.get? call.name = some fn := by
  rw [plan] at planned
  split at planned
  · cases planned
  · rename_i first found
    split at planned
    · cases planned
    · cases planned
    · cases planned
    · rename_i read
      split at planned
      · cases planned
      · rename_i bound
        cases planned
        exact ⟨found, read, bound⟩

end Plan

/-! ## Chains of calls -/

/-- With the calls that are made, in order, the resolution of a text that starts with a memory comes
    to a text and the memory that there is then. -/
inductive Functions.ComesTo (funcs : Functions σ) :
    List Char → Memory σ → List Call → List Char → Memory σ → Prop where
  | here (cs : List Char) (m : Memory σ) : ComesTo funcs cs m [] cs m
  | made {cs : List Char} {m : Memory σ} {marker : CallMarker} {call : Call} {fn : Function σ}
    {v : Value} {m' : Memory σ} {s : String} {calls : List Call} {cs' : List Char}
    {m'' : Memory σ}
    (planned : plan funcs cs = .make marker call fn)
    (returned : exec (invoke fn call.args) m = (.ok v, m'))
    (shown : textOf v = .ok s)
    (rest : ComesTo funcs (marker.splice s.toList) m' calls cs' m'') :
    ComesTo funcs cs m (call :: calls) cs' m''

/-- The calls that resolving a text makes, in order. -/
def callsIn (funcs : Functions σ) (limit : Nat) (cs : List Char) (m : Memory σ) : List Call :=
  (exec (resolveText funcs.noting limit cs) m.unnoted).2.host.2

/-- The calls of a value that is a text are those in the text. -/
theorem callsOf_text (funcs : Functions σ) (limit : Nat) (s : String) (m : Memory σ) :
    callsOf funcs limit (.text s) m = callsIn funcs limit s.toList m := by
  rw [callsOf, exec_resolve_text, callsIn]

section Noting

variable {funcs : Functions σ} {cs : List Char}

/-- With functions that note their calls the same is planned. -/
def Plan.noting : Plan σ → Plan (σ × List Call)
  | .render => .render
  | .leave severity message => .leave severity message
  | .refuse f => .refuse f
  | .make marker call fn => .make marker call (fn.noting call.name)

theorem plan_noting (funcs : Functions σ) (cs : List Char) :
    plan funcs.noting cs = (plan funcs cs).noting := by
  unfold plan
  cases CallMarker.find? cs with
  | none => rfl
  | some marker =>
    simp only []
    rcases Call.parse marker.call with fault | call?
    · cases fault <;> rfl
    · cases call? with
      | none => rfl
      | some call =>
        simp only [Functions.get?_noting]
        cases funcs.get? call.name <;> rfl

/-- A call that is noted ends as it does otherwise, and its name is behind those noted before. -/
theorem exec_invoke_noting (fn : Function σ) (name : String) (args : List Value)
    (n : Memory (σ × List Call)) :
    exec (invoke (fn.noting name) args) n =
      ((exec (invoke fn args) n.forget).1,
        { (exec (invoke fn args) n.forget).2 with
          host := ((exec (invoke fn args) n.forget).2.host, n.host.2 ++ [⟨name, args⟩]) }) := by
  rw [exec_invoke, exec_invoke]
  rfl

/-- A planned call is noted behind the others, and resolving the text that it leads to goes on
    noting. -/
theorem noted_succ (funcs : Functions σ) (limit : Nat) (cs : List Char)
    (n : Memory (σ × List Call)) :
    (exec (resolveText funcs.noting (limit + 1) cs) n).2.host.2 =
      match plan funcs cs with
      | .make marker call fn =>
        match exec (invoke fn call.args) n.forget with
        | (.error _, _) => n.host.2 ++ [call]
        | (.ok v, m') =>
          match textOf v with
          | .error _ => n.host.2 ++ [call]
          | .ok s =>
            (exec (resolveText funcs.noting limit (marker.splice s.toList))
              { m' with host := (m'.host, n.host.2 ++ [call]) }).2.host.2
      | _ => n.host.2 := by
  rw [resolveText_succ, plan_noting]
  cases plan funcs cs with
  | render => rw [Plan.noting, exec_render]
  | leave severity message => rfl
  | refuse f => rfl
  | make marker call fn =>
    rw [Plan.noting, exec_make, exec_invoke_noting]
    rcases ran : exec (invoke fn call.args) n.forget with ⟨f | v, m'⟩
    · simp only [ran]
    · cases shown : textOf v with
      | error f => simp only [ran, shown]
      | ok s => simp only [ran, shown]

/-- What was noted before a resolution stays in front of the calls that it makes. -/
theorem resolveText_notes (funcs : Functions σ) (limit : Nat) :
    ∀ (cs : List Char) (n : Memory (σ × List Call)),
      (exec (resolveText funcs.noting limit cs) n).2.host.2 =
        n.host.2 ++ callsIn funcs limit cs n.forget := by
  induction limit with
  | zero => exact fun cs n => (List.append_nil _).symm
  | succ limit ih =>
    intro cs n
    have same : n.forget.unnoted.forget = n.forget := rfl
    rw [callsIn, noted_succ, noted_succ, same]
    cases plan funcs cs with
    | make marker call fn =>
      rcases ran : exec (invoke fn call.args) n.forget with ⟨f | v, m'⟩
      · simp only [ran]
        rfl
      · cases shown : textOf v with
        | error f =>
          simp only [ran, shown]
          rfl
        | ok s =>
          simp only [ran, shown, ih, List.append_assoc]
          rfl
    | _ => exact (List.append_nil _).symm

/-- The calls in a text are the one that is planned, if one is, and those in the text that it leads
    to. -/
theorem callsIn_succ (funcs : Functions σ) (limit : Nat) (cs : List Char) (m : Memory σ) :
    callsIn funcs (limit + 1) cs m =
      match plan funcs cs with
      | .make marker call fn =>
        call ::
          match exec (invoke fn call.args) m with
          | (.error _, _) => []
          | (.ok v, m') =>
            match textOf v with
            | .error _ => []
            | .ok s => callsIn funcs limit (marker.splice s.toList) m'
      | _ => [] := by
  have same : m.unnoted.forget = m := rfl
  rw [callsIn, noted_succ, same]
  cases plan funcs cs with
  | make marker call fn =>
    rcases ran : exec (invoke fn call.args) m with ⟨f | v, m'⟩
    · simp only [ran]
      rfl
    · cases shown : textOf v with
      | error f =>
        simp only [ran, shown]
        rfl
      | ok s =>
        simp only [ran, shown, resolveText_notes]
        rfl
  | _ => rfl

end Noting

/-! ## One call -/

section Made

variable {funcs : Functions σ} {cs : List Char} {marker : CallMarker} {call : Call}
  {fn : Function σ} (planned : plan funcs cs = .make marker call fn)
include planned

/-- A call that is made fails, and the resolution with it, or its result is put into the text. -/
theorem fails_or_returns (m : Memory σ) :
    (∃ f m', (∀ next, exec ((plan funcs cs).carryOut next cs) m = (.error f, m')) ∧
      ∀ limit, callsIn funcs (limit + 1) cs m = [call]) ∨
    ∃ v m' s, exec (invoke fn call.args) m = (.ok v, m') ∧ textOf v = .ok s := by
  rcases ran : exec (invoke fn call.args) m with ⟨f | v, m'⟩
  · refine .inl ⟨f, m', fun next => ?_, fun limit => ?_⟩
    · rw [planned, exec_make, ran]
    · rw [callsIn_succ, planned]
      simp only [ran]
  · cases shown : textOf v with
    | error f =>
      refine .inl ⟨f, m', fun next => ?_, fun limit => ?_⟩
      · rw [planned, exec_make, ran]
        simp only [shown]
      · rw [callsIn_succ, planned]
        simp only [ran, shown]
    | ok s => exact .inr ⟨v, m', s, rfl, shown⟩

section Returned

variable {m m' : Memory σ} {v : Value} {s : String}
  (returned : exec (invoke fn call.args) m = (.ok v, m')) (shown : textOf v = .ok s)
include returned shown

theorem exec_resolveText_made (limit : Nat) :
    exec (resolveText funcs (limit + 1) cs) m =
      exec (resolveText funcs limit (marker.splice s.toList)) m' := by
  rw [resolveText_succ, planned, exec_make, returned]
  simp only [shown]

theorem callsIn_made (limit : Nat) :
    callsIn funcs (limit + 1) cs m = call :: callsIn funcs limit (marker.splice s.toList) m' := by
  rw [callsIn_succ, planned]
  simp only [returned, shown]

end Returned

end Made

/-! ## What comes of a chain -/

namespace Functions.ComesTo

variable {funcs : Functions σ} {cs cs' : List Char} {m m' : Memory σ} {calls : List Call}

/-- What comes of a text is what comes of the text that its resolution comes to. -/
theorem exec_resolveText (comes : funcs.ComesTo cs m calls cs' m') (limit : Nat) :
    exec (resolveText funcs (limit + calls.length) cs) m =
      exec (resolveText funcs limit cs') m' := by
  induction comes with
  | here cs m => rfl
  | made planned returned shown rest ih =>
    exact (exec_resolveText_made planned returned shown _).trans ih

/-- The calls of a chain come first, and behind them those in the text that it ends with. -/
theorem callsIn_eq (comes : funcs.ComesTo cs m calls cs' m') (limit : Nat) :
    callsIn funcs (limit + calls.length) cs m = calls ++ callsIn funcs limit cs' m' := by
  induction comes with
  | here cs m => rfl
  | made planned returned shown rest ih =>
    exact (callsIn_made planned returned shown _).trans (congrArg _ ih)

/-- With enough calls left, what is planned for the last text is carried out. -/
theorem exec_carryOut (comes : funcs.ComesTo cs m calls cs' m') {limit : Nat}
    (enough : calls.length < limit) :
    exec (resolveText funcs limit cs) m =
      exec ((plan funcs cs').carryOut (resolveText funcs (limit - calls.length - 1)) cs') m' := by
  obtain ⟨left, rfl⟩ := Nat.exists_eq_add_of_lt enough
  have split : calls.length + left + 1 = left + 1 + calls.length := by omega
  rw [split, comes.exec_resolveText, resolveText_succ, Nat.add_sub_cancel, Nat.add_sub_cancel]

/-- There are no other calls if none is planned for the last text. -/
theorem callsIn_of_ends (comes : funcs.ComesTo cs m calls cs' m') {limit : Nat}
    (enough : calls.length < limit)
    (ends : ∀ marker call fn, plan funcs cs' ≠ .make marker call fn) :
    callsIn funcs limit cs m = calls := by
  obtain ⟨left, rfl⟩ := Nat.exists_eq_add_of_lt enough
  have split : calls.length + left + 1 = left + 1 + calls.length := by omega
  rw [split, comes.callsIn_eq, callsIn_succ]
  split
  · rename_i planned
    exact absurd planned (ends _ _ _)
  · exact List.append_nil _

end Functions.ComesTo

end SessionScript.Template
