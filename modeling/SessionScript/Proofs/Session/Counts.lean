import SessionScript.Proofs.Session.Reports

/-!
# Counts

A session counts the messages that it sent and the steps that are still to cause traffic. What a
turn adds to the first and takes from the second is what connections accepted in it, and that is
nothing in a step that fails.
-/

namespace SessionScript

variable {σ ω : Type} {audience : Audience ω}

/-! ## Messages and counts -/

/-- Between two situations some deeds were done, and the messages in them that connections
    accepted, so many of them, were counted. -/
structure Situation.Counts (here : Situation σ) (deeds : List Action) (there : Situation σ)
    (n : Nat) : Prop where
  pending : there.context.pending = here.context.pending - n
  successes : there.context.successes = here.context.successes + n
  accepted : ∀ more, accepted here.sendings (deeds ++ more) = n + accepted there.sendings more

namespace Situation.Counts

variable {here there next : Situation σ} {deeds deeds' : List Action}

/-- Where no message is sent, none is counted. -/
theorem unsent (pending : there.context.pending = here.context.pending)
    (successes : there.context.successes = here.context.successes)
    (sendings : there.sendings = here.sendings)
    (silent : ∀ script more, SessionScript.accepted script (deeds ++ more) =
      SessionScript.accepted script more) : here.Counts deeds there 0 where
  pending := by simp [pending]
  successes := by simp [successes]
  accepted more := by simp [silent, sendings]

theorem refl (here : Situation σ) : here.Counts [] here 0 :=
  unsent rfl rfl rfl fun _ _ => rfl

theorem of_sameBut (same : here.SameBut there) : here.Counts [] there 0 :=
  unsent same.pending same.successes same.sendings fun _ _ => rfl

/-- A message that is not accepted is not counted. -/
theorem rejected {f : Failure} (ended : here.sendings.head?.join = some f) (c : Connection)
    (m : Message) : here.Counts [.sends c m] here.sendsOnce 0 where
  pending := by simp [sendsOnce]
  successes := by simp [sendsOnce]
  accepted more := by simp [SessionScript.accepted, sendsOnce, ended]

/-- A message that is accepted is counted. -/
theorem sent (ended : here.sendings.head?.join = none) (c : Connection) (m : Message) :
    here.Counts [.sends c m] here.sendsOnce.countSent 1 where
  pending := rfl
  successes := rfl
  accepted more := by simp [SessionScript.accepted, sendsOnce, countSent, ended]

theorem trans {m n : Nat} (first : here.Counts deeds there m)
    (second : there.Counts deeds' next n) : here.Counts (deeds ++ deeds') next (m + n) where
  pending := by
    rw [second.pending, first.pending]
    omega
  successes := by
    rw [second.successes, first.successes]
    omega
  accepted more := by
    rw [List.append_assoc, first.accepted, second.accepted]
    omega

/-- What is counted in turns that follow each other. -/
theorem andThen {t : Turn σ} {turn : Situation σ → Turn σ} {i j : Nat}
    (first : ∃ m ≤ i, here.Counts t.deeds t.after m)
    (rest : ∀ x : Situation σ, ∃ n ≤ j, x.Counts (turn x).deeds (turn x).after n) :
    ∃ n ≤ i + j, here.Counts (t.andThen turn).deeds (t.andThen turn).after n := by
  obtain ⟨m, atMost, counts⟩ := first
  cases failed : t.failure with
  | some f => exact ⟨m, by omega, by simpa [Turn.andThen, failed] using counts⟩
  | none =>
    obtain ⟨n, atMost', counts'⟩ := rest t.after
    exact ⟨m + n, by omega, by simpa [Turn.andThen, failed] using counts.trans counts'⟩

end Situation.Counts

open Situation (Counts)

/-- A step counts at most one message, which only a step that sends does, and none if it fails. -/
theorem Step.Takes.counts {config : Config} {here : Situation σ} {step : Step} {t : Turn σ}
    (takes : step.Takes config here t) :
    ∃ n, here.Counts t.deeds t.after n ∧ (n ≤ if step.kind = .send then 1 else 0) ∧
      ∀ f, t.failure = some f → n = 0 := by
  have none {t : Turn σ} (counts : here.Counts t.deeds t.after 0) :
      ∃ n, here.Counts t.deeds t.after n ∧ (n ≤ if step.kind = .send then 1 else 0) ∧
        ∀ f, t.failure = some f → n = 0 :=
    ⟨0, counts, Nat.zero_le _, fun _ _ => rfl⟩
  cases takes with
  | slept _ | disturbed _ => exact none (.unsent rfl rfl rfl fun _ _ => rfl)
  | missing _ => exact none (.refl here)
  | unresolved resolved => exact none (.of_sameBut (Situation.resolve_sameBut resolved))
  | refused resolved _ _ | openingInterrupted resolved _ _ | connected resolved _ _
  | replaced resolved _ _ =>
    have same := Situation.resolve_sameBut resolved
    exact none (.unsent same.pending same.successes same.sendings fun _ _ => rfl)
  | unencoded _ encoded => exact none (.of_sameBut (Situation.encode_sameBut encoded))
  | sent _ encoded ended =>
    have same := Situation.encode_sameBut encoded
    exact ⟨1, (Counts.of_sameBut same).trans (.sent ended _ _), Nat.le_refl 1,
      fun f failed => by cases failed⟩
  | unsent _ encoded ended _ | sendingInterrupted _ encoded ended _ =>
    have same := Situation.encode_sameBut encoded
    exact none ((Counts.of_sameBut same).trans (.rejected ended _ _))

namespace Session

/-- Steps count no more messages than there are steps that send. -/
theorem turnFrom_counts (config : Config) (steps : List Step) :
    ∀ number (here : Situation σ), ∃ n ≤ steps.countP (·.kind = .send),
      here.Counts (turnFrom config number steps here).deeds
        (turnFrom config number steps here).after n := by
  induction steps with
  | nil => exact fun _ here => ⟨0, Nat.le_refl 0, .refl here⟩
  | cons step steps ih =>
    intro number here
    obtain ⟨m, counts, atMost, -⟩ := (step.turn_takes config here).counts
    rw [List.countP_cons, Nat.add_comm]
    exact Counts.andThen ⟨m, by simpa using atMost, counts⟩ (ih (number + 1))

/-- No message is sent before the steps. -/
theorem opening_counts {s : Session σ} {here : Situation σ}
    (free : ¬ s.config.defersConnection → here.context.connection = none) :
    here.Counts (s.opening here).deeds (s.opening here).after 0 := by
  have opens := opening_opens free
  generalize s.opening here = turn at opens
  cases opens with
  | begun begins =>
    cases begins with
    | deferred _ => exact .refl here
    | opened _ _ => exact .unsent rfl rfl rfl fun _ _ => rfl
  | refused _ _ _ | interrupted _ _ _ => exact .unsent rfl rfl rfl fun _ _ => rfl

theorem Begins.counts {s : Session σ} {here start : Situation σ} {first : List Action}
    (begins : s.Begins here first start) : here.Counts first (start.enter .executing) 0 := by
  cases begins <;> exact .unsent rfl rfl rfl fun _ _ => rfl

/-- No message is sent after the steps. -/
theorem releases_counts {here : Situation σ} {t : Turn σ} (releases : here.Releases t) :
    here.Counts t.deeds t.after 0 := by
  cases releases <;> exact .unsent rfl rfl rfl fun _ _ => rfl

/-- A whole session counts no more messages than it has steps that send. -/
theorem Takes.counts {s : Session σ} {here : Situation σ} {course : Course σ}
    (takes : s.Takes here course) : ∃ n ≤ s.steps.countP (·.kind = .send),
      here.Counts course.deeds course.after n := by
  cases takes with
  | refused _ _ _ | interrupted _ _ _ =>
    exact ⟨0, Nat.zero_le _, .unsent rfl rfl rfl fun _ _ => rfl⟩
  | @ran _ start begins _ _ stepped releases =>
    subst stepped
    obtain ⟨n, atMost, counts⟩ := turnFrom_counts s.config s.steps 0 (start.enter .executing)
    exact ⟨_, by omega, begins.counts.trans (counts.trans (releases_counts releases))⟩

end Session

end SessionScript
