import SessionScript.Proofs.Session.Simulation

/-!
# What steps respect

A relation between states that leads along notes and along the use of scripts leads along all acts
that end as a script says. A relation that leads from the start to the end of each thing that a step
does also leads from the start to the end of whole steps, and of steps one after the other, wherever
they stop. Nothing is said about the audience here: what it does to the relation is one of the cases.
-/

namespace SessionScript

variable {σ ω α : Type}

/-- Everything that a step does leads along a relation. -/
structure StepsRespect (audience : Audience ω) (R : Running σ ω → Running σ ω → Prop) : Prop where
  numbers : ∀ (step : Step) (number : Nat), Leads R
    (Act.note .debug .runs ("step " ++ Text.ofNat number ++ ": " ++ step.kind.name) :
      Act σ ω Unit)
  describes : ∀ message, Leads R (Act.note .debug .steps message : Act σ ω Unit)
  tells : ∀ e, Leads R (Act.emit audience e : Act σ ω Unit)
  resolves : ∀ v, Leads R (Act.resolve v : Act σ ω Value)
  sleeps : ∀ seconds, Leads R (Act.sleep seconds : Act σ ω Unit)
  sends : ∀ c m, Leads R (Act.sendTo c m : Act σ ω Unit)
  counts : ∀ f : SessionContext σ → SessionContext σ, (∀ x, (f x).connection = x.connection) →
    Leads R (Act.modifyContext f : Act σ ω Unit)
  connects : ∀ address url,
    Leads R (connectTo audience address >>= fun c => holdInstead c url : Act σ ω Unit)

/-- Using up scripts leads along a relation, and so does whatever else is done with the world and
    leaves its trace and its audience as they are. -/
def ScriptsRespect (R : Running σ ω → Running σ ω → Prop) : Prop :=
  ∀ f : World σ ω → World σ ω, (∀ w, (f w).trace = w.trace ∧ (f w).audience = w.audience) →
    Leads R (Act.modifyWorld f : Act σ ω Unit)

variable {audience : Audience ω} {R : Running σ ω → Running σ ω → Prop} [IsPreorder _ R]

/-! ## Acts with a script -/

namespace Act

/-- An attempt leads where the act leads, whether its failure is handled or not. -/
theorem attempt_leads {act : Act σ ω α} (hact : Leads R act) : Leads R (attempt act) := by
  refine Leads.tryCatch (hact.bind fun a => .pure _) fun f => ?_
  split
  · exact .throw f
  · exact .pure _

theorem finish_leads (e : Ending) : Leads R (finish e : Act σ ω Unit) := by
  cases e with
  | none => exact .pure ()
  | some f => exact .throw f

theorem closeQuietly_leads {c : Connection} (closes : Leads R (close c : Act σ ω Unit))
    (notes : ∀ message, Leads R (note .warning .connections message : Act σ ω Unit)) :
    Leads R (closeQuietly c : Act σ ω Unit) := by
  refine (attempt_leads closes).bind fun result => ?_
  cases result with
  | ok _ => exact .pure ()
  | error f => exact notes _

end Act

theorem connectTo_leads {address : String}
    (opens : Leads R (Act.openAt address : Act σ ω Connection))
    (tells : ∀ e, Leads R (Act.emit audience e : Act σ ω Unit)) :
    Leads R (connectTo audience address : Act σ ω Connection) := by
  refine (Act.attempt_leads opens).bind fun result => ?_
  cases result with
  | ok c => exact .pure c
  | error f => exact (tells _).bind fun _ => .throw _

/-- A connection that was held is announced and closed. -/
theorem closeAny_leads {announce : Connection → Act σ ω Unit}
    (announces : ∀ c, Leads R (announce c))
    (closes : ∀ c, Leads R (Act.closeQuietly c : Act σ ω Unit)) (held : Option Connection) :
    Leads R
      (match held with
        | none => pure ()
        | some c => do
          announce c
          Act.closeQuietly c : Act σ ω Unit) := by
  cases held with
  | none => exact .pure ()
  | some c => exact (announces c).bind fun _ => closes c

namespace ScriptsRespect

variable (scripts : ScriptsRespect R)
include scripts

/-- What is noted, uses up a script and ends as it says leads where its note leads. -/
theorem scripted {a : Action} (noted : Leads R (Act.record a : Act σ ω Unit))
    (take : World σ ω → World σ ω)
    (same : ∀ w, (take w).trace = w.trace ∧ (take w).audience = w.audience)
    (ending : World σ ω → Ending) :
    Leads R (do
      Act.record a
      let w := (← get).world
      Act.modifyWorld take
      Act.finish (ending w) : Act σ ω Unit) :=
  noted.bind fun _ => Leads.get.bind fun _ => (scripts take same).bind fun _ => Act.finish_leads _

theorem sendTo {c : Connection} {m : Message}
    (noted : Leads R (Act.record (.sends c m) : Act σ ω Unit)) :
    Leads R (Act.sendTo c m : Act σ ω Unit) :=
  scripts.scripted noted (fun w => { w with sendings := w.sendings.drop 1 }) (fun _ => ⟨rfl, rfl⟩)
    fun w => w.sendings.head?.join

theorem close {c : Connection} (noted : Leads R (Act.record (.closes c) : Act σ ω Unit)) :
    Leads R (Act.close c : Act σ ω Unit) :=
  scripts.scripted noted (fun w => { w with closings := w.closings.drop 1 }) (fun _ => ⟨rfl, rfl⟩)
    fun w => w.closings.head?.join

theorem sleep {seconds : Binary64}
    (noted : Leads R (Act.record (.sleeps seconds) : Act σ ω Unit)) :
    Leads R (Act.sleep seconds : Act σ ω Unit) :=
  scripts.scripted noted (fun w => { w with sleepings := w.sleepings.drop 1 })
    (fun _ => ⟨rfl, rfl⟩) fun w => w.sleepings.head?.join

theorem openAt {address : String}
    (noted : Leads R (Act.record (.opens address) : Act σ ω Unit)) :
    Leads R (Act.openAt address : Act σ ω Connection) := by
  refine noted.bind fun _ => Leads.get.bind fun _ => Leads.bind (scripts _ ?_) fun _ =>
    (Act.finish_leads _).bind fun _ => Leads.bind (scripts _ ?_) fun _ => .pure _
  all_goals exact fun _ => ⟨rfl, rfl⟩

end ScriptsRespect

/-! ## Steps -/

namespace StepsRespect

variable (respect : StepsRespect audience R)
include respect

theorem encode (payload : Payload) :
    Leads R (payload.encode Act.resolve : Act σ ω Message) := by
  cases payload with
  | text template => exact (respect.resolves (.text template)).bind fun _ => .pure _
  | bytes b => exact .pure _
  | json body => exact (respect.resolves body).bind fun _ => .ofExcept _

theorem writeTo (c : Connection) (m : Message) :
    Leads R (writeTo audience c m : Act σ ω Unit) := by
  refine (respect.tells .request).bind fun _ =>
    (Act.attempt_leads (respect.sends c m)).bind fun result => ?_
  cases result with
  | ok _ =>
    exact Leads.get.bind fun _ => (respect.tells _).bind fun _ => respect.counts _ fun _ => rfl
  | error f => exact (respect.tells _).bind fun _ => .throw _

theorem runSend (payload : Payload) : Leads R (runSend audience payload : Act σ ω Unit) := by
  refine Leads.get.bind fun r => ?_
  cases r.context.connection with
  | none => exact .throw _
  | some c =>
    exact (respect.encode payload).bind fun m =>
      (respect.describes _).bind fun _ => respect.writeTo c m

theorem runConnect (config : Config) (url : String) :
    Leads R (runConnect audience config url : Act σ ω Unit) :=
  (respect.resolves (.text url)).bind fun _ =>
    (respect.describes _).bind fun _ => respect.connects _ _

/-- A step leads along the relation. -/
theorem run (config : Config) (step : Step) :
    Leads R (step.run audience config : Act σ ω Unit) := by
  cases step with
  | think seconds => exact (respect.describes _).bind fun _ => respect.sleeps seconds
  | connect url => exact respect.runConnect config url
  | send payload => exact respect.runSend payload

theorem runStep (s : Session σ) (step : Step) (number : Nat) :
    Leads R (Session.runStep audience s step number : Act σ ω Unit) := by
  refine (respect.numbers step number).bind fun _ =>
    (Act.attempt_leads (respect.run s.config step)).bind fun result => ?_
  cases result with
  | ok _ => exact .pure ()
  | error f => exact Leads.get.bind fun _ => .throw _

/-- Steps lead along the relation, wherever they stop. -/
theorem runSteps (s : Session σ) (steps : List Step) :
    ∀ n, Leads R (Session.runSteps audience s n steps : Act σ ω Unit) := by
  induction steps with
  | nil => exact fun _ => .pure ()
  | cons step steps ih => exact fun n => (respect.runStep s step n).bind fun _ => ih (n + 1)

end StepsRespect

end SessionScript
