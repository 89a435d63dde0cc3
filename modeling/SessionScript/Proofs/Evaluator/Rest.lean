import SessionScript.Evaluator.Run

/-!
# Evaluators at rest

Between runs no error is being handled and no call is being made, but a run may leave a store
that says otherwise. What values are for the host, and which cells they become, does not depend
on that.
-/

namespace SessionScript.Evaluator

/-- A store as a run finds it: no error is being handled, and no call has been made. -/
def atRest (s : Store) : Store := { s with handling := [], room := mostCalls }

/-- The end of a computation with its store at rest. -/
def endAtRest {α : Type} : EStateM.Result Raised Store α → EStateM.Result Raised Store α
  | .ok x s => .ok x (atRest s)
  | .error e s => .error e (atRest s)

/-- A computation that only works with the cells of a store. -/
def Calm {α : Type} (w : Work α) : Prop := ∀ s, w (atRest s) = endAtRest (w s)

namespace Calm

variable {α β : Type} {w : Work α} {f : α → Work β}

theorem pure {x : α} : Calm (pure x) := fun _ => rfl

theorem throw {e : Raised} : Calm (throw e : Work α) := fun _ => rfl

theorem bind (h : Calm w) (k : ∀ x, Calm (f x)) : Calm (w >>= f) := by
  intro s
  simp only [Bind.bind, EStateM.bind, h s]
  cases w s with
  | ok x s => exact k x s
  | error e s => rfl

theorem ite {p : Prop} [Decidable p] {v : Work α} (h : Calm w) (h' : Calm v) :
    Calm (if p then w else v) := by
  split
  · exact h
  · exact h'

theorem mapM {xs : List α} (h : ∀ x ∈ xs, Calm (f x)) : Calm (xs.mapM f) := by
  induction xs with
  | nil => exact pure
  | cons x xs ih =>
    rw [List.mapM_cons]
    refine (h x (List.mem_cons_self ..)).bind fun _ => ?_
    exact (ih fun z hz => h z (List.mem_cons_of_mem _ hz)).bind fun _ => pure

theorem read (a : Nat) : Calm (Work.read a) := fun _ => rfl

theorem new (c : Cell) : Calm (Work.new c) := fun _ => rfl

end Calm

/-! ## Values for the host -/

namespace Datum

theorem typeIn_atRest (s : Store) (d : Datum) : d.typeIn (atRest s) = d.typeIn s := by
  cases d <;> rfl

theorem typeName_calm (d : Datum) : Calm d.typeName :=
  fun s => congrArg (EStateM.Result.ok · (atRest s)) (typeIn_atRest s d)

theorem decimalText_calm (i : Int) : Calm (decimalText i) := by
  unfold decimalText
  split
  · exact Calm.throw.bind fun _ => .pure
  · exact .pure

theorem shownWithin_calm : (n : Nat) → (above : List Nat) → (d : Datum) →
    Calm (shownWithin n above d)
  | 0, _, _ => .throw
  | n + 1, above, d => by
    have one (above : List Nat) := shownWithin_calm n above
    have all (above : List Nat) (xs : List Datum) : Calm (shownAll (shownWithin n above) xs) :=
      .mapM fun d _ => one above d
    cases d with
    | int i => exact decimalText_calm i
    | tuple xs =>
      match xs with
      | [x] => exact (one above x).bind fun _ => .pure
      | [] | _ :: _ :: _ => exact (all above _).bind fun _ => .pure
    | slice a b c => exact (all above _).bind fun _ => .pure
    | method owner name => exact (typeName_calm owner).bind fun _ => .pure
    | error kind xs =>
      match xs with
      | [x] => exact (one above x).bind fun _ => .pure
      | [] | _ :: _ :: _ => exact (all above _).bind fun _ => .pure
    | view kind a =>
      have entries : Calm (Work.entriesOf a) :=
        (Calm.read a).bind fun c => by cases c <;> exact .pure
      have items : Calm (Work.viewItems kind a) :=
        entries.bind fun _ => by cases kind <;> exact .pure
      exact items.bind fun xs => (all (a :: above) xs).bind fun _ => .pure
    | cell a =>
      refine (Calm.read a).bind fun c => ?_
      cases c with
      | list xs => exact .ite .pure ((all _ _).bind fun _ => .pure)
      | dict es =>
        have entries : Calm (shownPairs (shownWithin n (a :: above)) es) :=
          .mapM fun e _ => (one _ e.1).bind fun _ => (one _ e.2).bind fun _ => .pure
        exact .ite .pure (entries.bind fun _ => .pure)
      | set ms frozen =>
        cases ms with
        | nil => exact .pure
        | cons d ms => exact (all _ _).bind fun _ => .pure
      | _ => exact .pure
    | _ => exact .pure

theorem shown_calm (d : Datum) : Calm d.shown := shownWithin_calm _ [] d

theorem plainText_calm (d : Datum) : Calm d.plainText := by
  cases d with
  | error kind xs =>
    match xs with
    | [] => exact .pure
    | [x] => exact .ite (shown_calm x) (by cases x <;> first | exact .pure | exact shown_calm _)
    | _ :: _ :: _ => exact shown_calm _
  | text | host => exact .pure
  | _ => exact shown_calm _

end Datum

theorem peek_atRest {w : Work String} (h : Calm w) (s : Store) :
    peek (atRest s) w = peek s w := by
  simp only [peek, EStateM.run, h s]
  cases w s <;> rfl

theorem known_atRest (s : Store) (d : Datum) : known (atRest s) d = known s d := by
  simp only [known, Datum.typeIn_atRest, peek_atRest (Datum.shown_calm d)]

theorem giveWithin_atRest (s : Store) : (n : Nat) → (above : List Nat) → (d : Datum) →
    giveWithin (atRest s) n above d = giveWithin s n above d
  | 0, _, d => known_atRest s d
  | n + 1, above, d => by
    have one (above : List Nat) := funext (giveWithin_atRest s n above)
    cases d with
    | tuple xs => simp only [giveWithin, one]
    | error kind xs => simp only [giveWithin, peek_atRest (Datum.plainText_calm _)]
    | cell a =>
      have cells : (atRest s).cells = s.cells := rfl
      simp only [giveWithin, one, known_atRest, cells]
    | none | bool | int | float | text | bytes | host => rfl
    | _ => exact known_atRest s _

theorem give_atRest (s : Store) (d : Datum) : give (atRest s) d = give s d :=
  giveWithin_atRest s _ [] d

/-! ## Values of the host -/

mutual

theorem take_calm : (v : Value) → Calm (take v)
  | .null | .bool _ | .int _ | .float _ | .text _ | .bytes _ => .pure
  | .date _ | .datetime _ | .object _ | .error _ _ | .other _ _ => .pure
  | .list vs => (takeItems_calm vs).bind fun _ => .new _
  | .tuple vs => (takeItems_calm vs).bind fun _ => .pure
  | .set vs => (takeItems_calm vs).bind fun _ => .new _
  | .dict es => (takeEntries_calm es).bind fun _ => .new _

theorem takeItems_calm : (vs : List Value) → Calm (takeItems vs)
  | [] => .pure
  | v :: vs => (take_calm v).bind fun _ => (takeItems_calm vs).bind fun _ => .pure

theorem takeEntries_calm : (es : List (Value × Value)) → Calm (takeEntries es)
  | [] => .pure
  | (k, v) :: es =>
    (take_calm k).bind fun _ => (take_calm v).bind fun _ =>
      (takeEntries_calm es).bind fun _ => .pure

end

end SessionScript.Evaluator
