import Mathlib.Data.List.Forall2
import SessionScript.Proofs.Template.Failing
import SessionScript.Proofs.Value.Leaves

/-!
# Resolutions

A text is resolved in two parts. First it settles: its calls are made one after the other, until it
is left as it stands or no call is in it any more. Then, in a text without calls, variables are
replaced. Only the second part reads variables, and nothing that it puts into a text is looked at
again. The resolution of a value tells for each of its texts, from left to right, how it settled
and what is shown in its place.
-/

namespace SessionScript.Template

variable {σ τ : Type}

/-! ## Texts that settle -/

/-- A text that has settled: left as it stands, or ready to have its variables replaced. -/
inductive Settled where
  | left (cs : List Char)
  | ready (cs : List Char)
  deriving DecidableEq, Repr

/-- What is shown of a settled text. -/
def Settled.text (vars : Entries) : Settled → Except Failure (List Char)
  | .left cs => .ok cs
  | .ready cs => interpolate vars cs

/-- Makes the calls of a text, at most a number of them after each other. -/
def settle (funcs : Functions σ) : Nat → List Char → Resolving σ Settled
  | 0, _ => throw endless
  | limit + 1, cs =>
    match CallMarker.find? cs with
    | none => return .ready cs
    | some m =>
      match Call.parse m.call with
      | .error (.syntaxFault e why) => throw (Call.Fault.syntaxFault e why).failure
      | .error fault => do
        let message := match fault.failure with
          | .report r => r.message
          | f => f.shown
        note .warning .templates
          ("Template " ++ Text.quoted (String.ofList cs) ++ " left unresolved: " ++ message)
        return .left cs
      | .ok none => return .ready cs
      | .ok (some call) =>
        match funcs.get? call.name with
        | none => do
          note .debug .templates
            ("Function " ++ Text.quoted call.name ++ " is not bound, template left unresolved")
          return .left cs
        | some f => do
          let result ← invoke f call.args
          let text ← MonadExcept.ofExcept (textOf result)
          settle funcs limit (m.splice text.toList)

/-- A text is resolved by settling it and showing it with the variables that there are then. -/
theorem resolveText_eq (funcs : Functions σ) (limit : Nat) :
    ∀ cs, resolveText funcs limit cs = (do
      let t ← settle funcs limit cs
      MonadExcept.ofExcept (t.text (← get).vars)) := by
  induction limit with
  | zero => exact fun _ => rfl
  | succ limit ih =>
    intro cs
    unfold resolveText settle
    cases CallMarker.find? cs with
    | none => rfl
    | some m =>
      simp only []
      rcases Call.parse m.call with fault | call?
      · cases fault <;> rfl
      · cases call? with
        | none => rfl
        | some call =>
          simp only []
          cases funcs.get? call.name with
          | none => rfl
          | some f => simp only [ih, bind_assoc]

theorem exec_resolveText (funcs : Functions σ) (limit : Nat) (cs : List Char) (m : Memory σ) :
    exec (resolveText funcs limit cs) m =
      match exec (settle funcs limit cs) m with
      | (.ok t, m') => (t.text m'.vars, m')
      | (.error f, m') => (.error f, m') := by
  rw [resolveText_eq, exec_bind]
  rcases exec (settle funcs limit cs) m with ⟨f | t, m'⟩
  · rfl
  · simp [exec_bind]

/-! ## Values text by text -/

/-- A text of a value: how it settled, the variables that there were then, and what is shown of it
    with them. -/
structure Shown where
  settled : Settled
  vars : Entries
  text : List Char

/-- What ends a resolution early: a failure of a call, or a variable that can not be shown. -/
inductive Stop where
  | raised (f : Failure)
  | unrendered (f : Failure)

def Stop.failure : Stop → Failure
  | .raised f | .unrendered f => f

/-- What comes of texts: those that are shown, what ended the resolution early, if anything did,
    and the memory that is left. -/
structure Resolution (σ : Type) where
  shown : List Shown
  stop : Option Stop
  after : Memory σ

/-- The resolution of texts from left to right. -/
def resolution (funcs : Functions σ) (limit : Nat) : List String → Memory σ → Resolution σ
  | [], m => ⟨[], none, m⟩
  | s :: texts, m =>
    match exec (settle funcs limit s.toList) m with
    | (.error f, m') => ⟨[], some (.raised f), m'⟩
    | (.ok t, m') =>
      match t.text m'.vars with
      | .error f => ⟨[], some (.unrendered f), m'⟩
      | .ok cs =>
        let rest := resolution funcs limit texts m'
        { rest with shown := ⟨t, m'.vars, cs⟩ :: rest.shown }

section Resolution

variable {funcs : Functions σ} {limit : Nat} {s : String} {m m' : Memory σ}

/-- A text that does not settle ends a resolution. -/
theorem resolution_raised {f : Failure}
    (failed : exec (settle funcs limit s.toList) m = (.error f, m')) (texts : List String) :
    resolution funcs limit (s :: texts) m = ⟨[], some (.raised f), m'⟩ := by
  rw [resolution, failed]

/-- A variable that can not be shown ends a resolution. -/
theorem resolution_unrendered {t : Settled} {f : Failure}
    (settled : exec (settle funcs limit s.toList) m = (.ok t, m'))
    (failed : t.text m'.vars = .error f) (texts : List String) :
    resolution funcs limit (s :: texts) m = ⟨[], some (.unrendered f), m'⟩ := by
  simp only [resolution, settled, failed]

/-- A text that is shown is followed by the others. -/
theorem resolution_shown {t : Settled} {cs : List Char}
    (settled : exec (settle funcs limit s.toList) m = (.ok t, m'))
    (shown : t.text m'.vars = .ok cs) (texts : List String) :
    resolution funcs limit (s :: texts) m =
      { resolution funcs limit texts m' with
        shown := ⟨t, m'.vars, cs⟩ :: (resolution funcs limit texts m').shown } := by
  simp only [resolution, settled, shown]

end Resolution

namespace Resolution

/-- How the texts of a resolution settled. -/
def settled (r : Resolution σ) : List Settled := r.shown.map Shown.settled

/-- The result of a resolution. -/
def result (r : Resolution σ) : Except Failure (List String) :=
  match r.stop with
  | none => .ok (r.shown.map fun x => String.ofList x.text)
  | some stop => .error stop.failure

end Resolution

theorem exec_mapM_resolveText (funcs : Functions σ) (limit : Nat) (texts : List String) :
    ∀ m, exec (texts.mapM fun s => do return String.ofList (← resolveText funcs limit s.toList)) m =
      ((resolution funcs limit texts m).result, (resolution funcs limit texts m).after) := by
  induction texts with
  | nil => exact fun _ => rfl
  | cons s texts ih =>
    intro m
    rw [List.mapM_cons, exec_bind, exec_bind, exec_resolveText]
    rcases settled : exec (settle funcs limit s.toList) m with ⟨f | t, m'⟩
    · rw [resolution_raised settled]
      rfl
    · rcases shown : t.text m'.vars with f | cs
      · rw [resolution_unrendered settled shown]
        simp only [shown]
        rfl
      · rw [resolution_shown settled shown]
        simp only [shown, exec_pure]
        rw [exec_bind, ih m']
        cases stopped : (resolution funcs limit texts m').stop <;>
          simp [Resolution.result, stopped]

/-- A value without sets ends as the resolution of its texts does, and what it resolves to has the
    texts that are shown there. -/
theorem exec_resolve (funcs : Functions σ) (limit : Nat) {v : Value} (free : v.isSetFree)
    (m : Memory σ) :
    (exec (resolve funcs limit v) m).1.map Value.texts =
        (resolution funcs limit v.texts m).result ∧
      (exec (resolve funcs limit v) m).2 = (resolution funcs limit v.texts m).after := by
  have leaf : resolveLeaf funcs limit = Value.rewriteText fun s => do
      return String.ofList (← resolveText funcs limit s.toList) := by
    funext v
    cases v <;> simp [resolveLeaf, Value.rewriteText]
  have all := exec_mapM_resolveText funcs limit v.texts m
  rw [← Value.mapLeavesM_texts _ free, ← leaf, ← resolve, exec_map] at all
  exact ⟨congrArg Prod.fst all, congrArg Prod.snd all⟩

/-- A value without sets fails if something ends the resolution of its texts early. -/
theorem exec_resolve_error (funcs : Functions σ) (limit : Nat) {v : Value} (free : v.isSetFree)
    (m : Memory σ) (f : Failure) :
    (exec (resolve funcs limit v) m).1 = .error f ↔
      (resolution funcs limit v.texts m).stop.map Stop.failure = some f := by
  have result := (exec_resolve funcs limit free m).1
  cases stopped : (resolution funcs limit v.texts m).stop <;>
    cases ended : (exec (resolve funcs limit v) m).1 <;>
      simp_all [Resolution.result, Except.map]

/-! ## What is shown -/

/-- A character stands for itself, and a variable for the text of its value. -/
inductive Piece.Shows (vars : Entries) : Piece → List Char → Prop where
  | char (c : Char) : Shows vars (.char c) [c]
  | variable {path : List Char} {s : String} (shown : textOf (lookup vars path) = .ok s) :
    Shows vars (.variable path) s.toList

/-- A text is shown as it settled: verbatim if it is left as it stands, and otherwise piece by
    piece, with nothing in it but its characters and the texts of its variables. -/
def Shown.IsVerbatim (x : Shown) : Prop :=
  match x.settled with
  | .left cs => x.text = cs
  | .ready cs => ∃ parts, List.Forall₂ (Piece.Shows x.vars) (Piece.ofText cs) parts ∧
      x.text = parts.flatten

theorem renderPieces_shows {vars : Entries} :
    ∀ {ps : List Piece} {cs : List Char}, renderPieces vars ps = .ok cs →
      ∃ parts, List.Forall₂ (Piece.Shows vars) ps parts ∧ cs = parts.flatten
  | [], cs, rendered => by
    cases rendered
    exact ⟨[], .nil, rfl⟩
  | .char c :: ps, cs, rendered => by
    rw [renderPieces] at rendered
    cases rest : renderPieces vars ps with
    | error f =>
      rw [rest] at rendered
      cases rendered
    | ok ds =>
      rw [rest] at rendered
      cases rendered
      obtain ⟨parts, each, rfl⟩ := renderPieces_shows rest
      exact ⟨[c] :: parts, .cons (.char c) each, rfl⟩
  | .variable path :: ps, cs, rendered => by
    rw [renderPieces] at rendered
    obtain ⟨s, shown, rendered⟩ := bind_ok rendered
    obtain ⟨ds, rest, rendered⟩ := bind_ok rendered
    cases rendered
    obtain ⟨parts, each, rfl⟩ := renderPieces_shows rest
    exact ⟨s.toList :: parts, .cons (.variable shown) each, rfl⟩

/-- Everything that a resolution shows is shown verbatim. -/
theorem resolution_verbatim (funcs : Functions σ) (limit : Nat) (texts : List String) :
    ∀ m, ∀ x ∈ (resolution funcs limit texts m).shown, x.IsVerbatim := by
  induction texts with
  | nil => exact fun _ _ among => absurd among List.not_mem_nil
  | cons s texts ih =>
    intro m x among
    rcases settled : exec (settle funcs limit s.toList) m with ⟨f | t, m'⟩
    · rw [resolution_raised settled] at among
      cases among
    · rcases shown : t.text m'.vars with f | cs
      · rw [resolution_unrendered settled shown] at among
        cases among
      · rw [resolution_shown settled shown] at among
        rcases List.mem_cons.mp among with rfl | among
        · cases t with
          | left _ =>
            cases shown
            rfl
          | ready _ => exact renderPieces_shows shown
        · exact ih m' x among

end SessionScript.Template
