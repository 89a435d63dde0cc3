import SessionScript.Proofs.Template.Settling

/-!
# Variables make no calls

Where functions work without variables, the calls that the resolution of a value makes, what it
writes to the log and how each of its texts settles do not depend on what variables hold: two
resolutions that differ in nothing but the variables differ in nothing but what is shown in the
place of variable markers. What a variable holds is put into a text as it is, and is never itself
read as a call or as another marker.
-/

namespace SessionScript.Template

variable {σ τ : Type}

/-! ## Tables that work alike -/

/-- Two tables bind the same names, to functions that work alike, and what is written to the log
    makes no difference between their memories. -/
structure Functions.Match (R : Memory σ → Memory τ → Prop) (funcs : Functions σ)
    (funcs' : Functions τ) : Prop where
  notes : ∀ severity area message,
    Alike R (note severity area message : Resolving σ Unit) (note severity area message)
  unbound : ∀ name, funcs.get? name = none → funcs'.get? name = none
  bound : ∀ name fn, funcs.get? name = some fn →
    ∃ fn', funcs'.get? name = some fn' ∧ ∀ args, Alike R (invoke fn args) (invoke fn' args)

/-- With tables that match each other texts settle alike. -/
theorem settle_alike {R : Memory σ → Memory τ → Prop} {funcs : Functions σ} {funcs' : Functions τ}
    (same : funcs.Match R funcs') (limit : Nat) :
    ∀ cs, Alike R (settle funcs limit cs) (settle funcs' limit cs) := by
  induction limit with
  | zero => exact fun _ => .throw endless
  | succ limit ih =>
    intro cs
    unfold settle
    cases CallMarker.find? cs with
    | none => exact .pure _
    | some m =>
      simp only []
      rcases Call.parse m.call with fault | call?
      · cases fault with
        | syntaxFault e why => exact .throw _
        | keywordArguments name => exact (same.notes _ _ _).bind fun _ => .pure _
        | notLiteral e => exact (same.notes _ _ _).bind fun _ => .pure _
      · cases call? with
        | none => exact .pure _
        | some call =>
          simp only []
          cases found : funcs.get? call.name with
          | none =>
            rw [same.unbound _ found]
            exact (same.notes _ _ _).bind fun _ => .pure _
          | some fn =>
            obtain ⟨fn', found', alike⟩ := same.bound _ _ found
            rw [found']
            exact (alike _).bind fun v => (Alike.ofExcept _).bind fun s => ih _

/-! ## Functions that work without variables -/

/-- What a function returns and what becomes of its host does not depend on variables. -/
def Function.IsBlind (fn : Function σ) : Prop :=
  ∀ args vars vars' host,
    (fn args vars host).1 = (fn args vars' host).1 ∧
      (fn args vars host).2.2 = (fn args vars' host).2.2

def Functions.AreBlind (funcs : Functions σ) : Prop :=
  ∀ name fn, funcs.get? name = some fn → fn.IsBlind

/-- Two memories that differ in their variables only. -/
structure Memory.Agrees (m m' : Memory σ) : Prop where
  host : m.host = m'.host
  log : m.log = m'.log

theorem Functions.AreBlind.matches {funcs : Functions σ} (blind : funcs.AreBlind) :
    funcs.Match Memory.Agrees funcs where
  notes severity area message := fun m m' agree =>
    ⟨rfl, agree.host, congrArg (· ++ [(⟨severity, area, message⟩ : LogEntry)]) agree.log⟩
  unbound _ unbound := unbound
  bound name fn found := by
    refine ⟨fn, found, fun args m m' agree => ?_⟩
    obtain ⟨result, host⟩ := blind name fn found args m.vars m'.vars m.host
    rw [exec_invoke, exec_invoke, ← agree.host]
    exact ⟨result, host, agree.log⟩

/-- Without failures to show a variable, resolutions from memories that differ in their variables
    have texts that settle in the same way, and stop and leave the same. -/
theorem resolution_agrees {funcs : Functions σ} (blind : funcs.AreBlind) (limit : Nat)
    (texts : List String) :
    ∀ {m m' : Memory σ}, m.Agrees m' →
      (∀ f, (resolution funcs limit texts m).stop ≠ some (.unrendered f)) →
      (∀ f, (resolution funcs limit texts m').stop ≠ some (.unrendered f)) →
      (resolution funcs limit texts m).settled = (resolution funcs limit texts m').settled ∧
        (resolution funcs limit texts m).stop = (resolution funcs limit texts m').stop ∧
        (resolution funcs limit texts m).after.Agrees (resolution funcs limit texts m').after := by
  induction texts with
  | nil => exact fun agree _ _ => ⟨rfl, rfl, agree⟩
  | cons s texts ih =>
    intro m m' agree renders renders'
    obtain ⟨result, n, n', settled, settled', left⟩ :=
      (settle_alike blind.matches limit s.toList).ends agree
    cases result with
    | error f =>
      rw [resolution_raised settled, resolution_raised settled']
      exact ⟨rfl, rfl, left⟩
    | ok t =>
      cases shown : t.text n.vars with
      | error f =>
        rw [resolution_unrendered settled shown] at renders
        exact absurd rfl (renders f)
      | ok cs =>
        cases shown' : t.text n'.vars with
        | error f =>
          rw [resolution_unrendered settled' shown'] at renders'
          exact absurd rfl (renders' f)
        | ok cs' =>
          rw [resolution_shown settled shown] at renders ⊢
          rw [resolution_shown settled' shown'] at renders' ⊢
          obtain ⟨rest, stop, after⟩ := ih left renders renders'
          exact ⟨congrArg (t :: ·) rest, stop, after⟩

/-! ## Functions that note their calls -/

/-- A function that notes each of its calls. -/
def Function.noting (name : String) (fn : Function σ) : Function (σ × List Call) :=
  fun args vars (host, calls) =>
    let (result, vars, host) := fn args vars host
    (result, vars, host, calls ++ [⟨name, args⟩])

def Functions.noting (funcs : Functions σ) : Functions (σ × List Call) :=
  funcs.map fun (name, fn) => (name, fn.noting name)

/-- A memory in which no call is noted yet. -/
def Memory.unnoted (m : Memory σ) : Memory (σ × List Call) := { m with host := (m.host, []) }

/-- A memory without the calls that are noted in it. -/
def Memory.forget (m : Memory (σ × List Call)) : Memory σ := { m with host := m.host.1 }

/-- The calls that resolving a value makes, in order. -/
def callsOf (funcs : Functions σ) (limit : Nat) (v : Value) (m : Memory σ) : List Call :=
  (exec (resolve funcs.noting limit v) m.unnoted).2.host.2

theorem Functions.get?_noting (funcs : Functions σ) (name : String) :
    funcs.noting.get? name = (funcs.get? name).map (Function.noting name) := by
  induction funcs with
  | nil => rfl
  | cons entry funcs ih =>
    obtain ⟨n, fn⟩ := entry
    have noted : Functions.noting ((n, fn) :: funcs) = (n, fn.noting n) :: Functions.noting funcs :=
      rfl
    rw [noted, get?_cons, get?_cons, ih]
    by_cases same : name = n <;> simp [same]

theorem Functions.AreBlind.noting {funcs : Functions σ} (blind : funcs.AreBlind) :
    funcs.noting.AreBlind := by
  intro name fn found args vars vars' host
  rw [get?_noting, Option.map_eq_some_iff] at found
  obtain ⟨fn', found, rfl⟩ := found
  obtain ⟨result, left⟩ := blind name fn' found args vars vars' host.1
  exact ⟨result, congrArg (·, host.2 ++ [⟨name, args⟩]) left⟩

/-- Noting calls makes no other difference. -/
theorem Functions.noting_matches (funcs : Functions σ) :
    funcs.noting.Match (fun m m' => m.forget = m') funcs where
  notes severity area message := by
    rintro m m' rfl
    exact ⟨rfl, rfl⟩
  unbound name unbound := by
    rw [get?_noting, Option.map_eq_none_iff] at unbound
    exact unbound
  bound name fn found := by
    rw [get?_noting, Option.map_eq_some_iff] at found
    obtain ⟨fn', found, rfl⟩ := found
    refine ⟨fn', found, fun args m m' same => ?_⟩
    subst same
    rw [exec_invoke, exec_invoke]
    exact ⟨rfl, rfl⟩

theorem resolution_noting (funcs : Functions σ) (limit : Nat) (texts : List String) :
    ∀ m : Memory (σ × List Call),
      (resolution funcs.noting limit texts m).shown =
          (resolution funcs limit texts m.forget).shown ∧
        (resolution funcs.noting limit texts m).stop =
          (resolution funcs limit texts m.forget).stop ∧
        (resolution funcs.noting limit texts m).after.forget =
          (resolution funcs limit texts m.forget).after := by
  induction texts with
  | nil => exact fun _ => ⟨rfl, rfl, rfl⟩
  | cons s texts ih =>
    intro m
    obtain ⟨result, n, _, settled, settled', rfl⟩ :=
      (settle_alike funcs.noting_matches limit s.toList).ends (rfl : m.forget = m.forget)
    cases result with
    | error f =>
      rw [resolution_raised settled, resolution_raised settled']
      exact ⟨rfl, rfl, rfl⟩
    | ok t =>
      cases shown : t.text n.vars with
      | error f =>
        have shown' : t.text n.forget.vars = .error f := shown
        rw [resolution_unrendered settled shown, resolution_unrendered settled' shown']
        exact ⟨rfl, rfl, rfl⟩
      | ok cs =>
        have shown' : t.text n.forget.vars = .ok cs := shown
        rw [resolution_shown settled shown, resolution_shown settled' shown']
        obtain ⟨rest, stop, after⟩ := ih n
        exact ⟨congrArg (⟨t, n.vars, cs⟩ :: ·) rest, stop, after⟩

/-- The resolution with functions that note their calls is the one without. -/
theorem exec_resolve_noting (funcs : Functions σ) (limit : Nat) {v : Value} (free : v.isSetFree)
    (m : Memory σ) :
    (exec (resolve funcs.noting limit v) m.unnoted).1.map Value.texts =
        (exec (resolve funcs limit v) m).1.map Value.texts ∧
      (exec (resolve funcs.noting limit v) m.unnoted).2.forget =
        (exec (resolve funcs limit v) m).2 := by
  obtain ⟨result, after⟩ := exec_resolve funcs limit free m
  obtain ⟨noted, left⟩ := exec_resolve funcs.noting limit free m.unnoted
  obtain ⟨shown, stop, same⟩ := resolution_noting funcs limit v.texts m.unnoted
  constructor
  · rw [noted, result, Resolution.result, Resolution.result, shown, stop]
    rfl
  · rw [left, after]
    exact same

/-! ## What variables have no part in -/

/-- Where functions work without variables, two resolutions of a value from memories that differ in
    their variables only make the same calls with the same arguments, write the same log and raise
    the same failure or none, and every text that is left as it stands in one is left so in the
    other, unless one of them fails to show a variable. A text that is not left shows its own
    characters and the texts of its variables, and nothing else. -/
theorem resolve_blind {funcs : Functions σ} (blind : funcs.AreBlind) (limit : Nat) {v : Value}
    (free : v.isSetFree) {m m' : Memory σ} (agree : m.Agrees m')
    (renders : ∀ f, (resolution funcs limit v.texts m).stop ≠ some (.unrendered f))
    (renders' : ∀ f, (resolution funcs limit v.texts m').stop ≠ some (.unrendered f)) :
    callsOf funcs limit v m = callsOf funcs limit v m' ∧
    (exec (resolve funcs limit v) m).2.Agrees (exec (resolve funcs limit v) m').2 ∧
    (∀ f, (exec (resolve funcs limit v) m).1 = .error f ↔
      (exec (resolve funcs limit v) m').1 = .error f) ∧
    (resolution funcs limit v.texts m).settled = (resolution funcs limit v.texts m').settled ∧
    ∀ n, (exec (resolve funcs limit v) n).1.map Value.texts =
        (resolution funcs limit v.texts n).result ∧
      (exec (resolve funcs limit v) n).2 = (resolution funcs limit v.texts n).after ∧
      ∀ x ∈ (resolution funcs limit v.texts n).shown, x.IsVerbatim := by
  obtain ⟨settled, stop, after⟩ := resolution_agrees blind limit v.texts agree renders renders'
  refine ⟨?_, ?_, fun f => ?_, settled, fun n => ?_⟩
  · have unnoted : m.unnoted.Agrees m'.unnoted := ⟨congrArg (·, []) agree.host, agree.log⟩
    have noted (n : Memory σ) : (resolution funcs.noting limit v.texts n.unnoted).stop =
        (resolution funcs limit v.texts n).stop :=
      (resolution_noting funcs limit v.texts n.unnoted).2.1
    obtain ⟨-, -, same⟩ := resolution_agrees blind.noting limit v.texts unnoted
      (by simpa only [noted] using renders) (by simpa only [noted] using renders')
    rw [callsOf, callsOf, (exec_resolve funcs.noting limit free _).2,
      (exec_resolve funcs.noting limit free _).2, same.host]
  · rw [(exec_resolve funcs limit free m).2, (exec_resolve funcs limit free m').2]
    exact after
  · rw [exec_resolve_error funcs limit free, exec_resolve_error funcs limit free, stop]
  · obtain ⟨result, left⟩ := exec_resolve funcs limit free n
    exact ⟨result, left, resolution_verbatim funcs limit v.texts n⟩

/-- A variable that holds a call is shown as it is, and makes no call. -/
theorem resolve_blind_of_calls :
    let count : Function Nat := fun _ vars n => (.ok (.int n), vars, n + 1)
    let funcs : Functions Nat := [("count", count)]
    let v : Value := .list [.text "\x7b\x7b $count(1) \x7d\x7d\x7b\x7bx\x7d\x7d",
      .text "\x7b\x7b $gone() \x7d\x7d\x7b\x7bx\x7d\x7d"]
    let m : Memory Nat := ⟨[(.text "x", .text "a")], 0, []⟩
    let m' : Memory Nat := ⟨[(.text "x", .text "\x7b\x7b $count() \x7d\x7d")], 0, []⟩
    callsOf funcs callLimit v m = callsOf funcs callLimit v m' ∧
      (callsOf funcs callLimit v m').length = 1 ∧
      (resolution funcs callLimit v.texts m).settled =
        (resolution funcs callLimit v.texts m').settled ∧
      (resolution funcs callLimit v.texts m').shown.map (fun x => String.ofList x.text) =
        ["0\x7b\x7b $count() \x7d\x7d", "\x7b\x7b $gone() \x7d\x7d\x7b\x7bx\x7d\x7d"] := by
  intro count funcs v m m'
  have blind : funcs.AreBlind := by
    intro name fn found
    obtain ⟨-, rfl⟩ : name = "count" ∧ count = fn := by
      rw [Functions.get?_cons] at found
      split at found
      · exact ⟨‹_›, Option.some.inj found⟩
      · cases found
    exact fun args vars vars' n => ⟨rfl, rfl⟩
  have renders (n : Memory Nat) (ends : (resolution funcs callLimit v.texts n).stop.isNone)
      (f : Failure) : (resolution funcs callLimit v.texts n).stop ≠ some (.unrendered f) := by
    rw [Option.isNone_iff_eq_none.mp ends]
    simp
  have free : v.isSetFree := rfl
  have agree : m.Agrees m' := ⟨rfl, rfl⟩
  obtain ⟨calls, -, -, settled, -⟩ := resolve_blind blind callLimit free agree
    (renders m (by decide +kernel)) (renders m' (by decide +kernel))
  exact ⟨calls, by decide +kernel, settled, by decide +kernel⟩

end SessionScript.Template
