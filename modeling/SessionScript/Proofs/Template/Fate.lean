import Mathlib.Data.List.Infix
import SessionScript.Proofs.Code.Calls
import SessionScript.Proofs.Template.Sites

/-!
# What becomes of a call

The calls in front of a call site change what is in front of it, and nothing else. The site stands
there until it is the first one, and then its call is made, unless the resolution ends before, or
the results of the other calls have put an opening in front of the site that takes it in. Only if
the resolution ends with a marker that is no call of a name, the site is treated as the marker of a
variable.
-/

namespace SessionScript.Template

variable {σ : Type}

/-- Without a call to make or a reason to stop, the first marker is no call of a name. -/
theorem of_plan_render {funcs : Functions σ} {cs : List Char} (planned : plan funcs cs = .render) :
    CallMarker.find? cs = none ∨
      ∃ marker, CallMarker.find? cs = some marker ∧ Call.parse marker.call = .ok none := by
  rw [plan] at planned
  split at planned
  · rename_i absent
    exact .inl absent
  · rename_i marker found
    split at planned
    · cases planned
    · cases planned
    · rename_i read
      exact .inr ⟨marker, found, read⟩
    · split at planned <;> cases planned

namespace CallSite

/-! ## Sites by themselves -/

/-- No call marker that opens in front of the site takes a part of it in: all of them end before
    it. -/
def StandsAlone (site : CallSite) (a b : List Char) : Prop :=
  ∀ y ∈ a.tails, y ≠ [] →
    ∀ p ∈ CallMarker.atStart? (y ++ (site.text ++ b)), site.text ++ b <:+ p.2

instance (site : CallSite) (a b : List Char) : Decidable (site.StandsAlone a b) :=
  inferInstanceAs (Decidable (∀ y ∈ a.tails, y ≠ [] →
    ∀ p ∈ CallMarker.atStart? (y ++ (site.text ++ b)), site.text ++ b <:+ p.2))

instance (site : CallSite) : Decidable site.IsWritten :=
  decidable_of_iff (site.lead.all Text.isBlank ∧ isIdentifier site.name.toList ∧
      site.args.all isInner ∧ site.trail.all Text.isBlank) <| by
    simp only [List.all_eq_true]
    constructor
    · rintro ⟨lead, name, args, trail⟩
      exact ⟨lead, name, args, trail⟩
    · rintro ⟨lead, name, args, trail⟩
      exact ⟨lead, name, args, trail⟩

/-- The call that is made next is that of a marker which opens in front of the site and has the site
    in it. -/
def IsSwallowed (funcs : Functions σ) (site : CallSite) (a b : List Char) : Prop :=
  ∃ x y inner other fn, a = x ++ y ∧ y ≠ [] ∧
    plan funcs (a ++ (site.text ++ b)) = .make ⟨x, inner, b⟩ other fn

/-- A site that stands alone is not in the marker of another call. -/
theorem StandsAlone.not_isSwallowed {funcs : Functions σ} {site : CallSite} {a b : List Char}
    (alone : site.StandsAlone a b) : ¬ site.IsSwallowed funcs a b := by
  rintro ⟨x, y, inner, other, fn, rfl, opens, planned⟩
  obtain ⟨found, -, -⟩ := of_plan_call planned
  obtain ⟨rest, whole, starts⟩ := CallMarker.find?_eq_some found
  obtain rfl : y ++ (site.text ++ b) = rest := by
    rw [List.append_assoc] at whole
    exact List.append_cancel_left whole
  have short : (site.text ++ b).length ≤ b.length :=
    (alone y ((List.mem_tails _ _).mpr (List.suffix_append x y)) opens (inner, b) starts).length_le
  rw [text, List.length_append, List.length_cons] at short
  omega

/-! ## Fates -/

/-- What becomes of the call of a site, where the resolution has made some calls and is at a text in
    which the site still stands. In the end it will have made all these calls and have this
    result. -/
inductive Fate (funcs : Functions σ) (site : CallSite) (call : Call) (b : List Char)
    (made : List Call) (result : Except Failure (List Char) × Memory σ)
    (calls : List Call) (a : List Char) (m : Memory σ) : Prop where
  /-- The site is the first one, and its call is the next that is made. -/
  | called {fn : Function σ}
    (planned : plan funcs (a ++ (site.text ++ b)) = .make ⟨a, site.expression, b⟩ call fn)
    (next : calls ++ [call] <+: made)
  /-- The resolution fails. -/
  | raised {f : Failure} (failed : result.1 = .error f)
  /-- The text is left as it is because of another marker, and the site with it. -/
  | left (earlier : CallMarker.find? (a ++ (site.text ++ b)) ≠ some ⟨a, site.expression, b⟩)
    (stands : result.1 = .ok (a ++ (site.text ++ b)))
  /-- The first marker is no call of a name, and so the variables of the text are replaced. -/
  | passed {marker : CallMarker} (found : CallMarker.find? (a ++ (site.text ++ b)) = some marker)
    (other : Call.parse marker.call = .ok none)
    (shown : result = (interpolate m.vars (a ++ (site.text ++ b)), m))
  /-- The site is in the marker of another call, and its text goes away with it. -/
  | swallowed (within : site.IsSwallowed funcs a b)

section Resolution

variable {funcs : Functions σ} {site : CallSite} {call : Call} {fn : Function σ}

/-- A call that is made before does not change a fate. -/
theorem Fate.behind {made : List Call} {result : Except Failure (List Char) × Memory σ}
    {calls : List Call} {a b : List Char} {m : Memory σ}
    (fate : site.Fate funcs call b made result calls a m) (other : Call) :
    site.Fate funcs call b (other :: made) result (other :: calls) a m := by
  cases fate with
  | called planned next => exact .called planned (List.cons_prefix_cons.mpr ⟨rfl, next⟩)
  | raised failed => exact .raised failed
  | left earlier stands => exact .left earlier stands
  | passed found other shown => exact .passed found other shown
  | swallowed within => exact .swallowed within

/-- Each call in front of a site leads to a text in which the site still stands, with the same text
    behind it, until it comes to its fate. -/
theorem exists_fate (written : site.IsWritten) (line : '\n' ∉ site.args)
    (read : Call.parse site.expression = .ok (some call)) (bound : funcs.get? call.name = some fn)
    (b : List Char) (limit : Nat) :
    ∀ (a : List Char) (m : Memory σ), ∃ calls a' m',
      funcs.ComesTo (a ++ (site.text ++ b)) m calls (a' ++ (site.text ++ b)) m' ∧
      site.Fate funcs call b (callsIn funcs limit (a ++ (site.text ++ b)) m)
        (exec (resolveText funcs limit (a ++ (site.text ++ b))) m) calls a' m' := by
  induction limit with
  | zero => exact fun a m => ⟨[], a, m, .here _ _, .raised rfl⟩
  | succ limit ih =>
    intro a m
    have run := congrArg (exec · m) (resolveText_succ funcs limit (a ++ (site.text ++ b)))
    cases planned : plan funcs (a ++ (site.text ++ b)) with
    | render =>
      simp only [planned, exec_render] at run
      rcases of_plan_render planned with absent | ⟨marker, found, other⟩
      · rcases find?_cases written line a b with ⟨_, -, found⟩ | found | ⟨_, _, _, -, -, found⟩ <;>
          rw [found] at absent <;> cases absent
      · exact ⟨[], a, m, .here _ _, .passed found other run⟩
    | leave severity message =>
      simp only [planned, exec_leave] at run
      have earlier : CallMarker.find? (a ++ (site.text ++ b)) ≠ some ⟨a, site.expression, b⟩ :=
        fun first => by
          rw [plan_call first read bound] at planned
          cases planned
      exact ⟨[], a, m, .here _ _, .left earlier (by rw [run])⟩
    | refuse f =>
      simp only [planned, exec_refuse] at run
      exact ⟨[], a, m, .here _ _, .raised (by rw [run])⟩
    | make marker other fn' =>
      obtain ⟨found, read', bound'⟩ := of_plan_call planned
      rcases find?_cases written line a b with
        ⟨earlier, -, found'⟩ | found' | ⟨x, y, inner, rfl, dollar, found'⟩ <;>
        obtain rfl := Option.some.inj (found.symm.trans found')
      · -- The marker ends before the site, and the result of its call is put in front of the site.
        rcases fails_or_returns planned m with ⟨f, m₁, failed, -⟩ | ⟨v, m₁, s, returned, shown⟩
        · rw [failed] at run
          exact ⟨[], a, m, .here _ _, .raised (by rw [run])⟩
        · have spliced : ({ earlier with after := earlier.after ++ (site.text ++ b) } :
              CallMarker).splice s.toList =
                earlier.splice s.toList ++ (site.text ++ b) := by
            simp [CallMarker.splice]
          obtain ⟨calls, a', m', comes, fate⟩ := ih (earlier.splice s.toList) m₁
          rw [← spliced] at comes fate
          refine ⟨other :: calls, a', m', .made planned returned shown comes, ?_⟩
          rw [exec_resolveText_made planned returned shown, callsIn_made planned returned shown]
          exact fate.behind other
      · obtain rfl : call = other := by
          rw [read] at read'
          exact Option.some.inj (Except.ok.inj read')
        refine ⟨[], a, m, .here _ _, .called planned ?_⟩
        rw [callsIn_succ, planned]
        exact List.prefix_append [call] _
      · have opens : y ≠ [] := List.ne_nil_of_mem dollar
        exact ⟨[], x ++ y, m, .here _ _, .swallowed ⟨x, y, inner, other, fn', rfl, opens, planned⟩⟩

/-- The call of a site that stands alone is made in its turn, unless the resolution fails before or
    leaves the text with the site in it, or comes to a marker that is no call of a name. Another
    call can only take the site in after a result has been put in front of it. -/
theorem call_kept (written : site.IsWritten) (line : '\n' ∉ site.args)
    (read : Call.parse site.expression = .ok (some call)) (bound : funcs.get? call.name = some fn)
    {a b : List Char} (alone : site.StandsAlone a b) (limit : Nat) (m : Memory σ) :
    ∃ calls a' m',
      funcs.ComesTo (a ++ (site.text ++ b)) m calls (a' ++ (site.text ++ b)) m' ∧
      site.Fate funcs call b (callsIn funcs limit (a ++ (site.text ++ b)) m)
        (exec (resolveText funcs limit (a ++ (site.text ++ b))) m) calls a' m' ∧
      (site.IsSwallowed funcs a' b → calls ≠ []) := by
  obtain ⟨calls, a', m', comes, fate⟩ := exists_fate written line read bound b limit a m
  refine ⟨calls, a', m', comes, fate, fun within none => ?_⟩
  subst none
  obtain rfl : a = a' := by
    generalize before : a ++ (site.text ++ b) = cs at comes
    generalize after : a' ++ (site.text ++ b) = cs' at comes
    cases comes
    exact List.append_cancel_right (before.trans after.symm)
  exact alone.not_isSwallowed within

end Resolution

/-- A call behind another one is made in its turn. -/
theorem call_kept_behind_g :
    let funcs : Functions Unit :=
      ["f", "g"].map fun name => (name, fun _ vars host => (.ok (.text ""), vars, host))
    let m : Memory Unit := ⟨[], (), []⟩
    let site : CallSite := ⟨[' '], "f", [], [' ']⟩
    let a := "\x7b\x7b $g() \x7d\x7d".toList
    ∃ calls a' m', funcs.ComesTo (a ++ (site.text ++ [])) m calls (a' ++ (site.text ++ [])) m' ∧
      site.Fate funcs ⟨"f", []⟩ [] (callsIn funcs callLimit (a ++ (site.text ++ [])) m)
        (exec (resolveText funcs callLimit (a ++ (site.text ++ []))) m) calls a' m' ∧
      (site.IsSwallowed funcs a' [] → calls ≠ []) := by
  intro funcs m site a
  have read : Call.parse site.expression = .ok (some ⟨"f", []⟩) :=
    Call.parse_of_isName (by decide) (by decide)
  have bound : funcs.get? "f" = some fun _ vars host => (.ok (.text ""), vars, host) := rfl
  have written : site.IsWritten := by decide
  exact call_kept written (by decide) read bound (by decide) callLimit m

/-- Texts that end with a site that stands alone: behind a marker that is no call of a name, behind
    one whose result lets another call go on into the site, and with a line feed in the
    arguments. -/
def endings : List (List Char × CallSite) :=
  [("\x7b\x7b $g()() \x7d\x7d".toList, ⟨[' '], "f", [], [' ']⟩),
    ("\x7b\x7b\x7b\x7b $g() \x7d\x7d$h(1) #".toList, ⟨[' '], "f", [], [' ']⟩),
    ([], ⟨[' '], "f", "1,\n2".toList, [' ']⟩)]

/-- A call that stands alone can go away without being made, failing or standing in the result. -/
theorem call_dropped :
    let funcs : Functions Unit :=
      ["f", "g", "h"].map fun name => (name, fun _ vars host => (.ok (.text ""), vars, host))
    let m : Memory Unit := ⟨[], (), []⟩
    ∀ p ∈ endings,
      let run := exec (resolveText funcs callLimit (p.1 ++ p.2.text)) m
      p.2.IsWritten ∧ p.2.StandsAlone p.1 [] ∧
      (∃ call fn, Call.parse p.2.expression = .ok (some call) ∧ call.name = "f" ∧
        funcs.get? call.name = some fn) ∧
      ¬ ((∃ call ∈ callsIn funcs callLimit (p.1 ++ p.2.text) m, call.name = "f") ∨
        (∃ f, run.1 = .error f) ∨ ∃ cs, run.1 = .ok cs ∧ p.2.text <:+: cs) := by
  intro funcs m p among run
  have each : ∀ p ∈ endings,
      p.2.IsWritten ∧ p.2.StandsAlone p.1 [] ∧
      (Call.parse p.2.expression).toOption.join.map Call.name = some "f" ∧
      (∀ call ∈ callsIn funcs callLimit (p.1 ++ p.2.text) m, call.name ≠ "f") ∧
      (exec (resolveText funcs callLimit (p.1 ++ p.2.text)) m).1.toOption = some [] := by
    decide +kernel
  obtain ⟨written, alone, named, uncalled, empty⟩ := each p among
  have result {ε α : Type} {x : Except ε α} {y : α} (some : x.toOption = .some y) : x = .ok y := by
    cases x <;> cases some
    rfl
  refine ⟨written, alone, ?_, ?_⟩
  · obtain ⟨call, read, same⟩ := Option.map_eq_some_iff.mp named
    exact ⟨call, _, result (Option.join_eq_some_iff.mp read), same, by rw [same]; rfl⟩
  · replace empty := result empty
    rintro (⟨call, made, same⟩ | ⟨f, failed⟩ | ⟨cs, shown, stands⟩)
    · exact uncalled call made same
    · rw [empty] at failed
      cases failed
    · rw [empty] at shown
      cases shown
      exact absurd stands.length_le (by simp [CallSite.text])

end CallSite

end SessionScript.Template
