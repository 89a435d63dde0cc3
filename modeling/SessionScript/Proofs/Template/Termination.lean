import SessionScript.Proofs.Template.Sites

/-!
# The end of a resolution

A marker has a dollar sign, and it goes with the marker. So with functions whose results show none,
every call leaves fewer of them in the text, however long the text becomes, and the resolution ends
after as many calls as there are dollar signs in it.
-/

namespace SessionScript.Template

/-! ## What a marker takes from a text -/

/-- Closing braces stand behind blanks. -/
theorem closing?_eq_some {cs rest : List Char} (closed : closing? cs = some rest) :
    ∃ trail, cs = trail ++ '\x7d' :: '\x7d' :: rest ∧ ∀ c ∈ trail, Text.isBlank c := by
  rw [closing?] at closed
  split at closed
  · rename_i left
    cases closed
    refine ⟨cs.takeWhile Text.isBlank, ?_, fun c among => List.mem_takeWhile_imp among⟩
    rw [← left, List.takeWhile_append_dropWhile]
  · cases closed

/-- Arguments are characters of one line with a bracket behind them, which blanks and two closing
    braces follow. -/
theorem exists_bracket {cs : List Char} :
    ∀ {args after : List Char}, argumentsEnd? cs = some (args, after) →
      ∃ line trail, '\n' ∉ line ∧ (∀ c ∈ trail, Text.isBlank c) ∧ args = line ++ [')'] ∧
        cs = line ++ ')' :: (trail ++ '\x7d' :: '\x7d' :: after) := by
  induction cs with
  | nil =>
    intro args after ended
    cases ended
  | cons c cs ih =>
    -- What is found behind a character is found with it in front, unless it ends the line.
    have onward {args after : List Char} (inner : c ≠ '\n')
        (ended : ledBy [c] (argumentsEnd? cs) = some (args, after)) :
        ∃ line trail, '\n' ∉ line ∧ (∀ c ∈ trail, Text.isBlank c) ∧ args = line ++ [')'] ∧
          c :: cs = line ++ ')' :: (trail ++ '\x7d' :: '\x7d' :: after) := by
      obtain ⟨⟨args', after'⟩, ended, same⟩ := Option.map_eq_some_iff.mp ended
      cases same
      obtain ⟨line, trail, unbroken, blank, rfl, rfl⟩ := ih ended
      refine ⟨c :: line, trail, ?_, blank, rfl, rfl⟩
      intro among
      rcases List.mem_cons.mp among with same | among
      · exact inner same.symm
      · exact unbroken among
    intro args after ended
    by_cases bracket : c = ')'
    · subst bracket
      rw [argumentsEnd?_bracket] at ended
      split at ended
      · rename_i closed
        cases ended
        obtain ⟨trail, rfl, blank⟩ := closing?_eq_some closed
        exact ⟨[], trail, List.not_mem_nil, blank, rfl, rfl⟩
      · exact onward (by decide) ended
    · rw [argumentsEnd?_cons cs bracket] at ended
      split at ended
      · cases ended
      · rename_i inner
        exact onward inner ended

/-- Arguments stand at the start of a text, and closing braces behind them. -/
theorem argumentsEnd?_eq_some {cs args after : List Char}
    (ended : argumentsEnd? cs = some (args, after)) :
    ∃ trail, cs = args ++ (trail ++ '\x7d' :: '\x7d' :: after) := by
  obtain ⟨line, trail, -, -, rfl, rfl⟩ := exists_bracket ended
  exact ⟨trail, by simp⟩

namespace CallMarker

/-- A marker that starts a text has a dollar sign. -/
theorem atStart?_eq_some {cs call after : List Char} (starts : atStart? cs = some (call, after)) :
    ∃ t, cs = t ++ after ∧ '$' ∈ t := by
  obtain ⟨o, rest, args, -, rfl, ended, -⟩ := exists_opening starts
  obtain ⟨trail, rfl⟩ := argumentsEnd?_eq_some ended
  exact ⟨o.text ++ (args ++ (trail ++ ['\x7d', '\x7d'])), by simp, by simp [Opening.text]⟩

/-- The first marker of a text stands between what is before it and what is after it. -/
theorem exists_dollar {cs : List Char} {marker : CallMarker} (found : find? cs = some marker) :
    ∃ t, cs = marker.before ++ (t ++ marker.after) ∧ '$' ∈ t := by
  obtain ⟨rest, rfl, starts⟩ := find?_eq_some found
  obtain ⟨t, rfl, dollar⟩ := atStart?_eq_some starts
  exact ⟨t, rfl, dollar⟩

/-- A text that takes the place of a marker and has no dollar signs leaves fewer of them. -/
theorem count_splice_lt {cs : List Char} {marker : CallMarker} (found : find? cs = some marker)
    {r : List Char} (quiet : '$' ∉ r) : (marker.splice r).count '$' < cs.count '$' := by
  obtain ⟨t, rfl, dollar⟩ := exists_dollar found
  have none : r.count '$' = 0 := List.count_eq_zero.mpr quiet
  have some : 0 < t.count '$' := List.count_pos_iff.mpr dollar
  simp only [splice, List.count_append]
  omega

end CallMarker

/-! ## Quiet functions -/

variable {σ : Type} {funcs : Functions σ}

/-- There are no dollar signs in the texts of the results that the bound functions return. -/
def Functions.AreQuiet (funcs : Functions σ) : Prop :=
  ∀ name fn, funcs.get? name = some fn → ∀ args vars host v s,
    (fn args vars host).1 = .ok v → textOf v = .ok s → '$' ∉ s.toList

/-- What is planned for a text ends its resolution in this way, however texts are resolved that
    follow it. -/
def Functions.EndsAt (funcs : Functions σ) (cs : List Char) (m : Memory σ)
    (r : Except Failure (List Char) × Memory σ) : Prop :=
  ∀ next, exec ((plan funcs cs).carryOut next cs) m = r

section Quiet

variable (quiet : funcs.AreQuiet)
include quiet

/-- A planned call whose result is put into the text leaves fewer dollar signs. -/
theorem count_lt_of_made {cs : List Char} {m m' : Memory σ} {marker : CallMarker} {call : Call}
    {fn : Function σ} {v : Value} {s : String} (planned : plan funcs cs = .make marker call fn)
    (returned : exec (invoke fn call.args) m = (.ok v, m')) (shown : textOf v = .ok s) :
    (marker.splice s.toList).count '$' < cs.count '$' := by
  obtain ⟨found, -, bound⟩ := of_plan_call planned
  rw [exec_invoke] at returned
  exact CallMarker.count_splice_lt found
    (quiet call.name fn bound _ _ _ v s (Prod.mk.inj returned).1 shown)

/-- A resolution makes no more calls than there are dollar signs. -/
theorem length_callsIn_le (limit : Nat) :
    ∀ (cs : List Char) (m : Memory σ), (callsIn funcs limit cs m).length ≤ cs.count '$' := by
  induction limit with
  | zero => exact fun cs m => Nat.zero_le _
  | succ limit ih =>
    intro cs m
    cases planned : plan funcs cs with
    | make marker call fn =>
      rcases fails_or_returns planned m with ⟨f, m', -, once⟩ | ⟨v, m', s, returned, shown⟩
      · -- Also a call that fails is one for the dollar sign of its marker.
        obtain ⟨found, -⟩ := of_plan_call planned
        obtain ⟨t, rfl, dollar⟩ := CallMarker.exists_dollar found
        rw [once limit]
        exact List.count_pos_iff.mpr (by simp [dollar])
      · have fewer := count_lt_of_made quiet planned returned shown
        rw [callsIn_made planned returned shown]
        exact Nat.succ_le_of_lt ((ih (marker.splice s.toList) m').trans_lt fewer)
    | _ =>
      rw [callsIn_succ, planned]
      exact Nat.zero_le _

/-- From every text the resolution comes to one that ends it, in no more calls than there are dollar
    signs. -/
theorem exists_endsAt (cs : List Char) (m : Memory σ) :
    ∃ calls cs' m' r, funcs.ComesTo cs m calls cs' m' ∧ funcs.EndsAt cs' m' r ∧
      calls.length ≤ cs.count '$' := by
  induction size : cs.count '$' using Nat.strong_induction_on generalizing cs m with
  | _ n ih =>
    subst size
    have here {r : Except Failure (List Char) × Memory σ} (ends : funcs.EndsAt cs m r) :
        ∃ calls cs' m' r, funcs.ComesTo cs m calls cs' m' ∧ funcs.EndsAt cs' m' r ∧
          calls.length ≤ cs.count '$' := ⟨[], cs, m, r, .here cs m, ends, Nat.zero_le _⟩
    cases planned : plan funcs cs with
    | render => exact here fun next => by rw [planned, exec_render]
    | leave severity message => exact here fun next => by rw [planned, exec_leave]
    | refuse f => exact here fun next => by rw [planned, exec_refuse]
    | make marker call fn =>
      rcases fails_or_returns planned m with ⟨f, m', failed, -⟩ | ⟨v, m', s, returned, shown⟩
      · exact here failed
      · have fewer := count_lt_of_made quiet planned returned shown
        obtain ⟨calls, cs', m'', r, comes, ends, few⟩ := ih _ fewer _ m' rfl
        exact ⟨call :: calls, cs', m'', r, .made planned returned shown comes, ends,
          Nat.succ_le_of_lt (few.trans_lt fewer)⟩

/-- With functions whose results show no dollar signs a resolution comes to a text that ends it. It
    makes no more calls than its text has dollar signs, and more than so many are never needed. -/
theorem resolution_ends (cs : List Char) (m : Memory σ) :
    ∃ calls cs' m' r, funcs.ComesTo cs m calls cs' m' ∧ funcs.EndsAt cs' m' r ∧
      (∀ limit, cs.count '$' < limit → exec (resolveText funcs limit cs) m = r) ∧
      ∀ limit, (callsIn funcs limit cs m).length ≤ cs.count '$' := by
  obtain ⟨calls, cs', m', r, comes, ends, few⟩ := exists_endsAt quiet cs m
  refine ⟨calls, cs', m', r, comes, ends, fun limit enough => ?_,
    fun limit => length_callsIn_le quiet limit cs m⟩
  rw [comes.exec_carryOut (few.trans_lt enough)]
  exact ends _

end Quiet

/-- A result that is a marker of its own makes the text longer, and the resolution ends
    nevertheless. -/
theorem resolution_ends_of_longer :
    let funcs : Functions Unit :=
      [("f", fun _ vars host => (.ok (.text "\x7b\x7b f(f(f())) \x7d\x7d"), vars, host))]
    let cs := "\x7b\x7b $f() \x7d\x7d, \x7b\x7b $f() \x7d\x7d".toList
    ∀ limit, 2 < limit →
      (exec (resolveText funcs limit cs) ⟨[], (), []⟩).1.toOption = some [',', ' '] := by
  intro funcs cs limit enough
  have quiet : funcs.AreQuiet := by
    intro name fn bound args vars host v s returned shown
    cases List.mem_singleton.mp (Functions.mem_of_get? bound)
    cases returned
    cases shown
    decide
  obtain ⟨calls, cs', m', r, -, -, same, -⟩ := resolution_ends quiet cs ⟨[], (), []⟩
  rw [same limit enough, ← same 3 (by decide)]
  decide +kernel

end SessionScript.Template
