import SessionScript.Proofs.Template.Progress
import SessionScript.Proofs.Template.Invocation

/-!
# Values text by text

A value is resolved by resolving its texts in document order, each with the variables and the state
of the host that the ones before it left. If all of them are resolved, the value keeps its outline
and has what they were resolved to in their places; the first one that fails ends the resolution.
-/

namespace SessionScript.Template

variable {σ : Type}

/-- Texts are resolved one after the other, each with the memory that the one before it leaves. What
    they are resolved to and the memory that the last one leaves stand behind. -/
inductive Functions.Resolves (funcs : Functions σ) (limit : Nat) :
    List String → Memory σ → List String → Memory σ → Prop where
  | none (m : Memory σ) : Resolves funcs limit [] m [] m
  | one {s : String} {m : Memory σ} {cs : List Char} {there : Memory σ}
    {texts results : List String} {m' : Memory σ}
    (first : exec (resolveText funcs limit s.toList) m = (.ok cs, there))
    (rest : Resolves funcs limit texts there results m') :
    Resolves funcs limit (s :: texts) m (String.ofList cs :: results) m'

/-- Resolves a text, as one of many. -/
def resolveString (funcs : Functions σ) (limit : Nat) (s : String) : Resolving σ String :=
  String.ofList <$> resolveText funcs limit s.toList

section Texts

variable {funcs : Functions σ} {limit : Nat} {m m' : Memory σ}

theorem exec_resolveString (s : String) :
    exec (resolveString funcs limit s) m =
      ((exec (resolveText funcs limit s.toList) m).1.map String.ofList,
        (exec (resolveText funcs limit s.toList) m).2) := exec_map _ _ _

/-- Going through texts comes to results if each of them is resolved. -/
theorem exec_mapM_ok_iff {texts : List String} :
    ∀ {results : List String} {m : Memory σ},
      exec (texts.mapM (resolveString funcs limit)) m = (.ok results, m') ↔
        funcs.Resolves limit texts m results m' := by
  induction texts with
  | nil =>
    intro results m
    constructor
    · intro ended
      cases ended
      exact .none _
    · rintro ⟨⟩
      rfl
  | cons s texts ih =>
    intro results m
    rw [List.mapM_cons]
    constructor
    · intro ended
      obtain ⟨t, there, first, ended⟩ := exec_bind_ok ended
      obtain ⟨ts, left, rest, done⟩ := exec_bind_ok ended
      cases done
      rw [exec_resolveString] at first
      rcases ran : exec (resolveText funcs limit s.toList) m with ⟨f | cs, there'⟩
      · rw [ran] at first
        cases first
      · rw [ran] at first
        cases first
        exact .one ran (ih.mp rest)
    · rintro (_ | ⟨first, rest⟩)
      rw [exec_bind, exec_resolveString, first]
      simp only [Except.map, exec_bind, ih.mpr rest]
      rfl

/-- Going through texts fails if one of them fails after those before it are resolved. -/
theorem exec_mapM_error_iff {f : Failure} {texts : List String} :
    ∀ {m : Memory σ},
      exec (texts.mapM (resolveString funcs limit)) m = (.error f, m') ↔
        ∃ before s after results there, texts = before ++ s :: after ∧
          funcs.Resolves limit before m results there ∧
          exec (resolveText funcs limit s.toList) there = (.error f, m') := by
  induction texts with
  | nil =>
    intro m
    constructor
    · intro ended
      cases ended
    · rintro ⟨before, s, after, results, there, split, -⟩
      simp at split
  | cons s texts ih =>
    intro m
    rw [List.mapM_cons, exec_bind, exec_resolveString]
    rcases ran : exec (resolveText funcs limit s.toList) m with ⟨g | cs, there⟩
    · constructor
      · intro ended
        cases ended
        exact ⟨[], s, texts, [], m, rfl, .none m, ran⟩
      · rintro ⟨_ | ⟨s', before⟩, t, after, results, here, split, resolves, failed⟩
        · cases split
          cases resolves
          rw [ran] at failed
          cases failed
          rfl
        · cases split
          cases resolves with
          | one first rest =>
            rw [ran] at first
            cases first
    · simp only [Except.map, exec_bind]
      constructor
      · intro ended
        rcases rest : exec (texts.mapM (resolveString funcs limit)) there with ⟨g | ts, left⟩
        · rw [rest] at ended
          cases ended
          obtain ⟨before, t, after, results, here, rfl, resolves, failed⟩ := ih.mp rest
          exact ⟨s :: before, t, after, _, here, rfl, .one ran resolves, failed⟩
        · rw [rest] at ended
          cases ended
      · rintro ⟨_ | ⟨s', before⟩, t, after, results, here, split, resolves, failed⟩
        · cases split
          cases resolves
          rw [ran] at failed
          cases failed
        · cases split
          cases resolves with
          | one first rest =>
            rw [ran] at first
            cases first
            rw [ih.mpr ⟨before, t, after, _, here, rfl, rest, failed⟩]

end Texts

/-- The resolution of a value and that of its texts end alike, with the outline that the value
    has. -/
theorem exec_resolve_parts (funcs : Functions σ) (limit : Nat) {v : Value} (free : v.isSetFree)
    (m : Memory σ) :
    (exec (resolve funcs limit v) m).1.map (fun w => (w.outline, w.texts)) =
        (exec (v.texts.mapM (resolveString funcs limit)) m).1.map (fun ts => (v.outline, ts)) ∧
      (exec (resolve funcs limit v) m).2 =
        (exec (v.texts.mapM (resolveString funcs limit)) m).2 := by
  have leaf : resolveLeaf funcs limit = Value.rewriteText (resolveString funcs limit) := by
    funext v
    cases v <;> simp [resolveLeaf, Value.rewriteText, resolveString]
  have same := congrArg (exec · m) (Value.mapLeavesM_parts (resolveString funcs limit) free)
  simp only [exec_map] at same
  rw [resolve, leaf]
  exact Prod.mk.inj same

/-- A value without sets comes to another one if its texts are resolved one after the other to the
    texts of the other one, and the two have one outline. It fails if one of its texts fails after
    those before it are resolved, and then nothing is done with those behind it. -/
theorem resolve_text_by_text (funcs : Functions σ) (limit : Nat) {v : Value} (free : v.isSetFree)
    (m m' : Memory σ) :
    (∀ w, exec (resolve funcs limit v) m = (.ok w, m') ↔
      w.outline = v.outline ∧ funcs.Resolves limit v.texts m w.texts m') ∧
    ∀ f, exec (resolve funcs limit v) m = (.error f, m') ↔
      ∃ before s after results there, v.texts = before ++ s :: after ∧
        funcs.Resolves limit before m results there ∧
        exec (resolveText funcs limit s.toList) there = (.error f, m') := by
  obtain ⟨result, left⟩ := exec_resolve_parts funcs limit free m
  rcases ran : exec (resolve funcs limit v) m with ⟨g | w', there⟩ <;>
    rcases texts : exec (v.texts.mapM (resolveString funcs limit)) m with ⟨g' | ts, there'⟩ <;>
    rw [ran, texts] at result left <;> cases left
  · cases result
    refine ⟨fun w => ⟨nofun, fun ⟨_, resolves⟩ => ?_⟩, fun f => ?_⟩
    · rw [exec_mapM_ok_iff.mpr resolves] at texts
      cases texts
    · rw [← exec_mapM_error_iff, texts, Prod.mk.injEq, Prod.mk.injEq, Except.error.injEq,
        Except.error.injEq]
  · cases result
  · cases result
  · obtain ⟨outline, rfl⟩ : w'.outline = v.outline ∧ w'.texts = ts := by
      simpa [Except.map] using result
    refine ⟨fun w => ⟨?_, fun ⟨same, resolves⟩ => ?_⟩, fun f => ⟨nofun, fun fails => ?_⟩⟩
    · rintro ⟨⟩
      exact ⟨outline, exec_mapM_ok_iff.mp texts⟩
    · rw [exec_mapM_ok_iff.mpr resolves] at texts
      obtain ⟨eq, rfl⟩ : w.texts = w'.texts ∧ m' = there := by simpa using texts
      rw [Value.isKnown w w' (same.trans outline.symm) eq]
    · rw [← exec_mapM_error_iff, texts] at fails
      cases fails

/-- A function that counts its calls and keeps the last number in a variable: the texts see its
    numbers one after the other, and after a failure it is not called any more. -/
theorem resolve_text_by_text_of_next :
    let next : Function Nat := fun _ _ n => (.ok (.int n), [(.text "n", .int n)], n + 1)
    let boom : Function Nat := fun _ vars n => (.error (.raise "ValueError" "no"), vars, n)
    let funcs : Functions Nat := [("next", next), ("boom", boom)]
    let v : Value := .list [.text (invocation "next"), .int 7,
      .tuple [.text (marker "n"), .text (invocation "next")]]
    let u : Value := .dict [(.text "a", .text (invocation "next")),
      (.text "b", .list [.text (invocation "boom"), .text (invocation "next")])]
    let m : Memory Nat := ⟨[], 0, []⟩
    v.isSetFree ∧ u.isSetFree ∧
      exec (resolve funcs callLimit v) m = (.ok (.list [.text "0", .int 7,
        .tuple [.text "0", .text "1"]]), ⟨[(.text "n", .int 1)], 2, []⟩) ∧
      exec (resolve funcs callLimit u) m =
        (.error (.raise "ValueError" "no"), ⟨[(.text "n", .int 0)], 1, []⟩) := by
  intro next boom funcs v u m
  have numbered (n : Nat) (vars : Entries) (digits : textOf (.int n) = .ok (toString n))
      (plain : exec (resolveText funcs 899 (toString n).toList) ⟨[(.text "n", .int n)], n + 1, []⟩ =
        (.ok (toString n).toList, ⟨[(.text "n", .int n)], n + 1, []⟩)) :
      exec (resolveText funcs callLimit (invocation "next").toList) ⟨vars, n, []⟩ =
        (.ok (toString n).toList, ⟨[(.text "n", .int n)], n + 1, []⟩) := by
    rw [callLimit, resolveText_invocation (by decide) (by decide) rfl]
    simp only [exec_bind, exec_invoke, next, exec_ofExcept, digits, plain]
  have zero := numbered 0 [] rfl rfl
  let left : Memory Nat := ⟨[(.text "n", .int 0)], 1, []⟩
  refine ⟨rfl, rfl, ((resolve_text_by_text funcs callLimit rfl m _).1 _).mpr ⟨rfl, ?_⟩,
    ((resolve_text_by_text funcs callLimit rfl m _).2 _).mpr
      ⟨[invocation "next"], invocation "boom", [invocation "next"], ["0"], left, rfl, ?_, ?_⟩⟩
  · exact .one zero (.one rfl (.one (numbered 1 _ rfl rfl) (.none _)))
  · exact .one zero (.none _)
  · rw [callLimit, resolveText_invocation (by decide) (by decide) rfl]
    rfl

end SessionScript.Template
