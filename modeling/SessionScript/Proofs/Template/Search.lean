import SessionScript.Proofs.Template.Termination

/-!
# The search for a call marker

A call marker stands between two positions of a text: from its opening braces up to closing braces
behind a bracket. Markers may start within each other, and one start may have several ends. The
search finds a marker exactly if there is one; of all of them it takes one that starts first, and of
those the one that ends first.
-/

namespace SessionScript.Template

/-! ## Ends of arguments -/

/-- A closing in front of a bracket leaves the bracket. -/
theorem length_le_of_closing? {u rest after : List Char}
    (closed : closing? (u ++ ')' :: rest) = some after) : rest.length ≤ after.length := by
  obtain ⟨trail, whole, blank⟩ := closing?_eq_some closed
  have outside : ')' ∉ trail ++ ['\x7d', '\x7d'] := by
    intro among
    rcases List.mem_append.mp among with among | among
    · exact absurd (blank _ among) (by decide)
    · exact absurd among (by decide)
  have whole : u ++ ')' :: rest = (trail ++ ['\x7d', '\x7d']) ++ after := by
    rw [whole]
    simp
  rcases List.append_eq_append_iff.mp whole with ⟨t, closes, left⟩ | ⟨t, -, left⟩
  · cases t with
    | nil =>
      rw [List.nil_append] at left
      rw [← left, List.length_cons]
      omega
    | cons d t =>
      obtain ⟨rfl, -⟩ := List.cons.inj left
      exact absurd (by rw [closes]; simp) outside
  · have := congrArg List.length left
    rw [List.length_append, List.length_cons] at this
    omega

/-- Where arguments can end they do end, unless they end before. -/
theorem argumentsEnd?_of_bracket {trail : List Char} (blank : ∀ c ∈ trail, Text.isBlank c)
    (after : List Char) {line : List Char} (unbroken : '\n' ∉ line) :
    ∃ args after', argumentsEnd? (line ++ ')' :: (trail ++ '\x7d' :: '\x7d' :: after)) =
        some (args, after') ∧
      (after.length < after'.length ∨ args = line ++ [')'] ∧ after' = after) := by
  induction line with
  | nil =>
    refine ⟨[')'], after, ?_, .inr ⟨rfl, rfl⟩⟩
    rw [List.nil_append, argumentsEnd?_bracket, closing?_blanks blank]
  | cons c line ih =>
    obtain ⟨inner, unbroken⟩ := List.ne_and_not_mem_of_not_mem_cons unbroken
    obtain ⟨args, after', ended, first⟩ := ih unbroken
    have behind : after.length < after'.length ∨
        c :: args = c :: line ++ [')'] ∧ after' = after := by
      rcases first with before | ⟨rfl, rfl⟩
      · exact .inl before
      · exact .inr ⟨rfl, rfl⟩
    by_cases bracket : c = ')'
    · subst bracket
      rw [List.cons_append, argumentsEnd?_bracket]
      cases closed : closing? (line ++ ')' :: (trail ++ '\x7d' :: '\x7d' :: after)) with
      | none =>
        refine ⟨')' :: args, after', ?_, behind⟩
        rw [ended]
        rfl
      | some before =>
        refine ⟨[')'], before, rfl, .inl ?_⟩
        have left := length_le_of_closing? closed
        simp only [List.length_append, List.length_cons] at left
        omega
    · refine ⟨c :: args, after', ?_, behind⟩
      rw [List.cons_append, argumentsEnd?_cons _ bracket, if_neg inner.symm, ended]
      rfl

namespace CallMarker

/-! ## Markers at the start of a text -/

/-- From one position of a text to another there stands a marker: an opening, characters of one
    line up to a bracket, blanks and two closing braces. Its call goes from the name behind the
    dollar sign to that bracket. -/
def Spans (cs : List Char) (p q : Nat) (call : List Char) : Prop :=
  ∃ (o : Opening) (line trail before after : List Char),
    o.IsWritten ∧ '\n' ∉ line ∧ (∀ c ∈ trail, Text.isBlank c) ∧
      cs = before ++ (o.text ++ (line ++ ')' :: (trail ++ '\x7d' :: '\x7d' :: after))) ∧
      p = before.length ∧ q + after.length = cs.length ∧ call = o.head ++ (line ++ [')'])

/-- A marker that starts a text spans it up to what is behind. -/
theorem spans_of_atStart? {rest call after : List Char} (before : List Char)
    (starts : atStart? rest = some (call, after)) :
    ∃ q, Spans (before ++ rest) before.length q call ∧ after = (before ++ rest).drop q ∧
      q + after.length = (before ++ rest).length := by
  obtain ⟨o, rest', args, written, rfl, ended, rfl⟩ := exists_opening starts
  obtain ⟨line, trail, unbroken, blank, rfl, rfl⟩ := exists_bracket ended
  let front := before ++ (o.text ++ (line ++ ')' :: (trail ++ ['\x7d', '\x7d'])))
  have whole : before ++ (o.text ++ (line ++ ')' :: (trail ++ '\x7d' :: '\x7d' :: after))) =
      front ++ after := by simp [front]
  have length : front.length + after.length =
      (before ++ (o.text ++ (line ++ ')' :: (trail ++ '\x7d' :: '\x7d' :: after)))).length := by
    simp [front]
    omega
  refine ⟨front.length, ⟨o, line, trail, before, after, written, unbroken, blank, rfl, rfl, length,
    rfl⟩, ?_, length⟩
  rw [whole, List.drop_left]

/-- Where a marker stands the text starts with one, unless one ends before it. -/
theorem atStart?_of_spans {cs : List Char} {p q : Nat} {call : List Char}
    (spans : Spans cs p q call) :
    ∃ before rest call' after, cs = before ++ rest ∧ before.length = p ∧
      atStart? rest = some (call', after) ∧
      (cs.length < q + after.length ∨ call' = call ∧ after = cs.drop q) := by
  obtain ⟨o, line, trail, before, after, written, unbroken, blank, whole, rfl, length, rfl⟩ := spans
  obtain ⟨args, after', ended, first⟩ := argumentsEnd?_of_bracket blank after unbroken
  have starts := atStart?_opening written (line ++ ')' :: (trail ++ '\x7d' :: '\x7d' :: after))
  rw [ended] at starts
  refine ⟨before, _, o.head ++ args, after', whole, rfl, starts, ?_⟩
  rcases first with shorter | ⟨rfl, rfl⟩
  · exact .inl (by omega)
  · refine .inr ⟨rfl, ?_⟩
    obtain ⟨front, closes⟩ : ∃ front, cs = front ++ after' :=
      ⟨before ++ (o.text ++ (line ++ ')' :: (trail ++ ['\x7d', '\x7d']))), by simp [whole]⟩
    have : q = front.length := by
      rw [closes, List.length_append] at length
      omega
    rw [closes, this, List.drop_left]

/-! ## The first start -/

/-- The marker that is found starts the text at its place, and none starts it before. -/
theorem find?_eq_some_iff {cs : List Char} :
    ∀ {marker : CallMarker}, find? cs = some marker ↔
      (∃ rest, cs = marker.before ++ rest ∧ atStart? rest = some (marker.call, marker.after)) ∧
        ∀ a b, cs = a ++ b → a.length < marker.before.length → atStart? b = none := by
  induction cs with
  | nil =>
    intro marker
    constructor
    · intro found
      cases found
    · rintro ⟨⟨rest, whole, starts⟩, -⟩
      obtain ⟨-, rfl⟩ := List.append_eq_nil_iff.mp whole.symm
      cases starts
  | cons c cs ih =>
    intro marker
    rw [find?]
    cases starts : atStart? (c :: cs) with
    | some ended =>
      constructor
      · intro found
        cases found
        exact ⟨⟨c :: cs, rfl, starts⟩, fun a b _ before => absurd before (Nat.not_lt_zero _)⟩
      · rintro ⟨⟨rest, whole, here⟩, earlier⟩
        obtain ⟨before, call, after⟩ := marker
        cases before with
        | nil =>
          rw [List.nil_append] at whole
          rw [← whole, starts] at here
          cases here
          rfl
        | cons d before =>
          have missed := earlier [] (c :: cs) rfl (Nat.succ_pos _)
          rw [starts] at missed
          cases missed
    | none =>
      constructor
      · intro found
        obtain ⟨later, there, rfl⟩ := Option.map_eq_some_iff.mp found
        obtain ⟨⟨rest, rfl, here⟩, earlier⟩ := ih.mp there
        refine ⟨⟨rest, rfl, here⟩, fun a b whole before => ?_⟩
        cases a with
        | nil =>
          rw [List.nil_append] at whole
          rw [← whole, starts]
        | cons d a =>
          obtain ⟨rfl, split⟩ := List.cons.inj whole
          exact earlier a b split (Nat.lt_of_succ_lt_succ before)
      · rintro ⟨⟨rest, whole, here⟩, earlier⟩
        obtain ⟨before, call, after⟩ := marker
        cases before with
        | nil =>
          rw [List.nil_append] at whole
          rw [← whole, starts] at here
          cases here
        | cons d before =>
          obtain ⟨rfl, inner⟩ := List.cons.inj whole
          have found : find? cs = some ⟨before, call, after⟩ := ih.mpr
            ⟨⟨rest, inner, here⟩, fun a b split shorter =>
              earlier (c :: a) b (by rw [split]; rfl) (Nat.succ_lt_succ shorter)⟩
          rw [found]
          rfl

/-- Where a marker stands one is found. -/
theorem isSome_find? {rest : List Char} (before : List Char) (starts : (atStart? rest).isSome) :
    (find? (before ++ rest)).isSome := by
  induction before with
  | nil =>
    cases rest with
    | nil => cases starts
    | cons c rest =>
      obtain ⟨ended, starts⟩ := Option.isSome_iff_exists.mp starts
      rw [List.nil_append, find?, starts]
      rfl
  | cons c before ih =>
    rw [List.cons_append, find?]
    split
    · rfl
    · rw [Option.isSome_map]
      exact ih

/-- A marker is found exactly if one stands somewhere in the text. It starts at the first position
    at which any of them starts, and ends at the first position at which one ends that starts
    there. -/
theorem find?_first (cs : List Char) :
    ((find? cs).isSome ↔ ∃ p q call, Spans cs p q call) ∧
      ∀ marker, find? cs = some marker ↔
        ∃ p q, Spans cs p q marker.call ∧ marker.before = cs.take p ∧ marker.after = cs.drop q ∧
          ∀ p' q' call, Spans cs p' q' call → p ≤ p' ∧ (p' = p → q ≤ q') := by
  have first {marker : CallMarker} (found : find? cs = some marker) :
      ∃ p q, Spans cs p q marker.call ∧ marker.before = cs.take p ∧ marker.after = cs.drop q ∧
        ∀ p' q' call, Spans cs p' q' call → p ≤ p' ∧ (p' = p → q ≤ q') := by
    obtain ⟨⟨rest, whole, starts⟩, earlier⟩ := find?_eq_some_iff.mp found
    obtain ⟨q, spans, after, ends⟩ := spans_of_atStart? marker.before starts
    rw [← whole] at spans after ends
    have before : marker.before = cs.take marker.before.length := by rw [whole, List.take_left]
    refine ⟨marker.before.length, q, spans, before, after, fun p' q' call other => ?_⟩
    obtain ⟨before', rest', call', after', whole', rfl, starts', ended⟩ := atStart?_of_spans other
    constructor
    · by_contra less
      rw [earlier before' rest' whole' (Nat.lt_of_not_le less)] at starts'
      cases starts'
    · intro same
      obtain ⟨rfl, rfl⟩ := List.append_inj (whole'.symm.trans whole) same
      rw [starts] at starts'
      cases starts'
      rcases ended with ended | ⟨-, same⟩
      · omega
      · have := congrArg List.length same
        rw [List.length_drop] at this
        omega
  refine ⟨⟨fun found => ?_, ?_⟩, fun marker => ⟨first, ?_⟩⟩
  · obtain ⟨marker, found⟩ := Option.isSome_iff_exists.mp found
    obtain ⟨p, q, spans, -⟩ := first found
    exact ⟨p, q, marker.call, spans⟩
  · rintro ⟨p, q, call, spans⟩
    obtain ⟨before, rest, call', after, rfl, -, starts, -⟩ := atStart?_of_spans spans
    exact isSome_find? before (by rw [starts]; rfl)
  · rintro ⟨p, q, spans, before, after, least⟩
    obtain ⟨before', rest, call', after', rfl, rfl, starts, ended⟩ := atStart?_of_spans spans
    rw [List.take_left] at before
    subst before
    refine find?_eq_some_iff.mpr ⟨⟨rest, rfl, ?_⟩, fun a b split shorter => ?_⟩
    · rcases ended with ended | ⟨rfl, rfl⟩
      · obtain ⟨q', spans', -, ends⟩ := spans_of_atStart? marker.before starts
        have := (least _ q' _ spans').2 rfl
        omega
      · rw [starts, after]
    · by_contra starts'
      obtain ⟨⟨call, behind⟩, starts'⟩ := Option.ne_none_iff_exists'.mp starts'
      obtain ⟨q', spans', -⟩ := spans_of_atStart? a starts'
      rw [← split] at spans'
      have := (least _ q' _ spans').1
      omega

/-- Of two markers of which one opens within the other the outer one is found, and it ends where the
    inner one ends. -/
theorem find?_first_of_nested :
    let cs := "\x7b\x7b$f(\x7b\x7b $g() \x7d\x7d) \x7d\x7d".toList
    Spans cs 5 15 "g()".toList ∧ Spans cs 0 19 "f(\x7b\x7b $g() \x7d\x7d)".toList ∧
      (find? cs).isSome ∧ find? cs = some ⟨[], "f(\x7b\x7b $g()".toList, ") \x7d\x7d".toList⟩ := by
  intro cs
  have single {p : Char → Bool} {c : Char} (holds : p c = true) : ∀ d ∈ [c], p d = true :=
    List.forall_mem_singleton.mpr holds
  have inner : Spans cs 5 15 "g()".toList :=
    ⟨⟨[' '], ['g'], []⟩, [], [' '], "\x7b\x7b$f(".toList, ") \x7d\x7d".toList,
      ⟨single rfl, by decide, single rfl, List.forall_mem_nil _⟩, by decide, single rfl, rfl, rfl,
      rfl, rfl⟩
  have outer : Spans cs 0 19 "f(\x7b\x7b $g() \x7d\x7d)".toList :=
    ⟨⟨[], ['f'], []⟩, "\x7b\x7b $g() \x7d\x7d".toList, [' '], [], [],
      ⟨List.forall_mem_nil _, by decide, single rfl, List.forall_mem_nil _⟩, by decide, single rfl,
      rfl, rfl, rfl, rfl⟩
  exact ⟨inner, outer, (find?_first cs).1.mpr ⟨5, 15, _, inner⟩, by decide⟩

end CallMarker

end SessionScript.Template
