import SessionScript.Proofs.Evaluator.Reach

/-!
# Isolation

What evaluations of one evaluator have in common are the table of builtins and what their bindings
share. An evaluation that leaves these as they are makes no difference to later ones.
-/

namespace SessionScript

open Evaluator

/-- A function gives the same in every evaluator whose table is as it was. -/
theorem CodeFunction.call_same {ev ev' : Evaluator} (f : CodeFunction) (args : List Value)
    (within : Within ev.store [ev.table]) (table : ev'.table = ev.table)
    (kept : ∀ a, Reaches ev.store [ev.table] a → ev.Keeps ev' a) :
    (f.call ev' args).1 = (f.call ev args).1 := by
  have all : Within ev.store (ev.roots []) := within
  obtain ⟨m, related, -⟩ := alone_relates all rfl fun _ _ => rfl
  obtain ⟨m', related', -⟩ := alone_relates all table kept
  exact (f.call_moved args related').trans (f.call_moved args related).symm

namespace Evaluator

/-! ## New evaluators -/

theorem Builtin.places_ofName? {name : String} {d : Datum}
    (h : Builtin.ofName? name = some d) : places d = [] := by
  unfold Builtin.ofName? at h
  iterate 3
    split at h
    · cases h
      rfl
  split at h <;> cases h <;> rfl

theorem places_cons {e : Datum × Datum} {es : Pairs} :
    places (e :: es) = [] ↔ (places e.1 = [] ∧ places e.2 = []) ∧ places es = [] := by
  simp only [places, List.flatMap_cons, List.append_eq_nil_iff]

theorem places_put {es : Pairs} {k d : Datum} (free : places es = []) (hk : places k = [])
    (hd : places d = []) : places (Pairs.put es k d) = [] := by
  induction es with
  | nil => exact places_cons.2 ⟨⟨hk, hd⟩, rfl⟩
  | cons e es ih =>
    obtain ⟨⟨hk', hd'⟩, free⟩ := places_cons.1 free
    simp only [Pairs.put]
    split
    · exact places_cons.2 ⟨⟨hk', hd⟩, free⟩
    · exact places_cons.2 ⟨⟨hk', hd'⟩, ih free⟩

theorem places_tableOf {names : List String} {es : Pairs} (h : tableOf names = .ok es) :
    places es = [] := by
  unfold tableOf at h
  have start : places ([] : Pairs) = [] := rfl
  -- Entry by entry, the table that is filled so far mentions no cells.
  revert start h
  generalize ([] : Pairs) = acc
  intro h free
  induction names generalizing acc with
  | nil =>
    cases h
    exact free
  | cons name names ih =>
    rw [List.foldlM_cons] at h
    cases found : Builtin.ofName? name with
    | none =>
      rw [found] at h
      cases h
    | some d =>
      rw [found] at h
      exact ih _ h (places_put free rfl (Builtin.places_ofName? found))

/-- The table of a new evaluator mentions no cells. -/
theorem withBuiltins_whole {names : List String} {ev : Evaluator}
    (h : withBuiltins names = .ok ev) : Within ev.store [ev.table] := by
  unfold withBuiltins at h
  cases table : tableOf names with
  | error f =>
    rw [table] at h
    cases h
  | ok es =>
    rw [table] at h
    cases h
    intro a reached
    have leaf := (places_some (.dict es)).trans (places_tableOf table)
    rw [reached.eq_of_leaf leaf]
    exact Nat.zero_lt_one

/-! ## Evaluations -/

/-- An evaluator with one builtin and two empty lists. -/
def twoLists : Evaluator where
  store :=
    { cells := #[.dict [(.text "len", .builtin "len")], .list #[], .list #[]]
      room := mostCalls }
  table := 0

/-- Whether a cell is the table of `twoLists`. -/
def isLenTable : Option Cell → Bool
  | some (.dict [(.text name, .builtin f)]) => name == "len" && f == "len"
  | _ => false

theorem eq_of_isLenTable {c : Option Cell} (h : isLenTable c) :
    c = some (.dict [(.text "len", .builtin "len")]) := by
  unfold isLenTable at h
  split at h
  · simp_all
  · simp at h

/-- The integer that code gives, if it gives one. -/
def integerOf? : Except Failure Value → Option Int
  | .ok (.int i) => some i
  | _ => none

end Evaluator

end SessionScript
