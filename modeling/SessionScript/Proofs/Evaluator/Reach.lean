import Mathlib.Data.List.Nodup
import SessionScript.Proofs.Evaluator.Programs

/-!
# What code can reach

Code works with its bindings and the table of builtins, and with what these mention. All of it can
be gathered in a store of its own. A run does there what it does in the whole store, so it changes
nothing else, and nothing else makes a difference to it.
-/

namespace SessionScript.Evaluator

/-- The places that are mentioned by some roots, directly or by the cells at such places. -/
inductive Reaches (s : Store) (roots : List Nat) : Nat → Prop
  | root {a : Nat} (h : a ∈ roots) : Reaches s roots a
  | inside {a b : Nat} {c : Cell} (h : Reaches s roots a) (found : s.cells[a]? = some c)
      (mentioned : b ∈ places c) : Reaches s roots b

/-- All that roots reach is in the store. -/
def Within (s : Store) (roots : List Nat) : Prop := ∀ a, Reaches s roots a → a < s.cells.size

theorem places_some (c : Cell) : places (some c) = places c := by
  simp only [places, Option.toList_some, List.flatMap_cons, List.flatMap_nil, List.append_nil]

/-- A cell that mentions no others reaches itself only. -/
theorem Reaches.eq_of_leaf {s : Store} {root a : Nat} (h : Reaches s [root] a)
    (leaf : places s.cells[root]? = []) : a = root := by
  induction h with
  | root h => exact List.mem_singleton.1 h
  | inside _ found mentioned ih =>
    rw [ih] at found
    rw [found, places_some] at leaf
    rw [leaf] at mentioned
    exact absurd mentioned List.not_mem_nil

theorem Reaches.mono {s : Store} {roots more : List Nat} {a : Nat} (h : Reaches s roots a)
    (sub : ∀ a ∈ roots, a ∈ more) : Reaches s more a := by
  induction h with
  | root h => exact .root (sub _ h)
  | inside _ found mentioned ih => exact .inside ih found mentioned

theorem reaches_cons {s : Store} {root a : Nat} {roots : List Nat} :
    Reaches s (root :: roots) a ↔ Reaches s [root] a ∨ Reaches s roots a := by
  constructor
  · intro h
    induction h with
    | root h =>
      rcases List.mem_cons.1 h with rfl | h
      · exact .inl (.root List.mem_cons_self)
      · exact .inr (.root h)
    | inside _ found mentioned ih =>
      exact ih.imp (.inside · found mentioned) (.inside · found mentioned)
  · rintro (h | h)
    · exact h.mono fun a ha => by simp_all
    · exact h.mono fun a ha => List.mem_cons_of_mem _ ha

theorem Within.cons {s : Store} {root : Nat} {roots : List Nat} (h : Within s [root])
    (h' : Within s roots) : Within s (root :: roots) :=
  fun a ha => (reaches_cons.1 ha).elim (h a) (h' a)

/-! ## Gathering -/

/-- Cells that are gathered side by side from where they stand in a store of some size. What is
    made later stands behind that store. -/
def gather (rs : List Nat) (size : Nat) (distinct : rs.Nodup) (inside : ∀ a ∈ rs, a < size)
    (aside : Nat → Option Cell) : Move where
  put a := if h : a < rs.length then rs[a] else size + (a - rs.length)
  start := rs.length
  injective {a b} h := by
    split at h <;> split at h
    · exact (List.Nodup.getElem_inj_iff distinct).1 h
    · have := inside _ (List.getElem_mem ‹a < rs.length›)
      omega
    · have := inside _ (List.getElem_mem ‹b < rs.length›)
      omega
    · omega
  below a h := by
    rw [dif_pos h, dif_neg (Nat.lt_irrefl _), Nat.sub_self, Nat.add_zero]
    exact inside _ (List.getElem_mem h)
  next a h := by
    rw [dif_neg (by omega), dif_neg (by omega)]
    omega
  aside := aside

/-- A store with the gathered cells only. They mention each other where they stand there. -/
def gathered (rs : List Nat) (s : Store) : Store where
  cells := (rs.map fun a => moved rs.idxOf (s.cells.getD a (.names []))).toArray
  room := mostCalls

section
variable {rs : List Nat} {distinct : rs.Nodup} {s t : Store}

theorem gather_put_idxOf {size : Nat} {inside : ∀ a ∈ rs, a < size} {aside : Nat → Option Cell}
    {a : Nat} (h : a ∈ rs) : (gather rs size distinct inside aside).put (rs.idxOf a) = a := by
  have found := List.idxOf_lt_length_of_mem h
  simp only [gather, dif_pos found, List.getElem_idxOf]

/-- What mentions gathered cells only can be gathered and put back. -/
theorem gather_moved {α : Type} [Movable α] {size : Nat} {inside : ∀ a ∈ rs, a < size}
    {aside : Nat → Option Cell} {x : α} (h : ∀ a ∈ places x, a ∈ rs) :
    moved (gather rs size distinct inside aside).put (moved rs.idxOf x) = x := by
  rw [Movable.moved_moved]
  exact Movable.moved_eq_self fun a ha => gather_put_idxOf (h a ha)

/-- Every store with the same cells at some places shows them where they are gathered. -/
theorem gathered_shown (found : ∀ a ∈ rs, a < s.cells.size)
    (closed : ∀ a ∈ rs, ∀ b ∈ places s.cells[a]?, b ∈ rs)
    (inside : ∀ a ∈ rs, a < t.cells.size) (same : ∀ a ∈ rs, t.cells[a]? = s.cells[a]?) :
    (gather rs t.cells.size distinct inside (t.cells[·]?)).Shows (gathered rs s) (atRest t) where
  start_le := by simp [gather, gathered]
  size := by simp [gather, gathered, atRest]
  cell a := by
    rcases Nat.lt_or_ge a rs.length with ha | ha
    · have member := List.getElem_mem ha
      obtain ⟨c, there⟩ : ∃ c, s.cells[rs[a]]? = some c :=
        ⟨_, Array.getElem?_eq_getElem (found _ member)⟩
      have back : moved (gather rs t.cells.size distinct inside (t.cells[·]?)).put
          (moved rs.idxOf c) = c :=
        gather_moved fun b hb => closed _ member b (by rwa [there, places_some])
      have place : (gather rs t.cells.size distinct inside (t.cells[·]?)).put a = rs[a] :=
        dif_pos ha
      rw [place]
      simp only [atRest, same _ member, gathered, List.getElem?_toArray, List.getElem?_map,
        List.getElem?_eq_getElem ha, Option.map_some, Array.getD_eq_getD_getElem?, there,
        Option.getD_some, back]
    · have place : (gather rs t.cells.size distinct inside (t.cells[·]?)).put a =
          t.cells.size + (a - rs.length) := dif_neg (Nat.not_lt.2 ha)
      rw [place]
      simp [gathered, atRest, ha]
  aside b _ := rfl
  handling := rfl
  room := rfl

end

/-! ## What a run sees and changes -/

open Classical in
/-- All places that roots reach. -/
noncomputable def reached (s : Store) (roots : List Nat) : List Nat :=
  (List.range s.cells.size).filter fun a => Reaches s roots a

theorem mem_reached {s : Store} {roots : List Nat} {a : Nat} (within : Within s roots) :
    a ∈ reached s roots ↔ Reaches s roots a := by
  simp only [reached, List.mem_filter, List.mem_range, decide_eq_true_eq]
  exact ⟨And.right, fun h => ⟨within a h, h⟩⟩

/-- The places that code can start from: the table and what its bindings mention. -/
def roots (ev : Evaluator) (bindings : Bindings) : List Nat := ev.table :: places bindings

/-- An evaluator that comes after another one still has a cell as it was. -/
def Keeps (ev after : Evaluator) (a : Nat) : Prop :=
  after.store.cells[a]? = ev.store.cells[a]?

/-- The evaluator that an evaluation leaves. -/
def after (ev : Evaluator) (bindings : Bindings) (code : String) : Evaluator :=
  (ev.evaluate bindings code).2.2

/-- An evaluator that holds what code with some bindings can reach and nothing else. -/
noncomputable def alone (ev : Evaluator) (bindings : Bindings) : Evaluator :=
  let rs := reached ev.store (ev.roots bindings)
  { store := gathered rs ev.store, table := rs.idxOf ev.table }

/-- Bindings as they are in an evaluator that holds nothing else. -/
noncomputable def aloneBindings (ev : Evaluator) (bindings : Bindings) : Bindings :=
  bindings.map (moved (reached ev.store (ev.roots bindings)).idxOf)

section
variable {ev ev' : Evaluator} {bindings : Bindings} (within : Within ev.store (ev.roots bindings))
include within

/-- An evaluator that keeps all that code can reach holds what there is alone. -/
theorem alone_relates (table : ev'.table = ev.table)
    (kept : ∀ a, Reaches ev.store (ev.roots bindings) a → ev.Keeps ev' a) :
    ∃ m : Move, m.Relates (ev.alone bindings) ev' ∧
      (ev.aloneBindings bindings).map (moved m.put) = bindings ∧
      (∀ a < ev'.store.cells.size, ¬ Reaches ev.store (ev.roots bindings) a →
        (∀ i, m.put i ≠ a) ∧ m.aside a = ev'.store.cells[a]?) := by
  let rs := reached ev.store (ev.roots bindings)
  have mem {a : Nat} : a ∈ rs ↔ Reaches ev.store (ev.roots bindings) a := mem_reached within
  have distinct : rs.Nodup := List.nodup_range.filter _
  have found (a : Nat) (h : a ∈ rs) : a < ev.store.cells.size := within a (mem.1 h)
  have same (a : Nat) (h : a ∈ rs) : ev'.store.cells[a]? = ev.store.cells[a]? := kept a (mem.1 h)
  have inside (a : Nat) (h : a ∈ rs) : a < ev'.store.cells.size := by
    have there := same a h
    rw [Array.getElem?_eq_getElem (found a h)] at there
    exact (Array.getElem?_eq_some_iff.1 there).1
  have closed (a : Nat) (h : a ∈ rs) (b : Nat) (hb : b ∈ places ev.store.cells[a]?) : b ∈ rs := by
    cases there : ev.store.cells[a]? with
    | none => simp [there, places] at hb
    | some c => exact mem.2 (.inside (mem.1 h) there (by rwa [there, places_some] at hb))
  let m := gather rs ev'.store.cells.size distinct inside (ev'.store.cells[·]?)
  refine ⟨m, ⟨gathered_shown found closed inside same, ?_⟩, ?_, fun a ha unreached => ?_⟩
  · rw [table]
    exact (gather_put_idxOf (mem.2 (.root List.mem_cons_self))).symm
  · refine gather_moved (x := bindings) fun a ha => ?_
    exact mem.2 (.root (List.mem_cons_of_mem _ ha))
  · refine ⟨fun i there => ?_, rfl⟩
    subst there
    rcases Nat.lt_or_ge i rs.length with hi | hi
    · have place : m.put i = rs[i] := dif_pos hi
      rw [place] at unreached
      exact unreached (mem.1 (List.getElem_mem hi))
    · have place : m.put i = ev'.store.cells.size + (i - rs.length) := dif_neg (Nat.not_lt.2 hi)
      omega

/-- Code gives the same wherever all that it can reach is as it was. -/
theorem evaluate_same (code : String) (table : ev'.table = ev.table)
    (kept : ∀ a, Reaches ev.store (ev.roots bindings) a → ev.Keeps ev' a) :
    told (ev'.evaluate bindings code) = told (ev.evaluate bindings code) := by
  obtain ⟨m, related, back, -⟩ := alone_relates within rfl fun _ _ => rfl
  obtain ⟨m', related', back', -⟩ := alone_relates within table kept
  have here := (evaluate_moved related (ev.aloneBindings bindings) code).1
  have there := (evaluate_moved related' (ev.aloneBindings bindings) code).1
  rw [back] at here
  rw [back'] at there
  exact there.trans here.symm

/-- Code leaves all that it cannot reach as it is. -/
theorem after_keeps (code : String) {a : Nat} (ha : a < ev.store.cells.size)
    (unreached : ¬ Reaches ev.store (ev.roots bindings) a) :
    ev.Keeps (ev.after bindings code) a := by
  obtain ⟨m, related, back, aside⟩ := alone_relates within rfl fun _ _ => rfl
  have after := (evaluate_moved related (ev.aloneBindings bindings) code).2
  rw [back] at after
  obtain ⟨elsewhere, still⟩ := aside a ha unreached
  exact (after.store.aside a elsewhere).trans still

end

theorem run_table (ev : Evaluator) (bindings : Bindings) (p : Code.Program) :
    (ev.run bindings p).2.2.table = ev.table := by
  unfold run
  dsimp only
  split <;> rfl

theorem after_table (ev : Evaluator) (bindings : Bindings) (code : String) :
    (ev.after bindings code).table = ev.table := by
  unfold after evaluate
  split
  · rfl
  · exact run_table ev bindings _

end SessionScript.Evaluator
