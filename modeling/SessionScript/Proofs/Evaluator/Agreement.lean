import SessionScript.Evaluator.Calling
import SessionScript.Proofs.Evaluator.Places

/-!
# Agreement

The same code can run on two stores of which one holds the cells of the other at other places,
beside cells of its own. Two computations agree if they do the same on two such stores: they give
the same value or raise the same error up to the places, and leave two such stores again.
-/

namespace SessionScript.Evaluator

/-- Where the cells of a store stand in another one. The first ones stand anywhere, those that are
    made later side by side. -/
structure Move where
  put : Nat → Nat
  start : Nat
  injective : ∀ {a b : Nat}, put a = put b → a = b
  below : ∀ a, a < start → put a < put start
  next : ∀ a, start ≤ a → put (a + 1) = put a + 1
  /-- What the other store holds at other places. -/
  aside : Nat → Option Cell

namespace Move

variable (m : Move) {s t : Store}

theorem put_inj {a b : Nat} : m.put a = m.put b ↔ a = b := ⟨m.injective, congrArg m.put⟩

theorem put_beq (a b : Nat) : (m.put a == m.put b) = (a == b) := by
  rw [Bool.eq_iff_iff, beq_iff_eq, beq_iff_eq, m.put_inj]

theorem put_add (n : Nat) : m.put (m.start + n) = m.put m.start + n := by
  induction n with
  | zero => rfl
  | succ n ih => rw [← Nat.add_assoc, m.next _ (Nat.le_add_right _ _), ih, Nat.add_assoc]

/-- Only cells that are there stand below the end. -/
theorem put_lt {a n : Nat} (h : m.start ≤ n) : m.put a < m.put n ↔ a < n := by
  obtain ⟨k, rfl⟩ := Nat.exists_eq_add_of_le h
  rw [m.put_add]
  rcases Nat.lt_or_ge a m.start with ha | ha
  · have := m.below a ha
    omega
  · obtain ⟨i, rfl⟩ := Nat.exists_eq_add_of_le ha
    rw [m.put_add]
    omega

/-- Whether a store shows the cells of another one where a move puts them. -/
structure Shows (s t : Store) : Prop where
  start_le : m.start ≤ s.cells.size
  size : t.cells.size = m.put s.cells.size
  cell : ∀ a, t.cells[m.put a]? = s.cells[a]?.map (moved m.put)
  aside : ∀ b, (∀ a, m.put a ≠ b) → t.cells[b]? = m.aside b
  handling : t.handling = s.handling.map (moved m.put)
  room : t.room = s.room

namespace Shows

variable {m}

theorem getD (h : m.Shows s t) (a : Nat) :
    t.cells.getD (m.put a) (.names []) = moved m.put (s.cells.getD a (.names [])) := by
  rw [Array.getD_eq_getD_getElem?, h.cell, Array.getD_eq_getD_getElem?]
  cases s.cells[a]? <;> rfl

theorem push (h : m.Shows s t) (c : Cell) :
    m.Shows { s with cells := s.cells.push c }
      { t with cells := t.cells.push (moved m.put c) } where
  start_le := by simpa using Nat.le_succ_of_le h.start_le
  size := by simp only [Array.size_push, h.size, m.next _ h.start_le]
  cell a := by
    simp only [Array.getElem?_push, h.size, m.put_inj, h.cell]
    split <;> rfl
  aside b hb := by
    rw [Array.getElem?_push, if_neg, h.aside b hb]
    rw [h.size]
    exact fun at_end => hb _ at_end.symm
  handling := h.handling
  room := h.room

theorem set (h : m.Shows s t) (a : Nat) (c : Cell) :
    m.Shows { s with cells := s.cells.setIfInBounds a c }
      { t with cells := t.cells.setIfInBounds (m.put a) (moved m.put c) } where
  start_le := by simpa using h.start_le
  size := by simpa using h.size
  cell b := by
    simp only [Array.getElem?_setIfInBounds, m.put_inj, h.size, m.put_lt h.start_le, h.cell]
    split
    · split <;> rfl
    · rfl
  aside b hb := by
    rw [Array.getElem?_setIfInBounds, if_neg (hb a), h.aside b hb]
  handling := h.handling
  room := h.room

end Shows

end Move

/-! ## Computations that agree -/

instance {α : Type} [Movable α] : Movable (Except Raised α) where
  places
    | .ok x => places x
    | .error e => places e
  moved f
    | .ok x => .ok (moved f x)
    | .error e => .error (moved f e)
  moved_eq_self {f x} h := by cases x <;> simp only [Movable.moved_eq_self h]
  moved_moved f g x := by cases x <;> simp only [Movable.moved_moved]

variable {α β γ : Type} [Movable α] [Movable β] [Movable γ] {m : Move}

theorem moved_ok (f : Nat → Nat) (x : α) :
    moved f (Except.ok x : Except Raised α) = .ok (moved f x) := rfl

theorem moved_failed (f : Nat → Nat) (e : Raised) :
    moved f (Except.error e : Except Raised α) = .error (moved f e) := rfl

/-- Two ends of computations that are the same up to the places of cells. -/
inductive SameEnd (m : Move) :
    EStateM.Result Raised Store α → EStateM.Result Raised Store α → Prop
  | ok {x y : α} {s t : Store} (value : y = moved m.put x) (shows : m.Shows s t) :
    SameEnd m (.ok x s) (.ok y t)
  | error {e e' : Raised} {s t : Store} (raised : e' = moved m.put e) (shows : m.Shows s t) :
    SameEnd m (.error e s) (.error e' t)

/-- Two computations do the same on two stores that hold the same cells at different places. -/
def Agree (m : Move) (w w' : Work α) : Prop :=
  ∀ s t, m.Shows s t → SameEnd m (w s) (w' t)

namespace Agree

variable {w w' : Work α} {f g : α → Work β}

@[grind ←] theorem pure {x y : α} (h : y = moved m.put x) : Agree m (pure x : Work α) (pure y) :=
  fun _ _ st => .ok h st

@[grind ←] theorem throw {e e' : Raised} (h : e' = moved m.put e) :
    Agree m (throw e : Work α) (throw e') :=
  fun _ _ st => .error h st

@[grind ←] theorem raise {kind message : String} :
    Agree m (Work.raise kind message : Work α) (Work.raise kind message) :=
  throw rfl

@[grind ←] theorem typeError {message : String} :
    Agree m (Work.typeError message : Work α) (Work.typeError message) := raise

@[grind ←] theorem valueError {message : String} :
    Agree m (Work.valueError message : Work α) (Work.valueError message) := raise

@[grind ←] theorem bind (h : Agree m w w') (k : ∀ x, Agree m (f x) (g (moved m.put x))) :
    Agree m (w >>= f) (w' >>= g) := by
  intro s t st
  have ends := h s t st
  simp only [Bind.bind, EStateM.bind]
  revert ends
  rcases w s with ⟨x, s'⟩ | ⟨e, s'⟩ <;> rcases w' t with ⟨y, t'⟩ | ⟨e', t'⟩ <;> rintro (_ | _)
  case ok.ok.ok value st' =>
    subst value
    exact k x s' t' st'
  case error.error.error raised st' => exact .error raised st'

theorem map {k k' : α → β} (h : Agree m w w') (hk : ∀ x, k' (moved m.put x) = moved m.put (k x)) :
    Agree m (k <$> w) (k' <$> w') := by
  simp only [map_eq_pure_bind]
  exact h.bind fun x => pure (hk x)

theorem ite {p q : Prop} [Decidable p] [Decidable q] {v v' : Work α} (c : p ↔ q)
    (h : p → Agree m w w') (h' : ¬ p → Agree m v v') :
    Agree m (if p then w else v) (if q then w' else v') := by
  by_cases hp : p
  · rw [if_pos hp, if_pos (c.1 hp)]
    exact h hp
  · rw [if_neg hp, if_neg (mt c.2 hp)]
    exact h' hp

/-- An error that is raised under the same condition. -/
theorem guard {δ : Type} {p : Prop} [Decidable p] {kind message : String} {k k' : δ → Work α}
    {v v' : Work α} (h : Agree m v v') :
    Agree m (if p then Work.raise kind message >>= k else v)
      (if p then Work.raise kind message >>= k' else v') :=
  ite Iff.rfl (fun _ => raise) fun _ => h

/-- What was done before an error stays done where the error is handled. -/
theorem tryCatch {handle handle' : Raised → Work α} (h : Agree m w w')
    (k : ∀ e, Agree m (handle e) (handle' (moved m.put e))) :
    Agree m (tryCatch w handle) (tryCatch w' handle') := by
  intro s t st
  have ends := h s t st
  simp only [MonadExcept.tryCatch, tryCatchThe, MonadExceptOf.tryCatch]
  delta EStateM.tryCatch
  revert ends
  rcases w s with ⟨x, s'⟩ | ⟨e, s'⟩ <;> rcases w' t with ⟨y, t'⟩ | ⟨e', t'⟩ <;> rintro (_ | _)
  case ok.ok.ok value st' => exact .ok value st'
  case error.error.error raised st' =>
    subst raised
    exact k e s' t' st'

/-- What reads the whole store agrees if it does so on every two stores with the same cells. -/
theorem get_bind {f g : Store → Work β} (k : ∀ s t, m.Shows s t → Agree m (f s) (g t)) :
    Agree m (get >>= f) (get >>= g) :=
  fun s t st => k s t st s t st

theorem modify_bind {f g : Store → Store} {k k' : PUnit → Work β}
    (h : ∀ s t, m.Shows s t → m.Shows (f s) (g t)) (hk : Agree m (k ⟨⟩) (k' ⟨⟩)) :
    Agree m (modify f >>= k) (modify g >>= k') :=
  fun s t st => hk _ _ (h s t st)

/-! ### Cells -/

@[grind ←] theorem read (a : Nat) : Agree m (Work.read a) (Work.read (m.put a)) :=
  fun _ _ st => .ok (st.getD a) st

@[grind ←] theorem write (a : Nat) (c : Cell) :
    Agree m (Work.write a c) (Work.write (m.put a) (moved m.put c)) :=
  fun _ _ st => .ok rfl (st.set a c)

theorem newCell_bind {f g : Nat → Work β} {c c' : Cell} (h : c' = moved m.put c)
    (k : ∀ a, Agree m (f a) (g (m.put a))) :
    Agree m (Work.newCell c >>= f) (Work.newCell c' >>= g) := by
  subst h
  intro s t st
  have there := k s.cells.size _ _ (st.push c)
  rw [← st.size] at there
  exact there

@[grind ←] theorem new (c : Cell) : Agree m (Work.new c) (Work.new (moved m.put c)) :=
  newCell_bind rfl fun _ => pure rfl

@[grind ←] theorem newList (ds : List Datum) :
    Agree m (Work.newList ds) (Work.newList (ds.map (moved m.put))) := by
  unfold Work.newList
  rw [← List.map_toArray]
  exact new (.list ds.toArray)

/-! ### Lists -/

variable {xs : List α}

theorem forM {f g : α → Work PUnit} (h : ∀ x ∈ xs, Agree m (f x) (g (moved m.put x))) :
    Agree m (xs.forM f) ((xs.map (moved m.put)).forM g) := by
  induction xs with
  | nil => exact pure rfl
  | cons x xs ih =>
    exact (h x (List.mem_cons_self ..)).bind fun _ => ih fun y hy => h y (List.mem_cons_of_mem _ hy)

theorem mapM {f g : α → Work β} (h : ∀ x ∈ xs, Agree m (f x) (g (moved m.put x))) :
    Agree m (xs.mapM f) ((xs.map (moved m.put)).mapM g) := by
  induction xs with
  | nil => exact pure rfl
  | cons x xs ih =>
    rw [List.map_cons, List.mapM_cons, List.mapM_cons]
    refine (h x (List.mem_cons_self ..)).bind fun y => ?_
    refine (ih fun z hz => h z (List.mem_cons_of_mem _ hz)).bind fun ys => ?_
    exact pure rfl

/-- What is asked of each thing may agree though the things mention no places. -/
theorem mapM_constant {δ : Type} {xs : List δ} {f g : δ → Work β}
    (h : ∀ x ∈ xs, Agree m (f x) (g x)) : Agree m (xs.mapM f) (xs.mapM g) := by
  let _ : Movable δ := .constant
  simpa using mapM (m := m) h

theorem foldlM {f g : β → α → Work β} (acc : β)
    (h : ∀ acc x, Agree m (f acc x) (g (moved m.put acc) (moved m.put x))) :
    Agree m (xs.foldlM f acc) ((xs.map (moved m.put)).foldlM g (moved m.put acc)) := by
  induction xs generalizing acc with
  | nil => exact pure rfl
  | cons x xs ih =>
    rw [List.map_cons, List.foldlM_cons, List.foldlM_cons]
    exact (h acc x).bind fun acc => ih acc

theorem anyM {f g : α → Work Bool} (h : ∀ x ∈ xs, Agree m (f x) (g (moved m.put x))) :
    Agree m (xs.anyM f) ((xs.map (moved m.put)).anyM g) := by
  induction xs with
  | nil => exact pure rfl
  | cons x xs ih =>
    refine (h x (List.mem_cons_self ..)).bind fun b => ?_
    cases b with
    | true => exact pure rfl
    | false => exact ih fun y hy => h y (List.mem_cons_of_mem _ hy)

theorem filterAuxM {f g : α → Work Bool} (h : ∀ x ∈ xs, Agree m (f x) (g (moved m.put x)))
    (acc : List α) :
    Agree m (xs.filterAuxM f acc)
      ((xs.map (moved m.put)).filterAuxM g (acc.map (moved m.put))) := by
  induction xs generalizing acc with
  | nil => exact pure rfl
  | cons x xs ih =>
    refine (h x (List.mem_cons_self ..)).bind fun b => ?_
    cases b <;> exact ih (fun y hy => h y (List.mem_cons_of_mem _ hy)) _

theorem filterM {f g : α → Work Bool} (h : ∀ x ∈ xs, Agree m (f x) (g (moved m.put x))) :
    Agree m (xs.filterM f) ((xs.map (moved m.put)).filterM g) :=
  (filterAuxM h []).bind fun _ => pure List.map_reverse.symm

end Agree

end SessionScript.Evaluator
