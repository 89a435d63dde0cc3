import SessionScript.Evaluator.Run

/-!
# Values in a store

What a value of a scenario is among the data of running code: a leaf is itself, a tuple holds what
its items are, and every other container is a cell that holds them. What is made later does not
change this.
-/

namespace SessionScript.Evaluator

mutual

/-- A datum is, in a store, a value of a scenario. -/
inductive Represents (s : Store) : Value → Datum → Prop
  | null : Represents s .null .none
  | bool (b : Bool) : Represents s (.bool b) (.bool b)
  | int (i : Int) : Represents s (.int i) (.int i)
  | float (x : Binary64) : Represents s (.float x) (.float x)
  | text (t : String) : Represents s (.text t) (.text t)
  | bytes (b : List UInt8) : Represents s (.bytes b) (.bytes b)
  | list {vs : List Value} {ds : List Datum} {a : Nat} (items : RepresentsAll s vs ds)
    (found : s.cells[a]? = some (.list ds.toArray)) : Represents s (.list vs) (.cell a)
  | tuple {vs : List Value} {ds : List Datum} (items : RepresentsAll s vs ds) :
    Represents s (.tuple vs) (.tuple ds)
  | set {vs : List Value} {ds : List Datum} {a : Nat} (members : RepresentsAll s vs ds)
    (found : s.cells[a]? = some (.set ds false)) : Represents s (.set vs) (.cell a)
  | dict {es : List (Value × Value)} {ps : Pairs} {a : Nat} (entries : RepresentsEntries s es ps)
    (found : s.cells[a]? = some (.dict ps)) : Represents s (.dict es) (.cell a)
  | date (t : Date) : Represents s (.date t) (.host (.date t))
  | datetime (t : DateTime) : Represents s (.datetime t) (.host (.datetime t))
  | object (t : String) : Represents s (.object t) (.host (.object t))
  | error (kind message : String) :
    Represents s (.error kind message) (.error kind [.text message])
  | other (name shownAs : String) :
    Represents s (.other name shownAs) (.host (.other name shownAs))

/-- Data are values of a scenario, one by one. -/
inductive RepresentsAll (s : Store) : List Value → List Datum → Prop
  | nil : RepresentsAll s [] []
  | cons {v : Value} {d : Datum} {vs : List Value} {ds : List Datum} (head : Represents s v d)
    (tail : RepresentsAll s vs ds) : RepresentsAll s (v :: vs) (d :: ds)

/-- The keys and values of a mapping are those of entries of a scenario, one by one. -/
inductive RepresentsEntries (s : Store) : List (Value × Value) → Pairs → Prop
  | nil : RepresentsEntries s [] []
  | cons {k v : Value} {key d : Datum} {es : List (Value × Value)} {ps : Pairs}
    (head : Represents s k key) (value : Represents s v d) (tail : RepresentsEntries s es ps) :
    RepresentsEntries s ((k, v) :: es) ((key, d) :: ps)

end

/-! ## Stores that grow -/

/-- A store still has the cells of an earlier one. -/
def Extends (s t : Store) : Prop :=
  ∀ (a : Nat) (c : Cell), s.cells[a]? = some c → t.cells[a]? = some c

theorem Extends.refl (s : Store) : Extends s s := fun _ _ found => found

theorem Extends.trans {s t u : Store} (first : Extends s t) (second : Extends t u) :
    Extends s u := fun a c found => second a c (first a c found)

theorem extends_push (s : Store) (c : Cell) : Extends s { s with cells := s.cells.push c } := by
  intro a old found
  obtain ⟨inside, same⟩ := Array.getElem?_eq_some_iff.mp found
  rw [Array.getElem?_push_lt inside, same]

mutual

theorem Represents.extend {s t : Store} (later : Extends s t) :
    {v : Value} → {d : Datum} → Represents s v d → Represents t v d
  | _, _, .null => .null
  | _, _, .bool b => .bool b
  | _, _, .int i => .int i
  | _, _, .float x => .float x
  | _, _, .text x => .text x
  | _, _, .bytes b => .bytes b
  | _, _, .list items found => .list (items.extend later) (later _ _ found)
  | _, _, .tuple items => .tuple (items.extend later)
  | _, _, .set members found => .set (members.extend later) (later _ _ found)
  | _, _, .dict entries found => .dict (entries.extend later) (later _ _ found)
  | _, _, .date x => .date x
  | _, _, .datetime x => .datetime x
  | _, _, .object x => .object x
  | _, _, .error kind message => .error kind message
  | _, _, .other name shownAs => .other name shownAs

theorem RepresentsAll.extend {s t : Store} (later : Extends s t) :
    {vs : List Value} → {ds : List Datum} → RepresentsAll s vs ds → RepresentsAll t vs ds
  | _, _, .nil => .nil
  | _, _, .cons head tail => .cons (head.extend later) (tail.extend later)

theorem RepresentsEntries.extend {s t : Store} (later : Extends s t) :
    {es : List (Value × Value)} → {ps : Pairs} → RepresentsEntries s es ps →
      RepresentsEntries t es ps
  | _, _, .nil => .nil
  | _, _, .cons head value tail =>
    .cons (head.extend later) (value.extend later) (tail.extend later)

end

theorem RepresentsAll.length_eq {s : Store} {vs : List Value} {ds : List Datum}
    (all : RepresentsAll s vs ds) : ds.length = vs.length := by
  induction vs generalizing ds with
  | nil =>
    cases all
    rfl
  | cons v vs ih =>
    obtain _ | ⟨-, tail⟩ := all
    rw [List.length_cons, List.length_cons, ih tail]

/-! ## Values that are taken in -/

/-- A computation goes well, leaves all cells as they are and gives something with a property of
    the store that it leaves. -/
def Makes {α : Type} (w : Work α) (P : Store → α → Prop) : Prop :=
  ∀ s, ∃ a t, w s = .ok a t ∧ Extends s t ∧ P t a

theorem Makes.pure {α : Type} {P : Store → α → Prop} {a : α} (holds : ∀ s, P s a) :
    Makes (Pure.pure a) P := fun s => ⟨a, s, rfl, .refl s, holds s⟩

theorem Makes.bind {α β : Type} {w : Work α} {next : α → Work β} {P : Store → α → Prop}
    {Q : Store → β → Prop} (first : Makes w P)
    (second : ∀ a s, P s a → ∃ b t, next a s = .ok b t ∧ Extends s t ∧ Q t b) :
    Makes (w >>= next) Q := by
  intro s
  obtain ⟨a, t, ran, grown, made⟩ := first s
  obtain ⟨b, u, ran', grown', made'⟩ := second a t made
  refine ⟨b, u, ?_, grown.trans grown', made'⟩
  simp only [Bind.bind, EStateM.bind, ran, ran']

theorem new_cell (c : Cell) (s : Store) :
    ∃ t, Work.new c s = .ok (.cell s.cells.size) t ∧ Extends s t ∧
      t.cells[s.cells.size]? = some c :=
  ⟨_, rfl, extends_push s c, Array.getElem?_push_size⟩

mutual

/-- What is taken in is the value. -/
theorem take_represents : (v : Value) → Makes (take v) (Represents · v ·)
  | .null => .pure fun _ => .null
  | .bool b => .pure fun _ => .bool b
  | .int i => .pure fun _ => .int i
  | .float x => .pure fun _ => .float x
  | .text x => .pure fun _ => .text x
  | .bytes b => .pure fun _ => .bytes b
  | .list vs => by
    refine (takeItems_represents vs).bind fun ds s items => ?_
    obtain ⟨t, ran, grown, found⟩ := new_cell (.list ds.toArray) s
    exact ⟨_, t, ran, grown, .list (items.extend grown) found⟩
  | .tuple vs => by
    refine (takeItems_represents vs).bind fun ds s items => ?_
    exact ⟨_, s, rfl, .refl s, .tuple items⟩
  | .set vs => by
    refine (takeItems_represents vs).bind fun ds s members => ?_
    obtain ⟨t, ran, grown, found⟩ := new_cell (.set ds false) s
    exact ⟨_, t, ran, grown, .set (members.extend grown) found⟩
  | .dict es => by
    refine (takeEntries_represents es).bind fun ps s entries => ?_
    obtain ⟨t, ran, grown, found⟩ := new_cell (.dict ps) s
    exact ⟨_, t, ran, grown, .dict (entries.extend grown) found⟩
  | .date x => .pure fun _ => .date x
  | .datetime x => .pure fun _ => .datetime x
  | .object x => .pure fun _ => .object x
  | .error kind message => .pure fun _ => .error kind message
  | .other name shownAs => .pure fun _ => .other name shownAs

theorem takeItems_represents : (vs : List Value) → Makes (takeItems vs) (RepresentsAll · vs ·)
  | [] => .pure fun _ => .nil
  | v :: vs => by
    refine (take_represents v).bind fun d s head => ?_
    obtain ⟨ds, t, ran, grown, tail⟩ := takeItems_represents vs s
    refine ⟨d :: ds, t, ?_, grown, .cons (head.extend grown) tail⟩
    simp only [Bind.bind, EStateM.bind, ran]
    rfl

theorem takeEntries_represents :
    (es : List (Value × Value)) → Makes (takeEntries es) (RepresentsEntries · es ·)
  | [] => .pure fun _ => .nil
  | (k, v) :: es => by
    refine (take_represents k).bind fun key s head => ?_
    obtain ⟨d, t, ran, grown, value⟩ := take_represents v s
    obtain ⟨ps, u, ran', grown', tail⟩ := takeEntries_represents es t
    refine ⟨(key, d) :: ps, u, ?_, grown.trans grown',
      .cons (head.extend (grown.trans grown')) (value.extend grown') tail⟩
    simp only [Bind.bind, EStateM.bind, ran, ran']
    rfl

end

/-- The arguments of a call are taken in one by one. -/
theorem acceptAll_represents (ev : Evaluator) (vs : List Value) :
    RepresentsAll (ev.acceptAll vs).2.store vs (ev.acceptAll vs).1 ∧
      Extends ev.store (ev.acceptAll vs).2.store ∧ (ev.acceptAll vs).2.table = ev.table := by
  induction vs generalizing ev with
  | nil => exact ⟨.nil, .refl _, rfl⟩
  | cons v vs ih =>
    obtain ⟨d, t, ran, grown, head⟩ := take_represents v ev.store
    have accepted : ev.accept v = (d, { ev with store := t }) := by
      simp only [accept, EStateM.run, ran]
    obtain ⟨tail, grown', table⟩ := ih { ev with store := t }
    simp only [acceptAll, accepted]
    exact ⟨.cons (head.extend grown') tail, grown.trans grown', table⟩

end SessionScript.Evaluator
