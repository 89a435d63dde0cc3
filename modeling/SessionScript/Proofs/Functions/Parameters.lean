import SessionScript.Proofs.Evaluator.Representation
import SessionScript.Proofs.Functions.Table
import SessionScript.Proofs.Schema.Fidelity
import SessionScript.Proofs.Template.Names

/-!
# Parameters

What the code of a function sees when its first statement is reached. Each parameter is bound to
the argument at its position, or to nothing where there is none, and all arguments are bound
together to a name of their own. That name is bound last, so a parameter of this name does not get
its argument.
-/

namespace SessionScript

namespace Evaluator

/-! ## Names that are bound one after another -/

namespace Work

theorem lookup_cons_ne {name other : String} (differs : other ≠ name) (d : Datum) (ns : Bindings) :
    ((name, d) :: ns).lookup other = ns.lookup other := by
  rw [List.lookup_cons, beq_false_of_ne differs]

theorem lookup_bindName (name other : String) (d : Datum) (ns : Bindings) :
    (bindName name d ns).lookup other = if other = name then some d else ns.lookup other := by
  induction ns with
  | nil =>
    by_cases same : other = name
    · rw [bindName, same, List.lookup_cons_self, if_pos rfl]
    · rw [bindName, lookup_cons_ne same, if_neg same]
  | cons b ns ih =>
    obtain ⟨n, v⟩ := b
    unfold bindName
    by_cases here : n = name
    · rw [if_pos (beq_iff_eq.mpr here), here]
      by_cases same : other = name
      · rw [same, List.lookup_cons_self, if_pos rfl]
      · rw [lookup_cons_ne same, lookup_cons_ne same, if_neg same]
    · rw [if_neg (mt beq_iff_eq.mp here)]
      by_cases same : other = n
      · have differs : n ≠ name := here
        rw [same, List.lookup_cons_self, List.lookup_cons_self, if_neg differs]
      · rw [lookup_cons_ne same, lookup_cons_ne same, ih]

/-- Names that are not bound keep their values. -/
theorem lookup_bindAll_of_not_mem {name : String} {bs : Bindings}
    (absent : name ∉ bs.map Prod.fst) (ns : Bindings) :
    (bs.foldl (fun acc b => bindName b.1 b.2 acc) ns).lookup name = ns.lookup name := by
  induction bs generalizing ns with
  | nil => rfl
  | cons b bs ih =>
    rw [List.map_cons, List.mem_cons, not_or] at absent
    rw [List.foldl_cons, ih absent.2, lookup_bindName, if_neg absent.1]

/-- A name that is bound once has the value that it is bound to. -/
theorem lookup_bindAll {b : String × Datum} {bs : Bindings} (among : b ∈ bs)
    (distinct : (bs.map Prod.fst).Nodup) (ns : Bindings) :
    (bs.foldl (fun acc b => bindName b.1 b.2 acc) ns).lookup b.1 = some b.2 := by
  obtain ⟨front, back, rfl⟩ := List.append_of_mem among
  have last : b.1 ∉ back.map Prod.fst := by
    rw [List.map_append, List.map_cons] at distinct
    exact (List.nodup_cons.mp (List.nodup_append.mp distinct).2.1).1
  rw [List.foldl_append, List.foldl_cons, lookup_bindAll_of_not_mem last, lookup_bindName,
    if_pos rfl]

end Work

/-! ## The start of a program -/

/-- What happens before the first statement of a program; it gives the scope of the program. -/
def opening (globals : Nat) (p : Code.Program) : Work Scope := do
  let scope : Scope := { globals := globals, builtins := ← tableFor globals, frames := [] }
  prepare globals p
  return scope

/-- What a program does from its first statement on. -/
def body (p : Code.Program) (scope : Scope) : Work Datum := do
  let _ ← execBlock steps scope p.body
  match p.tail with
  | none => return .none
  | some e =>
    let table ← tableFor scope.globals
    eval steps { globals := scope.globals, builtins := table, frames := [] } e

theorem runIn_eq_opening_body (globals : Nat) (p : Code.Program) :
    runIn globals p = opening globals p >>= body p := by
  simp only [runIn, opening, bind_assoc, pure_bind]
  rfl

theorem attempt_eq {α : Type} (w : Work α) (s : Store) :
    Work.attempt w s =
      match w s with
      | .ok a t => .ok (.ok a) t
      | .error e t => .ok (.error e) t := by
  simp only [Work.attempt, tryCatch, tryCatchThe, MonadExceptOf.tryCatch, EStateM.tryCatch,
    Bind.bind, EStateM.bind]
  cases w s <;> rfl

theorem read_eq (a : Nat) (s : Store) :
    Work.read a s = .ok (s.cells.getD a (.names [])) s := rfl

theorem exists_bound (a : Nat) (s : Store) : ∃ ns, Work.bound a s = .ok ns s := by
  simp only [Work.bound, Bind.bind, EStateM.bind, read_eq]
  cases s.cells.getD a (.names []) <;> exact ⟨_, rfl⟩

/-- A program ends as it does from its first statement on. -/
theorem run_of_opening {ev : Evaluator} {bindings : Bindings} {p : Code.Program} {scope : Scope}
    {globals : Nat} {start s : Store}
    (made : Work.newCell (.names (Work.bindName tableName (.cell ev.table) bindings))
      { ev.store with handling := [], room := mostCalls } = .ok globals start)
    (opened : opening globals p start = .ok scope s) :
    ∃ after, ev.run bindings p =
      match body p scope s with
      | .ok d t => (.ok d, after, { ev with store := t })
      | .error e t => (.error (failed (giveError t e)), after, { ev with store := t }) := by
  simp only [Evaluator.run, EStateM.run, runWith, Bind.bind, EStateM.bind, made, attempt_eq,
    runIn_eq_opening_body, opened]
  cases body p scope s with
  | ok d t =>
    obtain ⟨ns, seen⟩ := exists_bound globals t
    simp only [seen]
    exact ⟨_, rfl⟩
  | error e t =>
    obtain ⟨ns, seen⟩ := exists_bound globals t
    simp only [seen]
    exact ⟨_, rfl⟩

/-- A store in which a cell holds some names, and whose other cells are those of an earlier one. -/
structure Holds (s : Store) (globals : Nat) (ns : Bindings) (t : Store) : Prop where
  names : t.cells[globals]? = some (.names ns)
  others : ∀ (a : Nat) (c : Cell), a ≠ globals → s.cells[a]? = some c → t.cells[a]? = some c

section
variable {s t : Store} {globals : Nat} {ns : Bindings}

theorem Holds.bound (holds : Holds s globals ns t) : Work.bound globals t = .ok ns t := by
  have found : t.cells.getD globals (.names []) = .names ns := by
    rw [Array.getD_eq_getD_getElem?, holds.names, Option.getD_some]
  simp only [Work.bound, Bind.bind, EStateM.bind, read_eq, found]
  rfl

theorem Holds.bind (holds : Holds s globals ns t) (name : String) (d : Datum) :
    ∃ u, Work.bind globals name d t = .ok () u ∧ Holds s globals (Work.bindName name d ns) u := by
  refine ⟨{ t with cells := t.cells.setIfInBounds globals (.names (Work.bindName name d ns)) },
    ?_, ?_, ?_⟩
  · simp only [Work.bind, Bind.bind, EStateM.bind, holds.bound]
    rfl
  · have inside := (Array.getElem?_eq_some_iff.mp holds.names).1
    exact Array.getElem?_setIfInBounds_self_of_lt inside
  · intro a c elsewhere found
    rw [Array.getElem?_setIfInBounds_ne elsewhere.symm]
    exact holds.others a c elsewhere found

end

/-- The names that a program binds before its first statement. -/
def preparedNames : List String := ["__annotations__", "__doc__"]

/-- A computation goes well, and changes no cells but the one of the names, and there no names but
    those that a program binds before its first statement. -/
def Prepares (globals : Nat) (w : Work Unit) : Prop :=
  ∀ s ns t, Holds s globals ns t → ∃ ns' u, w t = .ok () u ∧ Holds s globals ns' u ∧
    ∀ name ∉ preparedNames, ns'.lookup name = ns.lookup name

namespace Prepares

variable {globals : Nat}

theorem pure : Prepares globals (Pure.pure ()) :=
  fun _ ns t holds => ⟨ns, t, rfl, holds, fun _ _ => rfl⟩

theorem bind {name : String} (own : name ∈ preparedNames) (d : Datum) :
    Prepares globals (Work.bind globals name d) := by
  intro s ns t holds
  obtain ⟨u, ran, held⟩ := holds.bind name d
  refine ⟨_, u, ran, held, fun other foreign => ?_⟩
  have differs : other ≠ name := fun same => foreign (same ▸ own)
  rw [Work.lookup_bindName, if_neg differs]

theorem andThen {w w' : Work Unit} (first : Prepares globals w) (second : Prepares globals w') :
    Prepares globals (do w; w') := by
  intro s ns t holds
  obtain ⟨ns₁, t₁, ran, holds₁, same₁⟩ := first s ns t holds
  obtain ⟨ns₂, t₂, ran', holds₂, same₂⟩ := second s ns₁ t₁ holds₁
  refine ⟨ns₂, t₂, ?_, holds₂, fun name foreign => ?_⟩
  · simp only [Bind.bind, EStateM.bind, ran, ran']
  · rw [same₂ name foreign, same₁ name foreign]

/-- To look at the names changes nothing. -/
theorem bound_bind {next : Bindings → Work Unit} (all : ∀ ns, Prepares globals (next ns)) :
    Prepares globals (Work.bound globals >>= next) := by
  intro s ns t holds
  simp only [Bind.bind, EStateM.bind, holds.bound]
  exact all ns s ns t holds

/-- A new cell stands behind all others. -/
theorem new_bind (c : Cell) {next : Datum → Work Unit} (all : ∀ d, Prepares globals (next d)) :
    Prepares globals (Work.new c >>= next) := by
  intro s ns t holds
  obtain ⟨u, ran, grown, -⟩ := new_cell c t
  simp only [Bind.bind, EStateM.bind, ran]
  exact all _ s ns u ⟨grown _ _ holds.names,
    fun a c elsewhere found => grown _ _ (holds.others a c elsewhere found)⟩

end Prepares

/-- Before its first statement a program binds its text and its notes and nothing else. -/
theorem prepare_prepares (globals : Nat) (p : Code.Program) :
    Prepares globals (prepare globals p) := by
  unfold prepare
  extract_lets text
  have kept (u : Unit) : Prepares globals (text u) := by
    dsimp only [text]
    cases p.body.head?.bind Code.Stmt.text? with
    | none => exact .pure
    | some doc => exact .bind (by decide) (.text doc)
  split
  · refine .bound_bind fun ns => ?_
    split
    · refine .new_bind _ fun notes => ?_
      exact .andThen (.bind (by decide) notes) (kept ())
    · exact kept ()
  · exact kept ()

section
variable {s t : Store} {globals : Nat} {ns : Bindings}

/-- A program whose names hold a table starts with this table, and sees the names that it is given
    but for those that it binds itself. -/
theorem Holds.opening (holds : Holds s globals ns t) {table : Datum}
    (given : ns.lookup tableName = some table) (p : Code.Program) :
    ∃ ns' u, opening globals p t = .ok { globals := globals, builtins := table, frames := [] } u ∧
      Holds s globals ns' u ∧ ∀ name ∉ preparedNames, ns'.lookup name = ns.lookup name := by
  obtain ⟨ns', u, ran, held, same⟩ := prepare_prepares globals p s ns t holds
  refine ⟨ns', u, ?_, held, same⟩
  have found : tableFor globals t = .ok table t := by
    simp only [tableFor, Bind.bind, EStateM.bind, holds.bound, given]
    rfl
  simp only [Evaluator.opening, Bind.bind, EStateM.bind, found, ran]
  rfl

/-- A name of the whole code has the value that it is bound to. -/
theorem Holds.load (holds : Holds s globals ns t) (table : Datum) {name : String} {d : Datum}
    (bound : ns.lookup name = some d) :
    (Scope.load { globals := globals, builtins := table, frames := [] } name).run t = .ok d t := by
  simp only [EStateM.run, Scope.load, Scope.home, Scope.homeIn, Scope.loadGlobal, Bind.bind,
    EStateM.bind, holds.bound, bound]
  rfl

end

end Evaluator

namespace CodeFunction

open Evaluator Schema

/-! ## The start of a call -/

/-- How a call gets to the first statement of its function: it takes in the arguments and binds
    them in a new cell. -/
def opening (f : CodeFunction) (ev : Evaluator) (args : List Value) :
    EStateM.Result Raised Store Scope :=
  let (ds, ev) := ev.acceptAll args
  let start : Work Scope := do
    let names := Work.bindName tableName (.cell ev.table) (bindings f.params ds)
    Evaluator.opening (← Work.newCell (.names names)) f.program
  start.run { ev.store with handling := [], room := mostCalls }

/-- How a call ends from the first statement on. -/
def closing (f : CodeFunction) (ev : Evaluator) (scope : Scope) (s : Store) :
    Except Failure Value × Evaluator :=
  match (body f.program scope).run s with
  | .ok d t => (.ok (give t d), { ev with store := t })
  | .error e t => (.error (failed (giveError t e)), { ev with store := t })

/-- The rest of a call is what the code does from its first statement on. -/
theorem call_eq_closing {f : CodeFunction} {ev : Evaluator} {args : List Value} {scope : Scope}
    {s : Store} (opened : f.opening ev args = .ok scope s) :
    f.call ev args = f.closing ev scope s := by
  obtain ⟨-, -, table⟩ := acceptAll_represents ev args
  revert opened table
  unfold opening call
  generalize ev.acceptAll args = accepted
  obtain ⟨ds, ev'⟩ := accepted
  intro opened table
  dsimp only at opened table ⊢
  obtain ⟨globals, start, made, reached⟩ : ∃ globals start,
      Work.newCell (.names (Work.bindName tableName (.cell ev'.table) (bindings f.params ds)))
        { ev'.store with handling := [], room := mostCalls } = .ok globals start ∧
      Evaluator.opening globals f.program start = .ok scope s := ⟨_, _, rfl, opened⟩
  obtain ⟨after, ran⟩ := run_of_opening made reached
  simp only [ran, closing, EStateM.run]
  cases body f.program scope s with
  | ok d t => simp only [Except.map, release, table]
  | error e t => simp only [Except.map, table]

/-! ## Bound parameters -/

theorem bindParams_names {α : Type} (missing : α) (params : List String) (args : List α) :
    (bindParams missing params args).map Prod.fst = params := by
  rw [bindParams, List.map_map]
  exact List.zipIdx_map_fst 0 params

/-- A parameter is bound to the argument at its position. -/
theorem mem_bindParams {α : Type} (missing : α) {params : List String} (args : List α) {i : Nat}
    {p : String} (there : params[i]? = some p) :
    (p, (args[i]?).getD missing) ∈ bindParams missing params args := by
  refine List.mem_map.mpr ⟨(p, i), ?_, rfl⟩
  rw [List.mem_zipIdx_iff_getElem?]
  exact there

/-- All arguments are bound under a name of their own, whatever the parameters are. -/
theorem lookup_bindings_args (params : List String) (ds : List Datum) :
    (bindings params ds).lookup "args" = some (.tuple ds) := by
  rw [bindings, List.foldl_append, List.foldl_cons, List.foldl_nil, Work.lookup_bindName,
    if_pos rfl]

/-- Distinct parameters with other names are bound to the arguments at their positions. -/
theorem lookup_bindings {params : List String} (distinct : params.Nodup) (ds : List Datum) {i : Nat}
    {p : String} (there : params[i]? = some p) (other : p ≠ "args") :
    (bindings params ds).lookup p = some ((ds[i]?).getD .none) := by
  rw [bindings, List.foldl_append, List.foldl_cons, List.foldl_nil, Work.lookup_bindName,
    if_neg other]
  refine Work.lookup_bindAll (mem_bindParams Datum.none ds there) ?_ []
  rwa [bindParams_names]

/-- The parameters of a definition in a document are names of variables. -/
theorem isVariableName_of_params {doc : Value} {d : FunctionDefinition}
    (accepted : FunctionDefinition.ofValue doc = .ok d) :
    ∀ p ∈ d.params, isVariableName p.toList := by
  obtain ⟨es, -, read⟩ := bind_ok accepted
  obtain ⟨params, named, read⟩ := bind_ok read
  obtain ⟨code, -, read⟩ := bind_ok read
  obtain ⟨_, -, same⟩ := bind_ok read
  cases same
  rcases optional_ok named with rfl | ⟨v, named⟩
  · exact List.forall_mem_nil _
  · unfold readParams at named
    split at named
    · intro p among
      obtain ⟨_, -, read⟩ := forall₂_partner (readItemsFrom_each named).flip p among
      exact readName_ok read
    · cases named

theorem params_of_compile {name : String} {d : FunctionDefinition} {f : CodeFunction}
    (compiled : compile name d = .ok f) : f.params = d.params := by
  unfold compile at compiled
  cases program : Code.Program.compile d.code.toList with
  | error e =>
    rw [program] at compiled
    cases compiled
  | ok p =>
    rw [program] at compiled
    cases compiled
    rfl

/-- A call gets to the first statement of its function. There the store holds the arguments, and
    all names but those that the program binds itself are bound as for the call. -/
theorem exists_opening (f : CodeFunction) (ev : Evaluator) (args : List Value) :
    ∃ scope s ds, f.opening ev args = .ok scope s ∧ RepresentsAll s args ds ∧
      ∀ p d, p ≠ tableName → p ∉ preparedNames → (bindings f.params ds).lookup p = some d →
        (scope.load p).run s = .ok d s := by
  obtain ⟨given, -, -⟩ := acceptAll_represents ev args
  unfold opening
  generalize ev.acceptAll args = accepted at given
  obtain ⟨ds, ev'⟩ := accepted
  let names := Work.bindName tableName (.cell ev'.table) (bindings f.params ds)
  let start : Store :=
    { ev'.store with
      cells := ev'.store.cells.push (.names names), handling := [], room := mostCalls }
  have grown : Extends ev'.store start := extends_push ev'.store (.names names)
  have holds : Holds start ev'.store.cells.size names start :=
    ⟨Array.getElem?_push_size, fun _ _ _ found => found⟩
  have table : names.lookup tableName = some (.cell ev'.table) := by
    rw [Work.lookup_bindName, if_pos rfl]
  obtain ⟨ns, s, opened, held, same⟩ := holds.opening table f.program
  -- The cells of the arguments stand before the one of the names.
  have later : Extends ev'.store s := by
    intro a c found
    have inside := (Array.getElem?_eq_some_iff.mp found).1
    exact held.others a c (Nat.ne_of_lt inside) (grown a c found)
  refine ⟨_, s, ds, opened, given.extend later, fun p d untabled unprepared bound => ?_⟩
  refine held.load _ ?_
  rw [same p unprepared, Work.lookup_bindName, if_neg untabled, bound]

/-- No datum is the tuple of several data of which it is one. -/
theorem getD_ne_tuple (ds : List Datum) (i : Nat) : (ds[i]?).getD .none ≠ .tuple ds := by
  intro same
  cases found : ds[i]? with
  | none =>
    rw [found] at same
    cases same
  | some d =>
    rw [found, Option.getD_some] at same
    have smaller := List.sizeOf_lt_of_mem (List.mem_of_getElem? found)
    rw [same, Datum.tuple.sizeOf_spec] at smaller
    omega

/-- When a call reaches the first statement of its function, the tuple of all arguments is bound to
    `args`, and every parameter is bound to the argument at its position, or to nothing where there
    is none, unless it has that name. -/
theorem call_binds {doc : Value} {d : FunctionDefinition} {name : String} {f : CodeFunction}
    (accepted : FunctionDefinition.ofValue doc = .ok d) (distinct : d.params.Nodup)
    (compiled : compile name d = .ok f) (ev : Evaluator) (args : List Value) :
    ∃ scope s ds, f.opening ev args = .ok scope s ∧ f.call ev args = f.closing ev scope s ∧
      RepresentsAll s args ds ∧ (scope.load "args").run s = .ok (.tuple ds) s ∧
      ∀ (i : Nat) (p : String), d.params[i]? = some p →
        ((scope.load p).run s = .ok ((ds[i]?).getD .none) s ↔ p ≠ "args") := by
  obtain ⟨scope, s, ds, opened, given, loads⟩ := f.exists_opening ev args
  rw [params_of_compile compiled] at loads
  have all : (scope.load "args").run s = .ok (.tuple ds) s :=
    loads "args" (.tuple ds) (by decide) (by decide) (lookup_bindings_args d.params ds)
  refine ⟨scope, s, ds, opened, call_eq_closing opened, given, all, fun i p there => ?_⟩
  constructor
  · rintro bound rfl
    rw [all] at bound
    exact getD_ne_tuple ds i (EStateM.Result.ok.inj bound).1.symm
  · intro other
    have named := isVariableName_of_params accepted p (List.mem_of_getElem? there)
    -- No name that a program binds itself is one of a variable.
    have untabled : p ≠ tableName := by
      rintro rfl
      exact absurd named (by decide)
    have unprepared : p ∉ preparedNames := by
      intro among
      simp only [preparedNames, List.mem_cons, List.not_mem_nil, or_false] at among
      rcases among with rfl | rfl <;> exact absurd named (by decide)
    exact loads p _ untabled unprepared (lookup_bindings distinct ds there other)

/-- A function of two parameters that is called with one argument. -/
theorem call_binds_one_of_two :
    let doc : Value :=
      .dict [(.text "params", .list [.text "a", .text "b"]), (.text "code", .text "a")]
    ∃ d f, FunctionDefinition.ofValue doc = .ok d ∧ d.params.Nodup ∧ compile "f" d = .ok f ∧
      ∃ scope s, f.opening standard [.int 1] = .ok scope s ∧
        (scope.load "a").run s = .ok (.int 1) s ∧ (scope.load "b").run s = .ok .none s ∧
        (scope.load "args").run s = .ok (.tuple [.int 1]) s := by
  intro doc
  have accepted : FunctionDefinition.ofValue doc = .ok ⟨["a", "b"], "a"⟩ := rfl
  have distinct : ["a", "b"].Nodup := by decide
  have means : ∃ p, FunctionDefinition.Means ⟨["a", "b"], "a"⟩ p := by decide +kernel
  obtain ⟨p, means⟩ := means
  have compiled : compile "f" ⟨["a", "b"], "a"⟩ = .ok ⟨"f", ["a", "b"], p⟩ :=
    compile_of_means means
  obtain ⟨scope, s, ds, opened, -, given, all, bound⟩ :=
    call_binds accepted distinct compiled standard [.int 1]
  obtain _ | ⟨⟨⟩, ⟨⟩⟩ := given
  refine ⟨_, _, accepted, distinct, compiled, scope, s, opened, ?_, ?_, all⟩
  · exact (bound 0 "a" rfl).mpr (by decide)
  · exact (bound 1 "b" rfl).mpr (by decide)

/-- A parameter with the name of all arguments is bound to them and not to its own. -/
theorem call_overrides_args :
    let doc : Value := .dict [(.text "params", .list [.text "args"]), (.text "code", .text "args")]
    ∃ d f, FunctionDefinition.ofValue doc = .ok d ∧ d.params = ["args"] ∧
      compile "f" d = .ok f ∧ ∃ scope s, f.opening standard [.int 1] = .ok scope s ∧
        ∃ datum, (scope.load "args").run s = .ok datum s ∧ ¬ Represents s (.int 1) datum := by
  intro doc
  have accepted : FunctionDefinition.ofValue doc = .ok ⟨["args"], "args"⟩ := rfl
  have means : ∃ p, FunctionDefinition.Means ⟨["args"], "args"⟩ p := by decide +kernel
  obtain ⟨p, means⟩ := means
  have compiled : compile "f" ⟨["args"], "args"⟩ = .ok ⟨"f", ["args"], p⟩ :=
    compile_of_means means
  obtain ⟨scope, s, ds, opened, -, loads⟩ := exists_opening ⟨"f", ["args"], p⟩ standard [.int 1]
  have all := loads "args" (.tuple ds) (by decide) (by decide) (lookup_bindings_args ["args"] ds)
  refine ⟨_, _, accepted, rfl, compiled, scope, s, opened, _, all, ?_⟩
  intro represents
  cases represents

end CodeFunction

end SessionScript
