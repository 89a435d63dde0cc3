import Mathlib.Data.List.Forall2
import SessionScript.Functions.Code
import SessionScript.Proofs.Schema.Payload
import SessionScript.Proofs.Template.Failing
import SessionScript.Proofs.Template.Names

/-!
# Tables of functions

The functions of a session are the random ones and those that its scenario declares as code. If all
code is compiled, the table has exactly these names, and every declared one is bound to its code.
Otherwise the first definition whose code is not compiled decides how the table is refused. Code
that does not fit the grammar is a fault of the document. But code that fits it and breaks one of
the rules beyond it is an error of the host, and so are definitions with such code that are read
before any other fault.
-/

namespace SessionScript

variable {σ : Type}

/-! ## Code that is compiled -/

namespace FunctionDefinition

/-- The code of a definition fits the grammar and keeps the rules beyond it. -/
def Means (d : FunctionDefinition) (p : Code.Program) : Prop :=
  ∃ ss, Code.Stmt.parse d.code.toList = .ok ss ∧ Code.Program.ofStatements ss = p ∧ p.isAllowed

/-- The code of a definition does not fit the grammar. -/
def Misfits (d : FunctionDefinition) (why : Code.GrammarError) : Prop :=
  Code.Stmt.parse d.code.toList = .error why

/-- The code of a definition fits the grammar and breaks a rule beyond it. -/
def Breaches (d : FunctionDefinition) : Prop :=
  ∃ ss, Code.Stmt.parse d.code.toList = .ok ss ∧ ¬ (Code.Program.ofStatements ss).isAllowed

/-- The rules that the code of a definition keeps or breaks, if it fits the grammar. -/
def isAllowed? (d : FunctionDefinition) : Option Bool :=
  match Code.Stmt.parse d.code.toList with
  | .ok ss => some (Code.Program.ofStatements ss).isAllowed
  | .error _ => none

theorem exists_means_iff (d : FunctionDefinition) :
    (∃ p, d.Means p) ↔ d.isAllowed? = some true := by
  cases parsed : Code.Stmt.parse d.code.toList <;> simp [Means, isAllowed?, parsed]

theorem breaches_iff (d : FunctionDefinition) : d.Breaches ↔ d.isAllowed? = some false := by
  cases parsed : Code.Stmt.parse d.code.toList <;> simp [Breaches, isAllowed?, parsed]

instance (d : FunctionDefinition) : Decidable (∃ p, d.Means p) :=
  decidable_of_iff _ d.exists_means_iff.symm

instance (d : FunctionDefinition) : Decidable d.Breaches :=
  decidable_of_iff _ d.breaches_iff.symm

theorem cases (d : FunctionDefinition) :
    (∃ p, d.Means p) ∨ (∃ why, d.Misfits why) ∨ d.Breaches := by
  cases parsed : Code.Stmt.parse d.code.toList with
  | error why => exact .inr (.inl ⟨why, parsed⟩)
  | ok ss =>
    by_cases allowed : (Code.Program.ofStatements ss).isAllowed
    · exact .inl ⟨_, ss, parsed, rfl, allowed⟩
    · exact .inr (.inr ⟨ss, parsed, allowed⟩)

theorem Means.not_misfits {d : FunctionDefinition} {p : Code.Program} {why : Code.GrammarError}
    (means : d.Means p) : ¬ d.Misfits why := by
  intro misfits
  obtain ⟨ss, parsed, -⟩ := means
  cases parsed.symm.trans misfits

theorem Means.not_breaches {d : FunctionDefinition} {p : Code.Program} (means : d.Means p) :
    ¬ d.Breaches := by
  rintro ⟨ss, parsed, broken⟩
  obtain ⟨ss', parsed', rfl, allowed⟩ := means
  cases parsed.symm.trans parsed'
  exact broken allowed

end FunctionDefinition

namespace CodeFunction

variable {name : String} {d : FunctionDefinition}

theorem compile_of_means {p : Code.Program} (means : d.Means p) :
    compile name d = .ok ⟨name, d.params, p⟩ := by
  obtain ⟨ss, parsed, rfl, allowed⟩ := means
  simp [compile, Code.Program.compile, parsed, allowed, Except.map]

theorem compile_of_misfits {why : Code.GrammarError} (misfits : d.Misfits why) :
    compile name d = .error (Code.Program.rejected why) := by
  have parsed : Code.Stmt.parse d.code.toList = .error why := misfits
  simp [compile, Code.Program.compile, parsed, Except.map]

theorem compile_of_breaches (breaches : d.Breaches) :
    compile name d = .error (.host ⟨"SyntaxError", []⟩) := by
  obtain ⟨ss, parsed, broken⟩ := breaches
  simp [compile, Code.Program.compile, parsed, broken, Except.map]

end CodeFunction

namespace Functions

/-- The fault of the first definition whose code is not compiled. -/
inductive FirstFault : List (String × FunctionDefinition) → Failure → Prop where
  | misfit {name : String} {d : FunctionDefinition} {why : Code.GrammarError}
    {rest : List (String × FunctionDefinition)} (misfits : d.Misfits why) :
    FirstFault ((name, d) :: rest) (invalidCode name (Code.Program.rejected why))
  | breach {name : String} {d : FunctionDefinition} {rest : List (String × FunctionDefinition)}
    (breaches : d.Breaches) : FirstFault ((name, d) :: rest) (.host ⟨"SyntaxError", []⟩)
  | later {name : String} {d : FunctionDefinition} {p : Code.Program}
    {rest : List (String × FunctionDefinition)} {f : Failure} (means : d.Means p)
    (fault : FirstFault rest f) : FirstFault ((name, d) :: rest) f

/-- The failure of definitions for which there is no evaluator. -/
def disallowed : Failure :=
  .report
    { kind := .schema
      message := "Code functions are declared but code evaluation is not allowed" }

/-- How definitions are refused. -/
inductive Refused : Option (EvaluatorPlace σ) → List (String × FunctionDefinition) → Failure →
    Prop where
  | disallowed {definitions : List (String × FunctionDefinition)} (declares : definitions ≠ []) :
    Refused none definitions disallowed
  | uncompiled {place : EvaluatorPlace σ} {definitions : List (String × FunctionDefinition)}
    {f : Failure} (fault : FirstFault definitions f) : Refused (some place) definitions f

/-- A definition and the function that is compiled from it. -/
def Compiled (entry : String × FunctionDefinition) (f : CodeFunction) : Prop :=
  ∃ p, entry.2.Means p ∧ f = ⟨entry.1, entry.2.params, p⟩

theorem compileAll_cons (name : String) (d : FunctionDefinition)
    (definitions : List (String × FunctionDefinition)) :
    compileAll ((name, d) :: definitions) =
      (do
        let f ← (CodeFunction.compile name d).mapError (invalidCode name)
        let fs ← compileAll definitions
        return f :: fs) :=
  List.mapM_cons

/-- Definitions are compiled one by one, or refused because of the first that is not. -/
theorem compileAll_cases (definitions : List (String × FunctionDefinition)) :
    (∃ fs, compileAll definitions = .ok fs ∧ List.Forall₂ Compiled definitions fs) ∨
      ∃ f, compileAll definitions = .error f ∧ FirstFault definitions f := by
  induction definitions with
  | nil => exact .inl ⟨[], rfl, .nil⟩
  | cons entry definitions ih =>
    obtain ⟨name, d⟩ := entry
    rw [compileAll_cons]
    rcases d.cases with ⟨p, means⟩ | ⟨why, misfits⟩ | breaches
    · rw [CodeFunction.compile_of_means means]
      rcases ih with ⟨fs, compiled, each⟩ | ⟨f, failed, fault⟩
      · rw [compiled]
        exact .inl ⟨_, rfl, .cons ⟨p, means, rfl⟩ each⟩
      · rw [failed]
        exact .inr ⟨f, rfl, .later means fault⟩
    · rw [CodeFunction.compile_of_misfits misfits]
      exact .inr ⟨_, rfl, .misfit misfits⟩
    · rw [CodeFunction.compile_of_breaches breaches]
      exact .inr ⟨_, rfl, .breach breaches⟩

/-- Definitions are refused because of the first fault. -/
theorem FirstFault.compileAll {definitions : List (String × FunctionDefinition)} {f : Failure}
    (fault : FirstFault definitions f) : compileAll definitions = .error f := by
  induction fault with
  | misfit misfits =>
    rw [compileAll_cons, CodeFunction.compile_of_misfits misfits]
    rfl
  | breach breaches =>
    rw [compileAll_cons, CodeFunction.compile_of_breaches breaches]
    rfl
  | later means _ ih =>
    rw [compileAll_cons, CodeFunction.compile_of_means means, ih]
    rfl

/-- Where the first fault lies, and what it is. -/
theorem FirstFault.exists {definitions : List (String × FunctionDefinition)} {f : Failure}
    (fault : FirstFault definitions f) :
    ∃ d ∈ definitions,
      (∃ why, d.2.Misfits why ∧ f = invalidCode d.1 (Code.Program.rejected why)) ∨
        d.2.Breaches ∧ f = .host ⟨"SyntaxError", []⟩ := by
  induction fault with
  | misfit misfits => exact ⟨_, List.mem_cons_self, .inl ⟨_, misfits, rfl⟩⟩
  | breach breaches => exact ⟨_, List.mem_cons_self, .inr ⟨breaches, rfl⟩⟩
  | later _ _ ih =>
    obtain ⟨d, among, why⟩ := ih
    exact ⟨d, List.mem_cons_of_mem _ among, why⟩

/-! ## Names and what they are bound to -/

theorem get?_bind (funcs : Template.Functions σ) (name other : String)
    (f : Template.Function σ) :
    (funcs.bind name f).get? other = if other = name then some f else funcs.get? other := by
  induction funcs with
  | nil => exact Template.Functions.get?_cons name other f []
  | cons entry funcs ih =>
    obtain ⟨n, g⟩ := entry
    rw [Template.Functions.bind, Template.Functions.get?_cons]
    by_cases known : n = name
    · rw [if_pos (beq_iff_eq.mpr known), known, Template.Functions.get?_cons]
      by_cases same : other = name <;> simp [same]
    · rw [if_neg (by simpa using known), Template.Functions.get?_cons, ih]
      by_cases same : other = n
      · simp [same, known]
      · simp [same]

/-- The names of a table are those that are bound. -/
theorem mem_names_iff (funcs : Template.Functions σ) (name : String) :
    name ∈ funcs.map Prod.fst ↔ (funcs.get? name).isSome := by
  induction funcs with
  | nil => simp [Template.Functions.get?]
  | cons entry funcs ih =>
    rw [List.map_cons, List.mem_cons, Template.Functions.get?_cons, ih]
    by_cases same : name = entry.1 <;> simp [same]

/-- The table of a session, to which the functions of its scenario are added. -/
def withCode (place : EvaluatorPlace σ) (base : Template.Functions σ) (fs : List CodeFunction) :
    Template.Functions σ :=
  fs.foldl (fun acc f => acc.bind f.name (f.bound place)) base

theorem get?_withCode_of_not_mem (place : EvaluatorPlace σ) {fs : List CodeFunction}
    {name : String} (undeclared : name ∉ fs.map CodeFunction.name) (base : Template.Functions σ) :
    (withCode place base fs).get? name = base.get? name := by
  induction fs generalizing base with
  | nil => rfl
  | cons f fs ih =>
    rw [List.map_cons, List.mem_cons, not_or] at undeclared
    have later := ih undeclared.2 (base.bind f.name (f.bound place))
    rw [get?_bind, if_neg undeclared.1] at later
    exact later

theorem get?_withCode_of_mem (place : EvaluatorPlace σ) {fs : List CodeFunction} {f : CodeFunction}
    (distinct : (fs.map CodeFunction.name).Nodup) (declared : f ∈ fs)
    (base : Template.Functions σ) :
    (withCode place base fs).get? f.name = some (f.bound place) := by
  induction fs generalizing base with
  | nil => cases declared
  | cons g fs ih =>
    rw [List.map_cons, List.nodup_cons] at distinct
    rcases List.mem_cons.mp declared with rfl | later
    · have last := get?_withCode_of_not_mem place distinct.1 (base.bind f.name (f.bound place))
      rw [get?_bind, if_pos rfl] at last
      exact last
    · exact ih distinct.2 later _

/-- A table that holds the random functions and the declared ones, and nothing else. -/
structure Holds (draw : Draw σ) (place : Option (EvaluatorPlace σ))
    (definitions : List (String × FunctionDefinition)) (table : Template.Functions σ) : Prop where
  names : ∀ name, name ∈ table.map Prod.fst ↔
    name ∈ (builtin draw).map Prod.fst ∨ name ∈ definitions.map Prod.fst
  declared : ∀ name d, (name, d) ∈ definitions → ∃ p evaluator,
    d.Means p ∧ place = some evaluator ∧
      table.get? name = some (CodeFunction.bound evaluator ⟨name, d.params, p⟩)
  others : ∀ name, name ∉ definitions.map Prod.fst → table.get? name = (builtin draw).get? name

/-- Functions that were compiled from definitions with different names make up a table of them. -/
theorem withCode_holds (draw : Draw σ) (place : EvaluatorPlace σ)
    {definitions : List (String × FunctionDefinition)} {fs : List CodeFunction}
    (distinct : (definitions.map Prod.fst).Nodup) (each : List.Forall₂ Compiled definitions fs) :
    Holds draw (some place) definitions (withCode place (builtin draw) fs) := by
  have names : fs.map CodeFunction.name = definitions.map Prod.fst := by
    clear distinct
    induction each with
    | nil => rfl
    | cons compiled _ ih =>
      obtain ⟨p, -, rfl⟩ := compiled
      rw [List.map_cons, List.map_cons, ih]
  have declared (name : String) (d : FunctionDefinition) (among : (name, d) ∈ definitions) :
      ∃ p, d.Means p ∧ (⟨name, d.params, p⟩ : CodeFunction) ∈ fs := by
    clear distinct names
    induction each with
    | nil => cases among
    | cons compiled _ ih =>
      rcases List.mem_cons.mp among with rfl | later
      · obtain ⟨p, means, rfl⟩ := compiled
        exact ⟨p, means, List.mem_cons_self⟩
      · obtain ⟨p, means, known⟩ := ih later
        exact ⟨p, means, List.mem_cons_of_mem _ known⟩
  have others (name : String) (undeclared : name ∉ definitions.map Prod.fst) :
      (withCode place (builtin draw) fs).get? name = (builtin draw).get? name :=
    get?_withCode_of_not_mem place (names ▸ undeclared) _
  have bound (name : String) (d : FunctionDefinition) (among : (name, d) ∈ definitions) :
      ∃ p, d.Means p ∧ (withCode place (builtin draw) fs).get? name =
        some (CodeFunction.bound place ⟨name, d.params, p⟩) := by
    obtain ⟨p, means, known⟩ := declared name d among
    exact ⟨p, means, get?_withCode_of_mem place (names ▸ distinct) known _⟩
  refine ⟨fun name => ?_, fun name d among => ?_, others⟩
  · rw [mem_names_iff, mem_names_iff]
    by_cases known : name ∈ definitions.map Prod.fst
    · obtain ⟨⟨_, d⟩, among, rfl⟩ := List.mem_map.mp known
      obtain ⟨p, -, found⟩ := bound _ d among
      simp [known, found]
    · rw [others name known]
      simp [known]
  · obtain ⟨p, means, found⟩ := bound name d among
    exact ⟨p, place, means, rfl, found⟩

theorem build_cases (draw : Draw σ) (place : Option (EvaluatorPlace σ))
    {definitions : List (String × FunctionDefinition)}
    (distinct : (definitions.map Prod.fst).Nodup) :
    (∃ table, build draw place definitions = .ok table ∧ Holds draw place definitions table) ∨
      ∃ f, build draw place definitions = .error f ∧ Refused place definitions f := by
  cases definitions with
  | nil =>
    refine .inl ⟨builtin draw, by cases place <;> rfl, by simp, ?_, fun _ _ => rfl⟩
    exact fun _ _ among => absurd among List.not_mem_nil
  | cons entry rest =>
    cases place with
    | none => exact .inr ⟨disallowed, rfl, .disallowed (List.cons_ne_nil _ _)⟩
    | some place =>
      rcases compileAll_cases (entry :: rest) with ⟨fs, compiled, each⟩ | ⟨f, failed, fault⟩
      · refine .inl ⟨withCode place (builtin draw) fs, ?_, withCode_holds draw place distinct each⟩
        simp [build, declared, compiled, bind, Except.bind, pure, Except.pure, withCode]
      · refine .inr ⟨f, ?_, .uncompiled fault⟩
        simp [build, declared, failed, bind, Except.bind]

/-- Definitions that are refused have no table. -/
theorem Refused.build {place : Option (EvaluatorPlace σ)}
    {definitions : List (String × FunctionDefinition)} {f : Failure}
    (refused : Refused place definitions f) (draw : Draw σ) :
    build draw place definitions = .error f := by
  cases refused with
  | disallowed declares =>
    simp [Functions.build, declared, declares, Functions.disallowed, bind, Except.bind]
  | uncompiled fault =>
    have declares : definitions ≠ [] := by
      rintro rfl
      cases fault
    simp [Functions.build, declared, declares, fault.compileAll, bind, Except.bind]

end Functions

/-! ## Tables of scenarios -/

/-- Another value for a name of a mapping leaves the names as they are. -/
theorem names_replace {α : Type} (acc : List (String × α)) (p : String × α) :
    (acc.map fun q => if q.1 == p.1 then p else q).map Prod.fst = acc.map Prod.fst := by
  rw [List.map_map]
  refine List.map_congr_left fun q _ => ?_
  by_cases same : q.1 = p.1 <;> simp [same]

/-- Setting the value of a name in a mapping keeps its names different. -/
theorem nodup_set {α : Type} {acc : List (String × α)} (distinct : (acc.map Prod.fst).Nodup)
    (p : String × α) :
    ((if acc.any (·.1 == p.1) then acc.map fun q => if q.1 == p.1 then p else q
      else acc ++ [p]).map Prod.fst).Nodup := by
  split
  · rwa [names_replace]
  · rename_i fresh
    have new : p.1 ∉ acc.map Prod.fst := by
      intro known
      obtain ⟨q, among, same⟩ := List.mem_map.mp known
      exact fresh (List.any_eq_true.mpr ⟨q, among, by simpa using same⟩)
    rw [List.map_append, List.nodup_append]
    refine ⟨distinct, by simp, ?_⟩
    rintro name known other set rfl
    obtain rfl : name = p.1 := by simpa using set
    exact new known

/-- Names of a mapping are different from each other. -/
theorem distinctNames_nodup {α : Type} (pairs : List (String × α)) :
    ((distinctNames pairs).map Prod.fst).Nodup :=
  List.foldlRecOn (motive := fun acc : List (String × α) => (acc.map Prod.fst).Nodup) pairs _
    List.nodup_nil fun _ distinct p _ => nodup_set distinct p

/-- The functions of an accepted configuration have different names. -/
theorem Config.ofValue_functions {doc : Value} {c : Config}
    (accepted : Config.ofValue doc = .ok c) : (c.functions.map Prod.fst).Nodup := by
  obtain ⟨es, vars, functions, -, -, -, -, same⟩ := Config.ofValue_ok accepted
  rw [same]
  exact distinctNames_nodup functions

namespace Functions

end Functions

end SessionScript
