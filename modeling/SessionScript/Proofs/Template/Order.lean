import SessionScript.Proofs.Code.Calls
import SessionScript.Proofs.Template.Sites

/-!
# The order of calls

A text with call sites and no other dollar signs is resolved from left to right. As long as a site
can be called, its result takes its place, and the next site is then the first one of the text,
whatever braces there are around it. The first site that can not be called ends the resolution with
all that stands behind it.
-/

namespace SessionScript.Template

variable {σ : Type}

/-! ## Functions that answer -/

/-- The bound functions return values that have texts, and there is no dollar sign in them. -/
def Functions.AnswerQuietly (funcs : Functions σ) : Prop :=
  ∀ name fn, funcs.get? name = some fn → ∀ args vars host,
    ∃ v s, (fn args vars host).1 = .ok v ∧ textOf v = .ok s ∧ '$' ∉ s.toList

/-- From a memory on, the calls are made one after the other, each by the function that is bound to
    its name. Their results have these texts, and leave this memory. -/
inductive Functions.Answers (funcs : Functions σ) :
    Memory σ → List Call → List (List Char) → Memory σ → Prop where
  | none (m : Memory σ) : Answers funcs m [] [] m
  | one {m : Memory σ} {call : Call} {fn : Function σ} {v : Value} {vars : Entries} {host : σ}
    {s : String} {calls : List Call} {texts : List (List Char)} {m' : Memory σ}
    (bound : funcs.get? call.name = some fn)
    (returned : fn call.args m.vars m.host = (.ok v, vars, host))
    (shown : textOf v = .ok s)
    (rest : Answers funcs { m with vars := vars, host := host } calls texts m') :
    Answers funcs m (call :: calls) (s.toList :: texts) m'

namespace CallSite

/-! ## Sites that can be called -/

/-- The expression of a site is a call of its name, and its arguments have no dollar signs and no
    line feeds in them. -/
structure IsPlain (site : CallSite) : Prop extends site.IsWritten where
  dollarless : '$' ∉ site.args
  line : '\n' ∉ site.args
  parsed : ∃ args keywords,
    Code.Expr.parse site.expression = .ok (.call (.name site.name) args keywords)

/-- The name of the site is bound, and its arguments are literals without keywords. -/
structure Makes (funcs : Functions σ) (site : CallSite) (call : Call) : Prop where
  name : call.name = site.name
  bound : (funcs.get? site.name).isSome
  args : ∃ args, Code.Expr.parse site.expression = .ok (.call (.name site.name) args []) ∧
    Call.literals args = .ok call.args

/-- There are no blanks at the ends of an expression. -/
theorem IsWritten.trimBoth_expression {site : CallSite} (written : site.IsWritten) :
    Text.trimBoth Text.isBlank site.expression = site.expression := by
  obtain ⟨c, name, named⟩ := List.exists_cons_of_ne_nil written.opening.name
  have word : Text.isAsciiWord c :=
    written.opening.words c (named ▸ List.mem_cons_self)
  have first : Text.isBlank c = false := Text.isBlank_of_isAsciiWord word
  have last : Text.isBlank ')' = false := by decide
  have ends : site.expression = (c :: (name ++ '(' :: site.args)) ++ [')'] := by
    have named : site.name.toList = c :: name := named
    simp [expression, named]
  rw [ends, Text.trimBoth, List.cons_append, List.dropWhile_cons_of_neg (by simp [first]),
    ← List.cons_append, List.reverse_concat, List.dropWhile_cons_of_neg (by simp [last]),
    List.reverse_cons, List.reverse_reverse]

theorem IsWritten.parse_expression {site : CallSite} (written : site.IsWritten) {e : Code.Expr}
    (parsed : Code.Expr.parse site.expression = .ok e) :
    Call.parse site.expression = Call.ofExpr? e := by
  rw [Call.parse, written.trimBoth_expression, parsed]

/-- Arguments are not read if one of them is no literal, and for no other reason. -/
theorem literals_error {args : List Code.Expr} {fault : Call.Fault}
    (failed : Call.literals args = .error fault) : ∃ e, fault = .notLiteral e := by
  induction args with
  | nil => cases failed
  | cons e args ih =>
    rw [Call.literals] at failed
    split at failed
    · cases rest : Call.literals args with
      | ok vs =>
        rw [rest] at failed
        cases failed
      | error f =>
        rw [rest] at failed
        cases failed
        exact ih rest
    · cases failed
      exact ⟨e, rfl⟩

section Planned

variable {funcs : Functions σ} {site : CallSite} {cs a b : List Char}
  (first : CallMarker.find? cs = some ⟨a, site.expression, b⟩)
include first

/-- A call is planned if its site is the first one. -/
theorem Makes.plan {call : Call} (makes : site.Makes funcs call) (written : site.IsWritten) :
    ∃ fn, funcs.get? call.name = some fn ∧
      plan funcs cs = .make ⟨a, site.expression, b⟩ call fn := by
  obtain ⟨args, parsed, literal⟩ := makes.args
  obtain ⟨fn, bound⟩ := Option.isSome_iff_exists.mp makes.bound
  rw [← makes.name] at bound
  refine ⟨fn, bound, plan_call first ?_ bound⟩
  rw [written.parse_expression parsed, Call.ofExpr?, literal, ← makes.name]
  rfl

/-- A text is left if its first site can not be called. -/
theorem IsPlain.plan_leave (plain : site.IsPlain) (unmade : ¬ ∃ call, site.Makes funcs call) :
    ∃ severity message, plan funcs cs = .leave severity message := by
  obtain ⟨args, keywords, parsed⟩ := plain.parsed
  have read := plain.parse_expression parsed
  rw [plan, first]
  cases keywords with
  | cons keyword keywords =>
    rw [Call.ofExpr?.eq_def] at read
    simp only [read]
    exact ⟨_, _, rfl⟩
  | nil =>
    rw [Call.ofExpr?] at read
    cases literal : Call.literals args with
    | error fault =>
      obtain ⟨e, rfl⟩ := literals_error literal
      rw [literal] at read
      simp only [read, Except.map]
      exact ⟨_, _, rfl⟩
    | ok vs =>
      rw [literal] at read
      simp only [read, Except.map]
      cases bound : funcs.get? site.name with
      | none => exact ⟨_, _, rfl⟩
      | some fn =>
        exact absurd ⟨⟨site.name, vs⟩, rfl, by rw [bound]; rfl, args, parsed, literal⟩ unmade

end Planned

/-! ## Layouts -/

/-- A text with sites in it, each with what follows it up to the next one. -/
def layout (s : List Char) (parts : List (CallSite × List Char)) : List Char :=
  s ++ parts.flatMap fun (site, t) => site.text ++ t

/-- The same text with other texts in the places of the sites. -/
def filled (s : List Char) (texts : List (List Char)) (parts : List (CallSite × List Char)) :
    List Char :=
  s ++ (List.zipWith (fun r (_, t) => r ++ t) texts parts).flatten

/-- There are no dollar signs but those of the sites. -/
structure IsLaidOut (s : List Char) (parts : List (CallSite × List Char)) : Prop where
  start : '$' ∉ s
  plain : ∀ p ∈ parts, p.1.IsPlain
  behind : ∀ p ∈ parts, '$' ∉ p.2

theorem layout_cons (s : List Char) (site : CallSite) (t : List Char)
    (parts : List (CallSite × List Char)) :
    layout s ((site, t) :: parts) = s ++ (site.text ++ layout t parts) := by
  simp [layout]

theorem layout_append (s : List Char) (before parts : List (CallSite × List Char)) :
    layout s (before ++ parts) = layout s before ++ layout [] parts := by
  simp [layout]

theorem append_layout (s t : List Char) (parts : List (CallSite × List Char)) :
    s ++ layout t parts = layout (s ++ t) parts := by
  simp [layout]

theorem filled_cons (s r : List Char) (texts : List (List Char)) (site : CallSite) (t : List Char)
    (parts : List (CallSite × List Char)) :
    filled s (r :: texts) ((site, t) :: parts) = filled (s ++ (r ++ t)) texts parts := by
  simp [filled]

/-- Behind a text without dollar signs a site is the first one, whatever follows it. -/
theorem IsPlain.find? {site : CallSite} (plain : site.IsPlain) {a : List Char} (quiet : '$' ∉ a)
    (b : List Char) :
    CallMarker.find? (a ++ (site.text ++ b)) = some ⟨a, site.expression, b⟩ := by
  rcases find?_cases plain.toIsWritten plain.line a b with
    ⟨marker, earlier, -⟩ | found | ⟨x, y, call, rfl, dollar, -⟩
  · rw [find?_eq_none quiet] at earlier
    cases earlier
  · exact found
  · exact absurd (List.mem_append_right x dollar) quiet

/-! ## Runs -/

section Runs

variable {funcs : Functions σ} (answer : funcs.AnswerQuietly)
include answer

/-- The sites at the front that can be called are called in order, and then the resolution is at the
    text with their results in their places. The text behind them stays as it is. -/
theorem comesTo_filled {parts : List (CallSite × List Char)} {calls : List Call}
    (makes : List.Forall₂ (fun p call => p.1.Makes funcs call) parts calls) (rest : List Char) :
    ∀ {s : List Char} (m : Memory σ), IsLaidOut s parts →
      ∃ texts m', funcs.Answers m calls texts m' ∧ '$' ∉ filled s texts parts ∧
        funcs.ComesTo (layout s parts ++ rest) m calls (filled s texts parts ++ rest) m' := by
  induction makes with
  | nil =>
    intro s m laid
    exact ⟨[], m, .none m, by simpa [filled] using laid.start, .here _ _⟩
  | @cons p call parts calls makes _ ih =>
    intro s m laid
    obtain ⟨site, t⟩ := p
    have plain : site.IsPlain := laid.plain _ List.mem_cons_self
    have whole : layout s ((site, t) :: parts) ++ rest =
        s ++ (site.text ++ (layout t parts ++ rest)) := by
      simp [layout_cons]
    obtain ⟨fn, bound, planned⟩ :=
      makes.plan (plain.find? laid.start (layout t parts ++ rest)) plain.toIsWritten
    obtain ⟨v, r, returned, shown, quiet⟩ := answer call.name fn bound call.args m.vars m.host
    have laid' : IsLaidOut (s ++ (r.toList ++ t)) parts := by
      refine ⟨?_, fun p among => laid.plain p (List.mem_cons_of_mem _ among),
        fun p among => laid.behind p (List.mem_cons_of_mem _ among)⟩
      simp [laid.start, quiet, laid.behind _ List.mem_cons_self]
    obtain ⟨texts, m', answers, free, comes⟩ :=
      ih { m with
        vars := (fn call.args m.vars m.host).2.1, host := (fn call.args m.vars m.host).2.2 } laid'
    refine ⟨r.toList :: texts, m', .one bound (Prod.ext returned rfl) shown answers, ?_, ?_⟩
    · rwa [filled_cons]
    · rw [filled_cons, whole]
      refine .made planned (by rw [exec_invoke, returned]) shown ?_
      have spliced : CallMarker.splice ⟨s, site.expression, layout t parts ++ rest⟩ r.toList =
          layout (s ++ (r.toList ++ t)) parts ++ rest := by
        simp [CallMarker.splice, layout]
      rw [spliced]
      exact comes

end Runs

/-! ## Sites without arguments -/

section Bare

variable {name : String} (named : isName name.toList) (free : ¬ Code.isKeyword name)

/-- A name with nothing between its brackets. -/
def bare (name : String) : CallSite := ⟨[], name, [], []⟩

include named free

theorem parse_bare :
    Code.Expr.parse (bare name).expression = .ok (.call (.name (bare name).name) [] []) :=
  Code.Expr.parse_call free named

theorem isPlain_bare : (bare name).IsPlain := by
  have identifier : isIdentifier name.toList := by
    obtain ⟨c, cs, same, letter, words⟩ := exists_of_isName named
    rw [same, isIdentifier, letter, Bool.true_or, Bool.true_and, List.all_eq_true]
    exact words
  exact
    { lead := List.forall_mem_nil _, name := identifier, args := List.forall_mem_nil _,
      trail := List.forall_mem_nil _, dollarless := List.not_mem_nil, line := List.not_mem_nil,
      parsed := ⟨_, _, parse_bare named free⟩ }

theorem makes_bare {funcs : Functions σ} (bound : (funcs.get? name).isSome) :
    (bare name).Makes funcs ⟨name, []⟩ :=
  ⟨rfl, bound, [], parse_bare named free, rfl⟩

end Bare

end CallSite

end SessionScript.Template
