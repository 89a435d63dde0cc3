import Mathlib.Data.List.TakeWhile
import SessionScript.Proofs.Code.Calls
import SessionScript.Proofs.Functions.Table
import SessionScript.Proofs.Template.Logging

/-!
# Invocations

A function that a document declares is called by a template with its name, if the name is ASCII and
no reserved word of the code language. With any other name that documents may give to a function,
such a template calls nothing, whatever is bound to the name.
-/

namespace SessionScript

/-! ## Word characters and blanks -/

namespace Text

/-- The ranges of blanks above ASCII. -/
def wideBlanks : List (Nat × Nat) :=
  [(0x85, 0x85), (0xA0, 0xA0), (0x1680, 0x1680), (0x2000, 0x200A), (0x2028, 0x2029),
    (0x202F, 0x202F), (0x205F, 0x205F), (0x3000, 0x3000)]

/-- No range of word characters meets one of blanks. -/
theorem wordRanges_apart : wordRanges.toList.all fun r =>
    wideBlanks.all fun b => Nat.blt r.2 b.1 || Nat.blt b.2 r.1 := by decide +kernel

/-- No blank is a word character. -/
theorem isBlank_of_isWord {c : Char} (word : isWord c) : isBlank c = false := by
  by_cases ascii : c.toNat < 128
  · rw [isWord_of_isAscii ascii] at word
    exact isBlank_of_isAsciiWord word
  · have wide : wordRanges.has c.toNat := (if_neg ascii).symm.trans word
    rw [Ranges.has, ← Array.any_toList, List.any_eq_true] at wide
    obtain ⟨r, among, within⟩ := wide
    have apart := List.all_eq_true.mp wordRanges_apart r among
    simp only [wideBlanks, List.all_cons, List.all_nil, Bool.and_true, Bool.and_eq_true,
      Bool.or_eq_true, Nat.blt_eq, decide_eq_true_eq] at apart within
    simp [isBlank]
    omega

end Text

namespace Template

/-! ## Markers of calls -/

/-- A text that calls a function without arguments. -/
def invocation (name : String) : String := "\x7b\x7b $" ++ name ++ "() \x7d\x7d"

/-- There is no marker in a text in which at most one brace opens, at its start. -/
theorem find?_cons_eq_none {c : Char} {cs : List Char} (free : '\x7b' ∉ cs) :
    CallMarker.find? (c :: cs) = none := by
  have start {d : Char} {ds : List Char} (free : '\x7b' ∉ ds) :
      CallMarker.atStart? (d :: ds) = none := by
    rw [CallMarker.atStart?.eq_def]
    split
    · rename_i opens
      obtain ⟨-, rfl⟩ := List.cons.inj opens
      exact absurd List.mem_cons_self free
    · rfl
  induction cs generalizing c with
  | nil =>
    rw [CallMarker.find?, start free]
    rfl
  | cons d ds ih =>
    rw [CallMarker.find?, start free, ih (List.not_mem_of_not_mem_cons free)]
    rfl

theorem invocation_toList (name : String) : (invocation name).toList =
    '\x7b' :: '\x7b' :: ' ' :: '$' :: (name.toList ++ ['(', ')', ' ', '\x7d', '\x7d']) := by
  simp [invocation]

/-- The call in an invocation by a name of templates. -/
theorem find?_invocation {name : String} (named : isName name.toList) :
    CallMarker.find? (invocation name).toList = some ⟨[], name.toList ++ ['(', ')'], []⟩ := by
  have taken : (name.toList ++ ['(', ')', ' ', '\x7d', '\x7d']).takeWhile Text.isAsciiWord =
      name.toList := by
    have bracket : Text.isAsciiWord '(' = false := by decide
    rw [List.takeWhile_append_of_pos (isAsciiWord_of_isName named)]
    simp [bracket]
  have gap : Text.isBlank '(' = false := by decide
  have blank : Text.isBlank ' ' := by decide
  have dollar : Text.isBlank '$' = false := by decide
  have nonempty : name.toList ≠ [] := by
    intro empty
    rw [empty] at named
    cases named
  have arguments : argumentsEnd? [')', ' ', '\x7d', '\x7d'] = some ([')'], []) := by decide +kernel
  have body : CallMarker.body?
      (' ' :: '$' :: (name.toList ++ ['(', ')', ' ', '\x7d', '\x7d'])) =
      some (name.toList ++ ['(', ')'], []) := by
    simp [CallMarker.body?, blank, dollar, taken, gap, nonempty, arguments]
  rw [invocation_toList, CallMarker.find?, CallMarker.atStart?, body]

theorem isWord_of_isVariableName {name : List Char} (declared : Schema.isVariableName name) :
    ∀ c ∈ name, Text.isWord c := by
  cases name with
  | nil => cases declared
  | cons c cs =>
    rw [Schema.isVariableName, Bool.and_eq_true, List.all_eq_true] at declared
    have first := Text.isAsciiWord_of_isAsciiLetter declared.1
    refine List.forall_mem_cons.mpr ⟨?_, declared.2⟩
    rwa [Text.isWord_of_isAscii (Text.isAscii_of_isAsciiWord first)]

/-- A name that documents give and templates do not know goes on, behind some ASCII characters,
    with a word character of another script. -/
theorem exists_of_not_isName {name : List Char} (declared : Schema.isVariableName name)
    (unknown : ¬ isName name) :
    ∃ front d back, name = front ++ d :: back ∧ (∀ c ∈ front, Text.isAsciiWord c) ∧
      Text.isWord d ∧ Text.isAsciiWord d = false := by
  have parts := List.takeWhile_append_dropWhile (p := Text.isAsciiWord) (l := name)
  cases behind : name.dropWhile Text.isAsciiWord with
  | nil =>
    have ascii := List.dropWhile_eq_nil_iff.mp behind
    exact absurd ((Schema.isName_iff name).mpr ⟨declared, fun c among =>
      Text.isAscii_of_isAsciiWord (ascii c among)⟩) unknown
  | cons d back =>
    rw [behind] at parts
    have other : Text.isAsciiWord d = false := by
      have first := List.head_dropWhile_not Text.isAsciiWord (l := name) (by simp [behind])
      simpa [behind] using first
    have among : d ∈ name := parts ▸ List.mem_append_right _ List.mem_cons_self
    have word := isWord_of_isVariableName declared d among
    exact ⟨_, d, back, parts.symm, fun c among => List.mem_takeWhile_imp among, word, other⟩

/-- An invocation by another name of documents has no call in it. -/
theorem find?_invocation_eq_none {name : String} (declared : Schema.isVariableName name.toList)
    (unknown : ¬ isName name.toList) : CallMarker.find? (invocation name).toList = none := by
  obtain ⟨front, d, back, text, words, word, other⟩ := exists_of_not_isName declared unknown
  have differs {c : Char} (none : Text.isWord c = false) : c ∉ name.toList := by
    intro among
    exact Bool.false_ne_true (none.symm.trans (isWord_of_isVariableName declared c among))
  have blank : Text.isBlank ' ' := by decide
  have dollar : Text.isBlank '$' = false := by decide
  have taken (rest : List Char) : (front ++ d :: rest).takeWhile Text.isAsciiWord = front := by
    rw [List.takeWhile_append_of_pos words]
    simp [other]
  have bracket : d ≠ '(' := by
    rintro rfl
    exact differs (c := '(') (by decide) (by simp [text])
  have body : CallMarker.body?
      (' ' :: '$' :: (name.toList ++ ['(', ')', ' ', '\x7d', '\x7d'])) = none := by
    rw [text, List.append_assoc, List.cons_append]
    simp only [CallMarker.body?, List.dropWhile_cons_of_pos blank, List.dropWhile_cons, dollar,
      Bool.false_eq_true, if_false, taken, List.drop_left, List.takeWhile_cons,
      Text.isBlank_of_isWord word, List.length_nil, Nat.add_zero]
    split
    · rename_i starts
      exact absurd (List.cons.inj starts).1 bracket
    · rfl
  have closed : '\x7b' ∉ ' ' :: '$' :: (name.toList ++ ['(', ')', ' ', '\x7d', '\x7d']) := by
    simpa using differs (c := '\x7b') (by decide)
  rw [invocation_toList, CallMarker.find?, CallMarker.atStart?, body, find?_cons_eq_none closed]
  rfl

/-! ## Calls that are made -/

section Calls

variable {σ : Type} {funcs : Functions σ} {name : String}

/-- An invocation calls its function first, and goes on with the text of what that returns. -/
theorem resolveText_invocation (named : isName name.toList) (free : ¬ Code.isKeyword name)
    {fn : Function σ} (bound : funcs.get? name = some fn) (limit : Nat) :
    resolveText funcs (limit + 1) (invocation name).toList = (do
      let v ← invoke fn []
      let s ← MonadExcept.ofExcept (textOf v)
      resolveText funcs limit s.toList) := by
  rw [resolveText, find?_invocation named]
  simp only [Call.parse_of_isName named free, bound, CallMarker.splice, List.nil_append,
    List.append_nil]

theorem resolve_invocation (named : isName name.toList) (free : ¬ Code.isKeyword name)
    {fn : Function σ} (bound : funcs.get? name = some fn) (limit : Nat) :
    resolve funcs (limit + 1) (.text (invocation name)) = (do
      let v ← invoke fn []
      let s ← MonadExcept.ofExcept (textOf v)
      resolve funcs limit (.text s)) := by
  rw [resolve_text, resolveText_invocation named free bound]
  simp only [resolve_text, map_bind]

/-- Without a marker whose call can be read a text makes no calls. -/
theorem callsOf_eq_nil {s : String}
    (none : ∀ marker, CallMarker.find? s.toList = some marker →
      ∀ call, Call.parse marker.call ≠ .ok (some call)) (limit : Nat) (m : Memory σ) :
    callsOf funcs (limit + 1) (.text s) m = [] := by
  rw [callsOf, exec_resolve_text, resolveText]
  split
  · rw [exec_interpolateNow]
    rfl
  · rename_i marker found
    split
    · rfl
    · rfl
    · rw [exec_interpolateNow]
      rfl
    · rename_i call read
      exact absurd read (none marker found call)

/-- A memory in which more calls are noted behind those of another one. -/
def Memory.CallsOn (m m' : Memory (σ × List Call)) : Prop := m.host.2 <+: m'.host.2

instance : IsPreorder (Memory (σ × List Call)) Memory.CallsOn where
  refl _ := List.prefix_rfl
  trans _ _ _ before after := before.trans after

/-- With functions that note their calls, calls are noted and none is forgotten. -/
theorem resolveText_callsOn (funcs : Functions σ) (limit : Nat) (cs : List Char) :
    Leads Memory.CallsOn (resolveText funcs.noting limit cs) := by
  refine resolveText_leads (fun _ _ _ => List.prefix_rfl) (fun name fn found args m => ?_) limit cs
  rw [Functions.get?_noting, Option.map_eq_some_iff] at found
  obtain ⟨fn', -, rfl⟩ := found
  rw [exec_invoke]
  exact List.prefix_append _ _

theorem callsOf_invocation (named : isName name.toList) (free : ¬ Code.isKeyword name)
    {fn : Function σ} (bound : funcs.get? name = some fn) (limit : Nat) (m : Memory σ) :
    ∃ more, callsOf funcs (limit + 1) (.text (invocation name)) m = ⟨name, []⟩ :: more := by
  have noted : funcs.noting.get? name = some (fn.noting name) := by
    rw [Functions.get?_noting, bound]
    rfl
  have onward (v : Value) : Leads Memory.CallsOn (do
      let s ← MonadExcept.ofExcept (textOf v)
      resolve funcs.noting limit (.text s)) := by
    refine (Leads.ofExcept _).bind fun s => ?_
    rw [resolve_text, map_eq_pure_bind]
    exact (resolveText_callsOn funcs limit s.toList).bind fun _ => .pure _
  rw [callsOf, resolve_invocation named free noted, exec_bind, exec_invoke]
  cases result : (fn.noting name [] m.unnoted.vars m.unnoted.host).1 with
  | error f => exact ⟨[], rfl⟩
  | ok v =>
    obtain ⟨more, calls⟩ := onward v _
    exact ⟨more, calls.symm⟩

end Calls

/-! ## Functions that can be called -/

/-- A name of ASCII characters that is no reserved word of the code language. -/
def IsCallable (name : String) : Prop :=
  (∀ c ∈ name.toList, c.toNat < 128) ∧ ¬ Code.isKeyword name

instance (name : String) : Decidable (IsCallable name) :=
  have := List.decidableBAll (fun c : Char => c.toNat < 128) name.toList
  inferInstanceAs (Decidable (_ ∧ _))

end Template

/-- A document that declares a function without parameters and nothing else. -/
def declaring (name code : String) : Value :=
  .dict [(.text "functions", .dict [(.text name, .dict [(.text "code", .text code)])])]

theorem Config.ofValue_declaring {name : String} (h : Schema.isVariableName name.toList)
    (code : String) :
    Config.ofValue (declaring name code) = .ok { functions := [(name, ⟨[], code⟩)] } := by
  have definition : FunctionDefinition.ofValue (.dict [(.text "code", .text code)]) =
      .ok ⟨[], code⟩ := by
    simp [FunctionDefinition.ofValue, Schema.readRecord, Schema.optional_other, Schema.required,
      Entries.get?_single, Schema.readText, Schema.under, Except.mapError, Schema.noExtras, bind,
      Except.bind, pure, Except.pure]
  have named : Schema.readNames FunctionDefinition.ofValue
      (.dict [(.text name, .dict [(.text "code", .text code)])]) =
      .ok [(name, ⟨[], code⟩)] := by
    simp [Schema.readNames, Schema.readNamed, Schema.readName, Schema.readText, h, definition,
      Schema.under, Except.mapError, bind, Except.bind, pure, Except.pure]
  have vars (v : Value) : Schema.present? [(.text "functions", v)] ["vars", "variables"] = none :=
    rfl
  have defers (v : Value) :
      Schema.present? [(.text "functions", v)] ["deferConnection", "defer_connection"] = none := rfl
  simp [Config.ofValue, declaring, Schema.readRecord, Schema.optional_other,
    Schema.optional_single _ _ named, vars, defers, Schema.noExtras, bind, Except.bind, pure,
    Except.pure, distinctNames]

/-- The functions of an accepted configuration have names of variables. -/
theorem Config.functions_named {doc : Value} {c : Config} {name : String}
    (accepted : Config.ofValue doc = .ok c) (declared : name ∈ c.functions.map Prod.fst) :
    Schema.isVariableName name.toList := by
  obtain ⟨es, vars, functions, -, -, named, -, same⟩ := Config.ofValue_ok accepted
  rw [same] at declared
  exact Config.isVariableName_of_optional named declared

namespace Template

theorem callsOf_of_not_callable {σ : Type} {funcs : Functions σ} {name : String}
    (declared : Schema.isVariableName name.toList) (uncallable : ¬ IsCallable name) (m : Memory σ) :
    callsOf funcs callLimit (.text (invocation name)) m = [] := by
  refine callsOf_eq_nil (fun marker found call read => ?_) 899 m
  by_cases named : isName name.toList
  · rw [find?_invocation named] at found
    cases found
    have ascii := ((Schema.isName_iff _).mp named).2
    have reserved : Code.isKeyword name := by
      by_contra free
      exact uncallable ⟨ascii, free⟩
    exact Call.parse_of_isKeyword reserved call read
  · rw [find?_invocation_eq_none declared named] at found
    cases found

/-- A function of an accepted document is called by a template with its name just if the name is
    callable. Then the template goes on with the text of what the function returns; otherwise it
    calls nothing at all. -/
theorem invocation_calls_iff {σ : Type} {doc : Value} {c : Config} {name : String}
    (accepted : Config.ofValue doc = .ok c) (declared : name ∈ c.functions.map Prod.fst)
    {funcs : Functions σ} {fn : Function σ} (bound : funcs.get? name = some fn) (m : Memory σ) :
    ((∃ more, callsOf funcs callLimit (.text (invocation name)) m = ⟨name, []⟩ :: more) ↔
      IsCallable name) ∧
    (IsCallable name →
      resolve funcs callLimit (.text (invocation name)) = (do
        let v ← invoke fn []
        let s ← MonadExcept.ofExcept (textOf v)
        resolve funcs (callLimit - 1) (.text s))) ∧
    (¬ IsCallable name → callsOf funcs callLimit (.text (invocation name)) m = []) := by
  have named := Config.functions_named accepted declared
  have silent (uncallable : ¬ IsCallable name) :
      callsOf funcs callLimit (.text (invocation name)) m = [] :=
    callsOf_of_not_callable named uncallable m
  have isName (callable : IsCallable name) : isName name.toList :=
    (Schema.isName_iff _).mpr ⟨named, callable.1⟩
  refine ⟨⟨?_, fun callable => ?_⟩, fun callable => ?_, silent⟩
  · rintro ⟨more, called⟩
    by_contra uncallable
    rw [silent uncallable] at called
    cases called
  · exact callsOf_invocation (isName callable) callable.2 bound 899 m
  · exact resolve_invocation (isName callable) callable.2 bound 899

/-- A function with a name of letters is called. -/
theorem invocation_calls_greet :
    let funcs : Functions Nat := [("greet", fun _ vars n => (.ok (.text "hi"), vars, n + 1))]
    ∃ c, Config.ofValue (declaring "greet" "1") = .ok c ∧ "greet" ∈ c.functions.map Prod.fst ∧
      ∀ m, ∃ more, callsOf funcs callLimit (.text (invocation "greet")) m =
        ⟨"greet", []⟩ :: more := by
  intro funcs
  have named : Schema.isVariableName "greet".toList := by decide
  have accepted := Config.ofValue_declaring named "1"
  have declared : "greet" ∈ [("greet", (⟨[], "1"⟩ : FunctionDefinition))].map Prod.fst := by simp
  refine ⟨_, accepted, declared, fun m => ?_⟩
  have bound : funcs.get? "greet" = some _ := rfl
  obtain ⟨called, -, -⟩ := invocation_calls_iff accepted declared bound m
  exact called.mpr (by decide +kernel)

/-- A function is not called whose name is reserved, nor one with a letter of another script in its
    name, although a document declares it and it is bound to its code. -/
theorem invocation_calls_nothing :
    let draw : Functions.Draw Evaluator := fun _ ev => (0, ev)
    let place : EvaluatorPlace Evaluator := ⟨id, fun ev _ => ev⟩
    ∀ name ∈ ["if", "f\u00e9"], ∃ c table,
      Config.ofValue (declaring name "1") = .ok c ∧ name ∈ c.functions.map Prod.fst ∧
      Functions.build draw (some place) c.functions = .ok table ∧
      (table.get? name).isSome ∧
      ∀ m, callsOf table callLimit (.text (invocation name)) m = [] := by
  intro draw place name among
  have uncallable : ∀ name ∈ ["if", "f\u00e9"],
      Schema.isVariableName name.toList ∧ ¬ IsCallable name := by decide +kernel
  obtain ⟨named, uncallable⟩ := uncallable name among
  obtain ⟨p, means⟩ : ∃ p, FunctionDefinition.Means ⟨[], "1"⟩ p := by decide +kernel
  have compiled : Functions.compileAll [(name, ⟨[], "1"⟩)] = .ok [⟨name, [], p⟩] := by
    rw [Functions.compileAll_cons, CodeFunction.compile_of_means means]
    rfl
  refine ⟨_, Functions.withCode place (Functions.builtin draw) [⟨name, [], p⟩],
    Config.ofValue_declaring named "1", by simp, ?_, ?_, callsOf_of_not_callable named uncallable⟩
  · simp [Functions.build, Functions.declared, compiled, Functions.withCode, bind, Except.bind,
      pure, Except.pure]
  · rw [Functions.get?_withCode_of_mem place (f := ⟨name, [], p⟩) (by simp) (by simp)]
    rfl

end Template

end SessionScript
