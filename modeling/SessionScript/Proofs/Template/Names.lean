import SessionScript.CommandLine.Request
import SessionScript.Proofs.Schema.Payload
import SessionScript.Proofs.Template.Blindness

/-!
# Names of variables

A variable gets its name from a document or from the command line, and templates look it up by that
name. The three agree on names of ASCII letters, digits and underscores that start with a letter.
But documents admit word characters of any script behind the first letter, and the command line
admits a line feed behind the name; templates do not find a variable with such a name.
-/

namespace SessionScript

/-! ## Word characters -/

namespace Text

variable {c d : Char}

theorem isAsciiWord_iff : isAsciiWord c ↔
    (97 ≤ c.toNat ∧ c.toNat ≤ 122 ∨ 65 ≤ c.toNat ∧ c.toNat ≤ 90) ∨
      (48 ≤ c.toNat ∧ c.toNat ≤ 57) ∨ c.toNat = 95 := by
  have low : c = '_' ↔ c.toNat = 95 :=
    ⟨fun same => same ▸ rfl, fun same => Char.ext (UInt32.toNat_inj.mp same)⟩
  simp [isAsciiWord, isAsciiLetter, isAsciiDigit, Char.le_def, UInt32.le_iff_toNat_le, low,
    or_assoc]

theorem isAsciiWord_of_isAsciiLetter (letter : isAsciiLetter c) : isAsciiWord c := by
  simp [isAsciiWord, letter]

theorem ne_of_isAsciiWord (word : isAsciiWord c) (other : isAsciiWord d = false) : c ≠ d := by
  rintro rfl
  rw [word] at other
  cases other

theorem isAscii_of_isAsciiWord (word : isAsciiWord c) : c.toNat < 128 := by
  have := isAsciiWord_iff.mp word
  omega

/-- ASCII word characters are no blanks. -/
theorem isBlank_of_isAsciiWord (word : isAsciiWord c) : isBlank c = false := by
  have := isAsciiWord_iff.mp word
  simp [isBlank]
  omega

/-- The two classes of word characters are one on ASCII. -/
theorem isWord_of_isAscii (ascii : c.toNat < 128) : isWord c = isAsciiWord c := if_pos ascii

/-- A text without characters of a class at its ends has nothing to drop. -/
theorem trimBoth_eq {p : Char → Bool} {cs : List Char} (free : ∀ c ∈ cs, p c = false) :
    trimBoth p cs = cs := by
  have kept {ds : List Char} (free : ∀ c ∈ ds, p c = false) : ds.dropWhile p = ds := by
    cases ds with
    | nil => rfl
    | cons d ds => rw [List.dropWhile_cons_of_neg (by simp [free d])]
  rw [trimBoth, kept free, kept fun c among => free c (List.mem_reverse.mp among),
    List.reverse_reverse]

end Text

/-! ## Names in documents -/

/-- Some accepted document has a variable of this name. -/
def Config.Declares (name : String) : Prop :=
  ∃ doc c, Config.ofValue doc = .ok c ∧ name ∈ c.vars.map Prod.fst

/-- The entry of a text, alone. -/
theorem Entries.get?_single (name other : String) (v : Value) :
    Entries.get? [(.text name, v)] (.text other) = if name = other then some v else none := by
  simp [Entries.get?, Value.sameKey]

/-- A name is a letter and word characters. -/
theorem Template.exists_of_isName {name : List Char} (h : isName name) :
    ∃ c cs, name = c :: cs ∧ Text.isAsciiLetter c ∧ ∀ d ∈ cs, Text.isAsciiWord d := by
  cases name with
  | nil => cases h
  | cons c cs =>
    rw [isName, Bool.and_eq_true, List.all_eq_true] at h
    exact ⟨c, cs, rfl, h.1, h.2⟩

theorem Template.isAsciiWord_of_isName {name : List Char} (h : isName name) :
    ∀ c ∈ name, Text.isAsciiWord c := by
  obtain ⟨c, cs, rfl, letter, words⟩ := exists_of_isName h
  exact List.forall_mem_cons.mpr ⟨Text.isAsciiWord_of_isAsciiLetter letter, words⟩

namespace Schema

/-- A name of ASCII characters is one for documents if it is one for templates. -/
theorem isVariableName_of_isName {name : List Char} (h : Template.isName name) :
    isVariableName name := by
  cases name with
  | nil => cases h
  | cons c cs =>
    simp only [Template.isName, isVariableName, Bool.and_eq_true, List.all_eq_true] at h ⊢
    exact ⟨h.1, fun d among =>
      (Text.isWord_of_isAscii (Text.isAscii_of_isAsciiWord (h.2 d among))).trans (h.2 d among)⟩

theorem isName_iff (name : List Char) :
    Template.isName name ↔ isVariableName name ∧ ∀ c ∈ name, c.toNat < 128 := by
  constructor
  · exact fun h => ⟨isVariableName_of_isName h, fun c among =>
      Text.isAscii_of_isAsciiWord (Template.isAsciiWord_of_isName h c among)⟩
  · rintro ⟨h, ascii⟩
    cases name with
    | nil => cases h
    | cons c cs =>
      simp only [Template.isName, isVariableName, Bool.and_eq_true, List.all_eq_true] at h ⊢
      exact ⟨h.1, fun d among =>
        (Text.isWord_of_isAscii (ascii d (List.mem_cons_of_mem _ among))).symm.trans
          (h.2 d among)⟩

theorem readName_ok {v : Value} {name : String} (read : readName v = .ok name) :
    isVariableName name.toList := by
  obtain ⟨s, -, kept⟩ := bind_ok read
  split at kept
  · cases kept
    assumption
  · cases kept

/-- What is read from entries has the names of variables. -/
theorem readNamed_names {α : Type} {read : Value → Reading α} :
    ∀ {es : Entries} {pairs : List (String × α)}, readNamed read es = .ok pairs →
      ∀ p ∈ pairs, isVariableName p.1.toList
  | [], pairs, done => by
    cases done
    exact List.forall_mem_nil _
  | (k, v) :: es, pairs, done => by
    obtain ⟨name, named, done⟩ := bind_ok done
    obtain ⟨a, -, done⟩ := bind_ok done
    obtain ⟨rest, others, done⟩ := bind_ok done
    cases done
    exact List.forall_mem_cons.mpr
      ⟨readName_ok (under_ok (under_ok named)), readNamed_names others⟩

theorem readNames_names {α : Type} {read : Value → Reading α} {v : Value}
    {pairs : List (String × α)} (done : readNames read v = .ok pairs) :
    ∀ p ∈ pairs, isVariableName p.1.toList := by
  cases v with
  | dict es => exact readNamed_names done
  | _ => cases done

/-- A field that may be left out is read, or else it has its default. -/
theorem optional_ok {α : Type} {es : Entries} {names : List String} {default a : α}
    {read : Value → Reading α} (done : optional es names default read = .ok a) :
    a = default ∨ ∃ v, read v = .ok a := by
  rw [optional] at done
  split at done
  · obtain ⟨v, -, done⟩ := required_ok done
    exact .inr ⟨v, done⟩
  · cases done
    exact .inl rfl

section Single

variable {α : Type} {name : String} {names : List String} {v : Value} {read : Value → Reading α}

/-- A field has its default in a record whose only field is another one. -/
theorem optional_other (v : Value) (default : α) (read : Value → Reading α)
    (other : name ∉ names) : optional [(.text name, v)] names default read = .ok default := by
  have absent : present? [(.text name, v)] names = none := by
    refine List.find?_eq_none.mpr fun n among => ?_
    have differs : name ≠ n := fun same => other (same ▸ among)
    simp [Entries.has, Entries.get?_single, differs]
  rw [optional, absent]

/-- The only field of a record is read. -/
theorem optional_single (names : List String) (default : α) {a : α} (reads : read v = .ok a) :
    optional [(.text name, v)] (name :: names) default read = .ok a := by
  simp [optional, present?, Entries.has, Entries.get?_single, required, reads, under,
    Except.mapError]

end Single

end Schema

/-- Entries that are told apart by their names are among those that there were. -/
theorem mem_of_mem_distinctNames {α : Type} {pairs : List (String × α)} {p : String × α}
    (among : p ∈ distinctNames pairs) : p ∈ pairs := by
  have each : ∀ q ∈ distinctNames pairs, q ∈ pairs := by
    refine List.foldlRecOn (motive := fun acc : List (String × α) => ∀ q ∈ acc, q ∈ pairs) pairs _
      (List.forall_mem_nil _) fun acc kept p there q among => ?_
    split at among
    · obtain ⟨r, before, rfl⟩ := List.mem_map.mp among
      split
      · exact there
      · exact kept r before
    · rcases List.mem_append.mp among with before | set
      · exact kept q before
      · rwa [List.mem_singleton.mp set]
  exact each p among

namespace Config

open Schema

/-- The variables and the functions of an accepted configuration are those that are read from its
    fields, told apart by their names. -/
theorem ofValue_ok {doc : Value} {c : Config} (accepted : Config.ofValue doc = .ok c) :
    ∃ es vars functions, readRecord "EngineConfig" doc = .ok es ∧
      optional es ["vars", "variables"] [] (readNames readValue) = .ok vars ∧
      optional es ["functions"] [] (readNames FunctionDefinition.ofValue) = .ok functions ∧
      c.vars = distinctNames vars ∧ c.functions = distinctNames functions := by
  obtain ⟨es, record, read⟩ := bind_ok accepted
  obtain ⟨target, -, read⟩ := bind_ok read
  obtain ⟨defers, -, read⟩ := bind_ok read
  obtain ⟨vars, given, read⟩ := bind_ok read
  obtain ⟨functions, declared, read⟩ := bind_ok read
  obtain ⟨-, -, same⟩ := bind_ok read
  cases same
  exact ⟨es, vars, functions, record, given, declared, rfl, rfl⟩

/-- What a field declares under names has the names of variables. -/
theorem isVariableName_of_optional {α : Type} {es : Entries} {fields : List String}
    {read : Value → Reading α} {pairs : List (String × α)}
    (named : optional es fields [] (readNames read) = .ok pairs) {name : String}
    (declared : name ∈ (distinctNames pairs).map Prod.fst) : isVariableName name.toList := by
  obtain ⟨p, among, rfl⟩ := List.mem_map.mp declared
  rcases optional_ok named with rfl | ⟨v, named⟩
  · cases among
  · exact readNames_names named p (mem_of_mem_distinctNames among)

/-- A document that declares a variable and nothing else. -/
theorem ofValue_single {name : String} (h : isVariableName name.toList) :
    Config.ofValue (.dict [(.text "vars", .dict [(.text name, .null)])]) =
      .ok { vars := [(name, .null)] } := by
  have named : readNames readValue (.dict [(.text name, .null)]) = .ok [(name, .null)] := by
    simp [readNames, readNamed, readName, readText, h, readValue, readValue?, under,
      Except.mapError, bind, Except.bind, pure, Except.pure]
  have vars : present? [(.text "vars", .dict [(.text name, .null)])] ["vars", "variables"] =
      some "vars" := rfl
  have defers : present? [(.text "vars", .dict [(.text name, .null)])]
      ["deferConnection", "defer_connection"] = none := rfl
  simp [Config.ofValue, readRecord, optional_other, optional_single _ _ named, vars, defers,
    noExtras, bind, Except.bind, pure, Except.pure, distinctNames]

/-- Documents declare variables with these names and no others. -/
theorem declares_iff (name : String) :
    Config.Declares name ↔ isVariableName name.toList := by
  constructor
  · rintro ⟨doc, c, accepted, declared⟩
    obtain ⟨es, vars, functions, -, named, -, same, -⟩ := Config.ofValue_ok accepted
    rw [same] at declared
    exact isVariableName_of_optional named declared
  · intro h
    exact ⟨_, _, Config.ofValue_single h, by simp⟩

end Config

/-! ## Names on the command line -/

namespace CommandLine

/-- Some accepted words of a run set a variable of this name. -/
def RunRequest.Declares (name : String) : Prop :=
  ∃ words w find r, Words.read .run words = .ok w ∧ RunRequest.ofWords find w = .ok r ∧
    r.vars.has (.text name)

theorem Words.splitValue_append {name : String} (value : String) (h : '=' ∉ name.toList) :
    Words.splitValue (name ++ "=" ++ value) = (name, some value) := by
  have free : ∀ c ∈ name.toList, (c != '=') = true := by
    rintro c among
    simp only [bne_iff_ne]
    rintro rfl
    exact h among
  simp [Words.splitValue, List.dropWhile_append_of_pos free, List.takeWhile_append_of_pos free]

namespace RunRequest

/-- Whether every entry is under the name of a variable. -/
def Named (vars : Entries) : Prop := ∀ e ∈ vars, ∃ s, e.1 = .text s ∧ isVariable s.toList

theorem assign_named {vars vars' : Entries} {item : String} (named : Named vars)
    (set : assign vars item = .ok vars') : Named vars' := by
  unfold assign at set
  split at set
  · rename_i name text _
    split at set
    · rename_i h
      split at set
      · cases set
        exact Entries.forall_put (P := fun k _ => ∃ s, k = .text s ∧ isVariable s.toList) named
          ⟨name, rfl, h⟩ named
      · cases set
    · cases set
  · cases set

theorem assigned_named : ∀ {items : List String} {vars vars' : Entries}, Named vars →
    items.foldlM assign vars = .ok vars' → Named vars'
  | [], vars, vars', named, set => by
    cases set
    exact named
  | item :: items, vars, vars', named, set => by
    rw [List.foldlM_cons] at set
    obtain ⟨between, first, rest⟩ := bind_ok set
    exact assigned_named (assign_named named first) rest

/-- A name of a variable is a name of templates, but for a line feed behind it. -/
theorem isVariable_iff (name : List Char) : isVariable name ↔
    Template.isName name ∨ ∃ front, name = front ++ ['\n'] ∧ Template.isName front := by
  simp only [isVariable, Bool.or_eq_true, Bool.and_eq_true, beq_iff_eq]
  refine or_congr_right ⟨?_, ?_⟩
  · rintro ⟨last, front⟩
    exact ⟨_, (List.dropLast_append_getLast? _ last).symm, front⟩
  · rintro ⟨front, rfl, named⟩
    simpa using named

theorem not_mem_of_isVariable {name : List Char} (h : isVariable name) : '=' ∉ name := by
  have free {front : List Char} (named : Template.isName front) : '=' ∉ front := fun among =>
    Text.ne_of_isAsciiWord (Template.isAsciiWord_of_isName named _ among) (by decide) rfl
  rcases (isVariable_iff name).mp h with named | ⟨front, rfl, named⟩
  · exact free named
  · simpa using free named

/-- A setting and a file are words of a run. -/
theorem read_single (item : String) :
    Words.read .run ["--var", item, "f"] = .ok ⟨[⟨.assign, item⟩], ["f"]⟩ := by
  have switch : Words.isSwitch "--var" := by decide +kernel
  have operand : Words.isSwitch "f" = false := by decide +kernel
  have awaits : Words.ofSwitchWord Part.run.switches "--var" =
      .ok { awaiting := some (.assign, "--var") } := rfl
  have mixes : Part.run.mixesOperands := rfl
  simp [Words.read, switch, operand, awaits, mixes, Words.addUses, Words.addOperand, bind,
    Except.bind, pure, Except.pure]

theorem ofWords_single {item : String} {vars : Entries} (set : assign [] item = .ok vars) :
    RunRequest.ofWords (fun _ => .file []) ⟨[⟨.assign, item⟩], ["f"]⟩ =
      .ok ⟨"f", [], none, false, vars, false, 0⟩ := by
  simp [RunRequest.ofWords, Words.has, Words.count, Words.values, Words.value?, set, bytesOf,
    Except.mapError, bind, Except.bind, pure, Except.pure]

/-- The variables of an accepted request have names of variables. -/
theorem ofWords_named {find : String → FileState} {w : Words} {r : RunRequest}
    (accepted : RunRequest.ofWords find w = .ok r) : Named r.vars := by
  rw [RunRequest.ofWords] at accepted
  split at accepted
  · cases accepted
  · obtain ⟨vars, set, read⟩ := bind_ok accepted
    split at read
    · cases read
    · obtain ⟨bytes, -, read⟩ := bind_ok read
      simp only [] at read
      split at read
      · cases read
      · cases read
        exact assigned_named (List.forall_mem_nil _) set

/-- What is found under a text is in an entry of that text, where all keys are texts. -/
theorem Named.isVariable {vars : Entries} {name : String} (named : Named vars)
    (declared : vars.has (.text name)) : isVariable name.toList := by
  induction vars with
  | nil => cases declared
  | cons entry vars ih =>
    obtain ⟨k, v⟩ := entry
    obtain ⟨⟨s, rfl, first⟩, others⟩ := List.forall_mem_cons.mp named
    by_cases same : s = name
    · rwa [← same]
    · refine ih others ?_
      simpa [Entries.has, Entries.get?, Value.sameKey, same] using declared

/-- The command line sets variables with these names and no others. -/
theorem declares_iff (name : String) : RunRequest.Declares name ↔ isVariable name.toList := by
  constructor
  · rintro ⟨words, w, find, r, -, accepted, declared⟩
    exact (ofWords_named accepted).isVariable declared
  · intro h
    have cut : Words.splitValue (name ++ "=") = (name, some "") := by
      simpa using Words.splitValue_append "" (not_mem_of_isVariable h)
    have set : assign [] (name ++ "=") = .ok [(.text name, .text "")] := by
      simp [assign, cut, h, settingOf, Entries.put]
    exact ⟨_, _, _, _, read_single _, ofWords_single set, by simp [Entries.has, Entries.get?_single]⟩

end RunRequest

end CommandLine

/-! ## Names in templates -/

namespace Template

/-- The text that shows the variable of a name. -/
def marker (name : String) : String := "\x7b\x7b" ++ name ++ "\x7d\x7d"

/-- A text with the name between braces shows the variable that is bound to it, whatever else there
    is, and does nothing else. -/
def Renders (name : String) : Prop :=
  ∀ {σ : Type} (funcs : Functions σ) (m : Memory σ) (v : Value),
    m.vars.get? (.text name) = some v →
      exec (resolve funcs callLimit (.text (marker name))) m = ((textOf v).map .text, m)

theorem resolve_text {σ : Type} (funcs : Functions σ) (limit : Nat) (s : String) :
    resolve funcs limit (.text s) =
      (fun cs => Value.text (String.ofList cs)) <$> resolveText funcs limit s.toList := by
  rw [resolve, Value.mapLeavesM, resolveLeaf, map_eq_pure_bind]
  all_goals simp

theorem exec_resolve_text {σ : Type} (funcs : Functions σ) (limit : Nat) (s : String)
    (m : Memory σ) :
    exec (resolve funcs limit (.text s)) m =
      ((exec (resolveText funcs limit s.toList) m).1.map fun cs => .text (String.ofList cs),
        (exec (resolveText funcs limit s.toList) m).2) := by
  rw [resolve_text, exec_map]

/-- A text without a dollar sign has no call. -/
theorem find?_eq_none {cs : List Char} (free : '$' ∉ cs) : CallMarker.find? cs = none := by
  have body {ds : List Char} (free : '$' ∉ ds) : CallMarker.body? ds = none := by
    rw [CallMarker.body?]
    split
    · rename_i rest starts
      exact absurd ((List.dropWhile_sublist _).subset (starts ▸ List.mem_cons_self)) free
    · rfl
  have start {ds : List Char} (free : '$' ∉ ds) : CallMarker.atStart? ds = none := by
    rw [CallMarker.atStart?.eq_def]
    split
    · exact body fun among => free (by simp [among])
    · rfl
  induction cs with
  | nil => rfl
  | cons c cs ih =>
    rw [CallMarker.find?, start free, ih (List.not_mem_of_not_mem_cons free)]
    rfl

/-- A text without calls is shown with the variables that there are. -/
theorem exec_resolve_of_no_call {σ : Type} (funcs : Functions σ) {s : String}
    (free : '$' ∉ s.toList) (m : Memory σ) :
    exec (resolve funcs callLimit (.text s)) m =
      ((interpolate m.vars s.toList).map fun cs => .text (String.ofList cs), m) := by
  have text : exec (resolveText funcs callLimit s.toList) m = (interpolate m.vars s.toList, m) := by
    rw [callLimit, resolveText, find?_eq_none free]
    exact exec_interpolateNow _ _
  rw [exec_resolve_text, text]

/-- A text without dots is one segment. -/
theorem splitDots_eq {cs : List Char} (free : '.' ∉ cs) : splitDots cs = [cs] := by
  induction cs with
  | nil => rfl
  | cons c cs ih =>
    obtain ⟨differs, free⟩ := List.ne_and_not_mem_of_not_mem_cons free
    rw [splitDots, ih free, if_neg (by simpa using differs.symm)]

/-- Nothing is left of a text that belongs to a marker before. -/
theorem listFrom_length : ∀ cs : List Char, Piece.listFrom cs.length cs = []
  | [] => rfl
  | _ :: cs => listFrom_length cs

section Named

variable {name : String} (named : isName name.toList)
include named

theorem not_mem_of_isName {c : Char} (other : Text.isAsciiWord c = false) : c ∉ name.toList :=
  fun among => Text.ne_of_isAsciiWord (isAsciiWord_of_isName named c among) other rfl

theorem trimmed_of_isName : Text.trimBoth Text.isBlank name.toList = name.toList :=
  Text.trimBoth_eq fun c among =>
    Text.isBlank_of_isAsciiWord (isAsciiWord_of_isName named c among)

/-- The marker of a name is one piece, that of the variable. -/
theorem ofText_marker : Piece.ofText (marker name).toList = [.variable name.toList] := by
  have word := isAsciiWord_of_isName named
  have inner : ∀ d ∈ name.toList, isInner d := fun d among => by
    simp [isInner, Text.ne_of_isAsciiWord (word d among) (d := '\x7b') (by decide),
      Text.ne_of_isAsciiWord (word d among) (d := '\x7d') (by decide)]
  have taken : (name.toList ++ ['\x7d', '\x7d']).takeWhile isInner = name.toList := by
    rw [List.takeWhile_append_of_pos inner]
    simp [isInner]
  have marked : Piece.markerAt? ('\x7b' :: '\x7b' :: (name.toList ++ ['\x7d', '\x7d'])) =
      some (name.toList, name.toList.length + 4) := by
    rw [Piece.markerAt?]
    · simp [taken, trimmed_of_isName named]
    · intro cs starts
      have starts : name.toList ++ ['\x7d', '\x7d'] = '\x7b' :: cs := by simpa using starts
      have among : '\x7b' ∈ name.toList ++ ['\x7d', '\x7d'] := starts ▸ List.mem_cons_self
      simp [not_mem_of_isName named (c := '\x7b') (by decide)] at among
  have text : (marker name).toList =
      '\x7b' :: '\x7b' :: (name.toList ++ ['\x7d', '\x7d']) := by simp [marker]
  rw [text, Piece.ofText, Piece.listFrom, marked]
  have rest := listFrom_length ('\x7b' :: (name.toList ++ ['\x7d', '\x7d']))
  simpa using rest

/-- The path that a name is leads to the variable of that name. -/
theorem lookup_name {vars : Entries} {v : Value} (bound : vars.get? (.text name) = some v) :
    lookup vars name.toList = v := by
  have undotted : splitDots name.toList = [name.toList] :=
    splitDots_eq (not_mem_of_isName named (by decide))
  have path : Path.parse? name.toList = some ⟨[name.toList]⟩ := by
    simp [Path.parse?, trimmed_of_isName named, undotted, Path.isValid, named]
  rw [lookup, path]
  cases v <;> simp [Path.resolve, Path.follow, Path.step, bound]

theorem renders_of_isName : Renders name := by
  intro σ funcs m v bound
  have free : '$' ∉ (marker name).toList := by
    simpa [marker] using not_mem_of_isName named (by decide)
  rw [exec_resolve_of_no_call funcs free, interpolate, ofText_marker named, renderPieces,
    lookup_name named bound]
  cases textOf v <;> simp [renderPieces, Except.map, bind, Except.bind, pure, Except.pure]

end Named

/-- Where the only variable has a name that templates do not know, every path leads to nothing. -/
theorem lookup_of_not_isName {name : String} (unknown : ¬ isName name.toList) (v : Value)
    (path : List Char) : lookup [(.text name, v)] path = .null := by
  rw [lookup]
  split
  · rename_i p parsed
    rw [Path.parse?] at parsed
    split at parsed
    · rename_i valid
      cases parsed
      cases segments : splitDots (Text.trimBoth Text.isBlank path) with
      | nil =>
        rw [segments] at valid
        cases valid
      | cons segment others =>
        rw [segments, Path.isValid, Bool.and_eq_true] at valid
        have differs : name ≠ String.ofList segment := by
          rintro rfl
          exact unknown (by simpa using valid.1)
        have nothing : Path.step segment (.dict [(.text name, v)]) = none := by
          rw [Path.step, Entries.get?_single, if_neg differs]
        rw [Path.resolve, Path.follow, nothing]
    · cases parsed
  · rfl

theorem renderPieces_congr {vars vars' : Entries}
    (same : ∀ path, lookup vars path = lookup vars' path) :
    ∀ ps : List Piece, renderPieces vars ps = renderPieces vars' ps
  | [] => rfl
  | .char c :: ps => by rw [renderPieces, renderPieces, renderPieces_congr same ps]
  | .variable path :: ps => by
    rw [renderPieces, renderPieces, same, renderPieces_congr same ps]

/-- Without functions, what a text shows depends on what the paths of variables lead to. -/
theorem resolve_of_no_functions {m m' : Memory Unit}
    (same : ∀ path, lookup m.vars path = lookup m'.vars path) (limit : Nat) (s : String) :
    (exec (resolve [] limit (.text s)) m).1 = (exec (resolve [] limit (.text s)) m').1 := by
  have matching : Functions.Match
      (fun n n' : Memory Unit => ∀ path, lookup n.vars path = lookup n'.vars path) [] [] :=
    ⟨fun _ _ _ _ _ same => ⟨rfl, same⟩, fun _ _ => rfl, fun _ _ found => by cases found⟩
  obtain ⟨result, n, n', settled, settled', left⟩ :=
    (settle_alike matching limit s.toList).ends same
  rw [exec_resolve_text, exec_resolve_text, exec_resolveText, exec_resolveText, settled, settled']
  cases result with
  | error f => rfl
  | ok t =>
    cases t with
    | left cs => rfl
    | ready cs => simp only [Settled.text, interpolate, renderPieces_congr left]

theorem isName_of_renders {name : String} (renders : Renders name) : isName name.toList := by
  by_contra unknown
  let m (s : String) : Memory Unit := ⟨[(.text name, .text s)], (), []⟩
  have shows (s : String) : (exec (resolve [] callLimit (.text (marker name))) (m s)).1 =
      .ok (.text s) := by
    rw [renders [] (m s) (.text s) (by simp [m, Entries.get?_single])]
    rfl
  have same : ∀ path, lookup (m "a").vars path = lookup (m "b").vars path := fun path =>
    (lookup_of_not_isName unknown _ path).trans (lookup_of_not_isName unknown _ path).symm
  have equal := resolve_of_no_functions same callLimit (marker name)
  rw [shows, shows] at equal
  simp at equal

/-- Templates show the variables with these names and no others. -/
theorem renders_iff (name : String) : Renders name ↔ isName name.toList :=
  ⟨isName_of_renders, renders_of_isName⟩

end Template

/-! ## One rule for names -/

open CommandLine

/-- Documents and the command line admit the same name, and templates show it if they do. -/
def IsCommonName (name : String) : Prop :=
  (Config.Declares name ↔ RunRequest.Declares name) ∧
    (Config.Declares name ∨ RunRequest.Declares name → Template.Renders name)

/-- Templates show a variable if a document can declare it and its name is ASCII, and just so if the
    command line can set it and no line feed stands behind its name. For all other names that a
    document or the command line admits there is no common rule. -/
theorem isCommonName_iff (name : String) :
    (Template.Renders name ↔ Config.Declares name ∧ ∀ c ∈ name.toList, c.toNat < 128) ∧
    (Template.Renders name ↔ RunRequest.Declares name ∧ name.toList.getLast? ≠ some '\n') ∧
    (IsCommonName name ↔ (Config.Declares name → ∀ c ∈ name.toList, c.toNat < 128) ∧
      (RunRequest.Declares name → name.toList.getLast? ≠ some '\n')) := by
  have documents : Template.Renders name ↔
      Config.Declares name ∧ ∀ c ∈ name.toList, c.toNat < 128 := by
    rw [Template.renders_iff, Config.declares_iff, Schema.isName_iff]
  have settings : Template.Renders name ↔
      RunRequest.Declares name ∧ name.toList.getLast? ≠ some '\n' := by
    rw [Template.renders_iff, RunRequest.declares_iff, RunRequest.isVariable_iff]
    constructor
    · refine fun named => ⟨.inl named, fun last => ?_⟩
      exact Template.not_mem_of_isName named (by decide) (List.mem_of_getLast? last)
    · rintro ⟨named | ⟨front, text, -⟩, ends⟩
      · exact named
      · exact absurd (by simp [text]) ends
  refine ⟨documents, settings, ?_⟩
  rw [IsCommonName]
  constructor
  · rintro ⟨same, renders⟩
    exact ⟨fun declared => (documents.mp (renders (.inl declared))).2,
      fun declared => (settings.mp (renders (.inr declared))).2⟩
  · rintro ⟨ascii, ends⟩
    have declared (d : Config.Declares name) : Template.Renders name := documents.mpr ⟨d, ascii d⟩
    have set (d : RunRequest.Declares name) : Template.Renders name := settings.mpr ⟨d, ends d⟩
    refine ⟨⟨fun d => (settings.mp (declared d)).1, fun d => (documents.mp (set d)).1⟩, ?_⟩
    rintro (d | d)
    · exact declared d
    · exact set d

/-- A document can declare a variable with a letter of another script in its name, and the command
    line can set one with a line feed behind its name. Neither is known to the other, and templates
    show neither. -/
theorem isCommonName_fails :
    (Config.Declares "a\u00e9" ∧ ¬ RunRequest.Declares "a\u00e9" ∧ ¬ Template.Renders "a\u00e9") ∧
    (¬ Config.Declares "a\n" ∧ RunRequest.Declares "a\n" ∧ ¬ Template.Renders "a\n") := by
  simp only [Config.declares_iff, RunRequest.declares_iff, Template.renders_iff]
  decide +kernel

end SessionScript
