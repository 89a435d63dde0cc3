import SessionScript.Proofs.Yaml.Ink

/-!
# Documents without blank lines

A mapping of plain data is written in lines that end with ink, unless a text in it stands on several
lines in single quotes. Then its document has a blank line.
-/

namespace SessionScript.Yaml

/-! ## What texts allow -/

/-- A text of several lines that is written in single quotes. Its characters are printed or line
    feeds, and no space stands beside a line feed. -/
def IsSpread (cs : List Char) : Prop := '\n' ∈ cs ∧ (Analysis.ofText cs).allowsSingle

instance : DecidablePred IsSpread := fun cs =>
  inferInstanceAs (Decidable ('\n' ∈ cs ∧ (Analysis.ofText cs).allowsSingle))

theorem isPrinted_of_isSimple {c : Char} (simple : isSimple c) (other : c ≠ '\n') :
    isPrinted c := by
  rw [isSimple, Bool.or_eq_true, beq_iff_eq] at simple
  exact simple.resolve_left other

/-- A text that may stand in single quotes is printed, if it is on one line. -/
theorem arePrinted_of_allowsSingle {cs : List Char} (allows : (Analysis.ofText cs).allowsSingle)
    (line : '\n' ∉ cs) : ArePrinted cs := by
  cases cs with
  | nil => exact List.forall_mem_nil _
  | cons c cs =>
    simp only [Analysis.ofText, Bool.not_eq_true', Bool.or_eq_false_iff] at allows
    intro d among
    have simple : isSimple d := by
      have all := List.any_eq_false.mp allows.2 d among
      simpa using all
    exact isPrinted_of_isSimple simple fun same => line (same ▸ among)

/-- A plain text is printed and has no spaces at its ends. -/
theorem of_allowsPlain {cs : List Char} (allows : (Analysis.ofText cs).allowsPlain) :
    ArePrinted cs ∧ cs.head? ≠ some ' ' ∧ cs.getLast? ≠ some ' ' := by
  cases cs with
  | nil => exact ⟨List.forall_mem_nil _, nofun, nofun⟩
  | cons c cs =>
    simp only [Analysis.ofText, Bool.not_eq_true', Bool.or_eq_false_iff] at allows
    obtain ⟨⟨⟨⟨⟨⟨first, last⟩, -⟩, -⟩, special⟩, multiline⟩, -⟩ := allows
    refine ⟨?_, ?_, ?_⟩
    · intro d among
      have simple : isSimple d := by
        have all := List.any_eq_false.mp special d among
        simpa using all
      have unbroken := List.any_eq_false.mp multiline d among
      exact isPrinted_of_isSimple simple fun same => unbroken (same ▸ rfl)
    · intro same
      cases same
      exact absurd first.1 (by decide)
    · intro same
      rw [List.getLast?_eq_some_getLast (List.cons_ne_nil c cs), Option.some.injEq] at same
      rw [same] at last
      exact absurd last.1 (by decide)

/-! ## Scalars -/

/-- A scalar that is written without blank lines and not with nothing. -/
structure ScalarText.IsCompact (s : ScalarText) : Prop where
  binary : s.binary = false
  some : s.denoted → s.text ≠ []
  together : ¬ IsSpread s.text

/-- A scalar is plain only if it denotes what it is and its text allows it, and in single quotes
    only if its text allows that. -/
theorem ScalarText.style_cases {s : ScalarText} (binary : s.binary = false) (place : NodePlace) :
    (s.style place = .plain ∧ s.denoted ∧ (Analysis.ofText s.text).allowsPlain) ∨
      (s.style place = .single ∧ (Analysis.ofText s.text).allowsSingle) ∨
      s.style place = .double := by
  rw [style]
  split
  · rename_i plain
    simp only [Bool.and_eq_true] at plain
    exact .inl ⟨rfl, plain.1⟩
  · rw [binary, if_neg Bool.false_ne_true]
    split
    · rename_i single
      exact .inr (.inl ⟨rfl, (Bool.and_eq_true_iff.mp single).1⟩)
    · exact .inr (.inr rfl)

/-- Scalars end with ink. -/
theorem writeScalar_ruled {s : ScalarText} (compact : s.IsCompact) (depth : Option Nat)
    {place : NodePlace} (inner : place ≠ .root) {c : Canvas} {inked : Bool}
    (ruled : c.IsRuled inked) : (writeScalar depth place s c).IsRuled true := by
  have root : (place == .root) = false := beq_eq_false_iff_ne.mpr inner
  simp only [writeScalar, compact.binary, if_neg Bool.false_ne_true, root]
  rcases ScalarText.style_cases compact.binary place with
    ⟨style, denoted, allows⟩ | ⟨style, allows⟩ | style
  · obtain ⟨printed, front, back⟩ := of_allowsPlain allows
    rw [style]
    exact writePlain_ruled printed (compact.some denoted) front back _ _ ruled
  · have line : '\n' ∉ s.text := fun among => compact.together ⟨among, allows⟩
    rw [style]
    exact writeSingle_ruled (arePrinted_of_allowsSingle allows line) _ _ ruled
  · rw [style]
    exact writeDouble_ruled _ _ _ ruled

/-- Scalars that are not binary data add to what has been written. -/
theorem prefix_writeScalar {s : ScalarText} (binary : s.binary = false) (depth : Option Nat)
    (place : NodePlace) (c : Canvas) : c.text <+: (writeScalar depth place s c).text := by
  simp only [writeScalar, binary, if_neg Bool.false_ne_true]
  rcases ScalarText.style_cases binary place with ⟨style, -⟩ | ⟨style, -⟩ | style
  · rw [style]
    exact prefix_writePlain _ _ _ _ c
  · rw [style]
    exact ((c.prefix_mark "'" false false).trans (prefix_singleRuns _ _ _ _ _)).trans
      (Canvas.prefix_close _ "'")
  · rw [style]
    exact ((c.prefix_mark "\"" false false).trans (prefix_doubleChars _ _ _ _ _ _)).trans
      (Canvas.prefix_close _ "\"")

/-- A spread text that is not a key on the line of its value is written with a gap, behind which
    there is at least the quote at its end. -/
theorem writeScalar_gap {s : ScalarText} (binary : s.binary = false) (spread : IsSpread s.text)
    (depth : Option Nat) {place : NodePlace} (alone : place ≠ .simpleKey) (c : Canvas) :
    (writeScalar depth place s c).HasGap := by
  have breaks : s.text.any isBreak := List.any_eq_true.mpr ⟨'\n', spread.1, by decide⟩
  have bent : (Analysis.ofText s.text).allowsPlain = false := by
    obtain ⟨d, ds, text⟩ := List.exists_cons_of_ne_nil (List.ne_nil_of_mem spread.1)
    rw [text] at breaks ⊢
    simp only [Analysis.ofText, breaks]
    simp
  have style : s.style place = .single := by
    have alone : (place == .simpleKey) = false := beq_eq_false_iff_ne.mpr alone
    simp [ScalarText.style, bent, binary, spread.2, alone]
  have run : ∃ run ∈ quotedRuns s.text, run.any isBreak := by
    rw [← flatten_quotedRuns s.text, List.any_flatten, List.any_eq_true] at breaks
    exact breaks
  simp only [writeScalar, binary, if_neg Bool.false_ne_true, style, writeSingle]
  generalize (place != .simpleKey) = splits
  obtain ⟨above, behind, text⟩ := singleRuns_breaks run (deeper 2 depth) splits true
    (c.mark "'" false false)
  refine ⟨behind, '\'', by decide, above, [], ?_⟩
  rw [Canvas.text_close, ← text]
  simp

end SessionScript.Yaml

namespace SessionScript.Value

/-- Nested lists and mappings with texts as keys, of texts, integers, truth values and null. -/
inductive IsPlainData : Value → Prop where
  | null : IsPlainData .null
  | bool (b : Bool) : IsPlainData (.bool b)
  | int {i : Int} (short : (Value.int i).isShort) : IsPlainData (.int i)
  | text (s : String) : IsPlainData (.text s)
  | list {xs : List Value} (each : ∀ x ∈ xs, IsPlainData x) : IsPlainData (.list xs)
  | dict {es : Entries} (keys : ∀ e ∈ es, ∃ s, e.1 = .text s) (each : ∀ e ∈ es, IsPlainData e.2) :
    IsPlainData (.dict es)

/-- No text in a value, be it a key or not, stands on several lines in single quotes. -/
def IsCompact (v : Value) : Prop := ∀ s, .text s ∈ v.parts → ¬ Yaml.IsSpread s.toList

theorem isCompact_list {xs : List Value} :
    (Value.list xs).IsCompact ↔ ∀ x ∈ xs, x.IsCompact := by
  constructor
  · intro compact x among s part
    exact compact s (mem_itemParts.mpr ⟨x, among, part⟩)
  · intro each s part
    obtain ⟨x, among, part⟩ := mem_itemParts.mp part
    exact each x among s part

theorem isCompact_dict {es : Entries} :
    (Value.dict es).IsCompact ↔ ∀ e ∈ es, e.1.IsCompact ∧ e.2.IsCompact := by
  constructor
  · intro compact e among
    exact ⟨fun s part => compact s (mem_entryParts.mpr ⟨e, among, .inl part⟩),
      fun s part => compact s (mem_entryParts.mpr ⟨e, among, .inr part⟩)⟩
  · intro each s part
    obtain ⟨e, among, inKey | inValue⟩ := mem_entryParts.mp part
    · exact (each e among).1 s inKey
    · exact (each e among).2 s inValue

end SessionScript.Value

namespace SessionScript.Yaml

open Text (ended)
open Value

theorem isCompact_text {s : String} (together : ¬ IsSpread s.toList) :
    ScalarText.IsCompact ⟨5, s.toList, PlainKind.ofText s.toList == .text, false⟩ := by
  refine ⟨rfl, fun denoted empty => ?_, together⟩
  have empty : s.toList = [] := empty
  have null : PlainKind.ofText [] ≠ .text := by decide
  rw [beq_iff_eq, empty] at denoted
  exact null denoted

theorem isCompact_word {n : Nat} {word : List Char} (some : word ≠ []) (line : '\n' ∉ word) :
    ScalarText.IsCompact ⟨n, word, true, false⟩ :=
  ⟨rfl, fun _ => some, fun spread => line spread.1⟩

theorem ofValue_int {i : Int} (short : (Value.int i).isShort) :
    ScalarText.ofValue (.int i) = .ok ⟨5, (Text.ofInt i).toList, true, false⟩ := by
  rw [isShort, Bool.not_eq_true'] at short
  simp [ScalarText.ofValue, ScalarText.ofValue?, short]

/-- A leaf of plain data has a compact scalar. -/
theorem exists_isCompact {v : Value} (data : v.IsPlainData) (compact : v.IsCompact)
    (leaf : v.isContainer = false) : ∃ s, ScalarText.ofValue v = .ok s ∧ s.IsCompact := by
  cases data with
  | null => exact ⟨_, rfl, isCompact_word (by decide) (by decide)⟩
  | bool b => exact ⟨_, rfl, by cases b <;> exact isCompact_word (by decide) (by decide)⟩
  | @int i short =>
    refine ⟨_, ofValue_int short, isCompact_word (Json.ofInt_ne_nil i) fun among => ?_⟩
    have part := List.all_eq_true.mp (Json.ofInt_parts i) _ among
    cases part
  | text s => exact ⟨_, rfl, isCompact_text (compact s List.mem_cons_self)⟩
  | list _ | dict _ _ => cases leaf

/-! ## Nodes -/

/-- A node is written and ends with ink, if there is ink in front of it. A leaf may also follow a
    space. -/
def EndsWithInk (v : Value) : Prop :=
  ∀ (depth : Option Nat) (place : NodePlace) (c : Canvas), place ≠ .root →
    c.IsRuled v.isContainer → ∃ c', writeNode depth place v c = .ok c' ∧ c'.IsRuled true

theorem endsWithInk_leaf {v : Value} (data : v.IsPlainData) (compact : v.IsCompact)
    (leaf : v.isContainer = false) : EndsWithInk v := by
  intro depth place c inner ruled
  obtain ⟨s, scalar, compact⟩ := exists_isCompact data compact leaf
  refine ⟨writeScalar depth place s c, ?_, writeScalar_ruled compact depth inner ruled⟩
  rw [writeNode_leaf leaf, scalar]
  rfl

/-- A mark is one of these characters. -/
theorem mark_ink : ∀ s ∈ ["-", "?", ":", "[", "]", "\x7b", "\x7d"],
    ArePrinted s.toList ∧ EndsInk s.toList := by
  intro s among
  have ink : ∀ s ∈ ["-", "?", ":", "[", "]", "\x7b", "\x7d"],
      s.toList ≠ [] ∧ s.toList.all isInk := by decide
  obtain ⟨some, ink⟩ := ink s among
  have ink := List.all_eq_true.mp ink
  obtain ⟨c, cs, text⟩ := List.exists_cons_of_ne_nil some
  rw [text] at ink ⊢
  exact ⟨arePrinted_of_ink ink, endsInk_of_ink ink⟩

theorem writeItems_ruled {xs : List Value} (each : ∀ x ∈ xs, EndsWithInk x) (depth : Nat) :
    ∀ {c : Canvas}, c.IsRuled true → ∃ c', writeItems depth xs c = .ok c' ∧ c'.IsRuled true := by
  obtain ⟨printed, ink⟩ := mark_ink "-" (by decide)
  induction xs with
  | nil =>
    intro c ruled
    exact ⟨c, by rw [writeItems], ruled⟩
  | cons x xs ih =>
    intro c ruled
    obtain ⟨first, others⟩ := List.forall_mem_cons.mp each
    have marked := (ruled.indentTo depth).mark printed ink false true
    obtain ⟨d, written, ruled'⟩ := first (some depth) .item _ (by decide) (marked.weaken _)
    obtain ⟨c', rest, ended⟩ := ih others ruled'
    refine ⟨c', ?_, ended⟩
    rw [writeItems, written]
    exact rest

/-- Keys that are texts are followed by their values, each behind ink. -/
theorem writeEntries_ruled {es : List (Value × Value)}
    (keys : ∀ e ∈ es, EndsWithInk e.1 ∧ e.1.isContainer = false)
    (each : ∀ e ∈ es, EndsWithInk e.2) (depth : Nat) :
    ∀ {c : Canvas}, (c.indentTo depth).IsRuled false → (es = [] → c.IsRuled true) →
      ∃ c', writeEntries depth es c = .ok c' ∧ c'.IsRuled true := by
  obtain ⟨printed, ink⟩ := mark_ink "?" (by decide)
  obtain ⟨printed', ink'⟩ := mark_ink ":" (by decide)
  induction es with
  | nil =>
    intro c _ ruled
    exact ⟨c, by rw [writeEntries], ruled rfl⟩
  | cons e es ih =>
    intro c start _
    obtain ⟨key, value⟩ := e
    obtain ⟨⟨ownKey, leaf⟩, otherKeys⟩ := List.forall_mem_cons.mp keys
    obtain ⟨own, others⟩ := List.forall_mem_cons.mp each
    have opened : (openKey depth key c).IsRuled false := by
      rw [openKey]
      split
      · exact start
      · exact (start.mark printed ink false true).loose
    have inner : keyPlace key ≠ .root := by
      rw [keyPlace]
      split <;> decide
    obtain ⟨d, keyed, ruled⟩ := ownKey (some depth) (keyPlace key) _ inner (by rwa [leaf])
    have closed : (closeKey depth key d).IsRuled true := by
      rw [closeKey]
      split
      · exact ruled.close printed' ink'
      · exact (ruled.indentTo depth).mark printed' ink' false true
    obtain ⟨d', valued, ruled'⟩ := own (some depth) .entry _ (by decide) (closed.weaken _)
    obtain ⟨c', rest, ended⟩ := ih otherKeys others (ruled'.indentTo depth) fun _ => ruled'
    refine ⟨c', ?_, ended⟩
    rw [writeEntries, keyed]
    change (writeNode (some depth) .entry value (closeKey depth key d) >>=
      writeEntries depth es) = .ok c'
    rw [valued]
    exact rest

/-- Empty brackets end with ink. -/
theorem brackets_ruled {opening closing : String}
    (marks : opening ∈ ["[", "\x7b"] ∧ closing ∈ ["]", "\x7d"]) {c : Canvas} {inked : Bool}
    (ruled : c.IsRuled inked) : ((c.mark opening true false).close closing).IsRuled true := by
  have known : ∀ s ∈ ["[", "\x7b"] ++ ["]", "\x7d"], ArePrinted s.toList ∧ EndsInk s.toList := by
    intro s among
    refine mark_ink s ?_
    revert s
    decide
  obtain ⟨printed, ink⟩ := known opening (List.mem_append_left _ marks.1)
  obtain ⟨printed', ink'⟩ := known closing (List.mem_append_right _ marks.2)
  exact (ruled.mark printed ink true false).close printed' ink'

theorem keys_endWithInk {es : Entries} (keys : ∀ e ∈ es, ∃ s, e.1 = .text s)
    (compact : (Value.dict es).IsCompact) :
    ∀ e ∈ es, EndsWithInk e.1 ∧ e.1.isContainer = false := by
  intro e among
  obtain ⟨t, key⟩ := keys e among
  have own := (isCompact_dict.mp compact e among).1
  rw [key] at own ⊢
  exact ⟨endsWithInk_leaf (.text t) own rfl, rfl⟩

/-- Plain data is written and ends with ink, if all texts in it are compact. -/
theorem endsWithInk {v : Value} (data : v.IsPlainData) : v.IsCompact → EndsWithInk v := by
  induction data with
  | null => exact fun compact => endsWithInk_leaf .null compact rfl
  | bool b => exact fun compact => endsWithInk_leaf (.bool b) compact rfl
  | int short => exact fun compact => endsWithInk_leaf (.int short) compact rfl
  | text s => exact fun compact => endsWithInk_leaf (.text s) compact rfl
  | @list xs _ ih =>
    intro compact depth place c _ ruled
    have each : ∀ x ∈ xs, EndsWithInk x :=
      fun x among => ih x among (isCompact_list.mp compact x among)
    cases xs with
    | nil => exact ⟨_, by rw [writeNode], brackets_ruled (by decide) ruled⟩
    | cons x xs =>
      rw [writeNode]
      exact writeItems_ruled each _ ruled
  | @dict es keys _ ih =>
    intro compact depth place c _ ruled
    have each : ∀ e ∈ es, EndsWithInk e.2 :=
      fun e among => ih e among (isCompact_dict.mp compact e among).2
    cases es with
    | nil => exact ⟨_, by rw [writeNode], brackets_ruled (by decide) ruled⟩
    | cons e es =>
      rw [writeNode]
      exact writeEntries_ruled (keys_endWithInk keys compact) each _ (ruled.indentTo _) nofun

/-! ## What nodes add -/

/-- A node adds to what has been written, and it adds a gap if a text in it is spread. -/
def Adds (v : Value) : Prop :=
  ∀ (depth : Option Nat) (place : NodePlace) (c c' : Canvas),
    (place = .simpleKey → isSimpleKey v) → writeNode depth place v c = .ok c' →
    c.text <+: c'.text ∧ (¬ v.IsCompact → c'.HasGap)

/-- A spread text is on several lines, so it is not a key on the line of its value. -/
theorem isSimpleKey_of_isSpread {s : String} (spread : IsSpread s.toList) :
    isSimpleKey (.text s) = false := by
  have breaks : s.toList.any isBreak := List.any_eq_true.mpr ⟨'\n', spread.1, by decide⟩
  simp [isSimpleKey, ScalarText.ofValue?, breaks]

theorem adds_leaf {v : Value} (data : v.IsPlainData) (leaf : v.isContainer = false) : Adds v := by
  intro depth place c c' keyed written
  rw [writeNode_leaf leaf] at written
  -- Only texts are spread.
  have other (s : ScalarText) (scalar : ScalarText.ofValue v = .ok s) (binary : s.binary = false)
      (compact : v.IsCompact) : c.text <+: c'.text ∧ (¬ v.IsCompact → c'.HasGap) := by
    rw [scalar] at written
    cases written
    exact ⟨prefix_writeScalar binary depth place c, fun spread => absurd compact spread⟩
  cases data with
  | null => exact other _ rfl rfl nofun
  | bool b => exact other _ rfl rfl nofun
  | int short => exact other _ (ofValue_int short) rfl nofun
  | text s =>
    cases written
    refine ⟨prefix_writeScalar rfl depth place c, fun compact => ?_⟩
    have spread : IsSpread s.toList := by
      by_contra together
      refine compact fun t part => ?_
      cases List.mem_singleton.mp part
      exact together
    have alone : place ≠ .simpleKey := by
      intro same
      rw [isSimpleKey_of_isSpread spread] at keyed
      exact Bool.false_ne_true (keyed same)
    exact writeScalar_gap rfl spread depth alone c
  | list _ | dict _ _ => cases leaf

theorem writeItems_adds {xs : List Value} (each : ∀ x ∈ xs, Adds x) (depth : Nat) :
    ∀ {c c' : Canvas}, writeItems depth xs c = .ok c' →
      c.text <+: c'.text ∧ ((∃ x ∈ xs, ¬ x.IsCompact) → c'.HasGap) := by
  induction xs with
  | nil =>
    intro c c' written
    rw [writeItems] at written
    cases written
    exact ⟨List.prefix_rfl, by simp⟩
  | cons x xs ih =>
    intro c c' written
    obtain ⟨own, others⟩ := List.forall_mem_cons.mp each
    rw [writeItems] at written
    obtain ⟨d, first, rest⟩ := bind_ok written
    obtain ⟨grown, gap⟩ := own (some depth) .item _ d nofun first
    obtain ⟨grown', gap'⟩ := ih others rest
    constructor
    · have marked := (c.prefix_indentTo depth).trans (Canvas.prefix_mark _ "-" false true)
      exact (marked.trans grown).trans grown'
    · rintro ⟨y, among, spread⟩
      rcases List.mem_cons.mp among with rfl | later
      · exact (gap spread).mono grown'
      · exact gap' ⟨y, later, spread⟩

theorem prefix_openKey (depth : Nat) (key : Value) (c : Canvas) :
    c.text <+: (openKey depth key c).text := by
  rw [openKey]
  split
  · exact c.prefix_indentTo depth
  · exact (c.prefix_indentTo depth).trans (Canvas.prefix_mark _ "?" false true)

theorem prefix_closeKey (depth : Nat) (key : Value) (c : Canvas) :
    c.text <+: (closeKey depth key c).text := by
  rw [closeKey]
  split
  · exact c.prefix_close ":"
  · exact (c.prefix_indentTo depth).trans (Canvas.prefix_mark _ ":" false true)

theorem isSimpleKey_of_keyPlace {key : Value} (inner : keyPlace key = .simpleKey) :
    isSimpleKey key := by
  rw [keyPlace] at inner
  split at inner
  · assumption
  · cases inner

theorem writeEntries_adds {es : List (Value × Value)} (each : ∀ e ∈ es, Adds e.1 ∧ Adds e.2)
    (depth : Nat) :
    ∀ {c c' : Canvas}, writeEntries depth es c = .ok c' →
      c.text <+: c'.text ∧
        ((∃ e ∈ es, ¬ (e.1.IsCompact ∧ e.2.IsCompact)) → c'.HasGap) := by
  induction es with
  | nil =>
    intro c c' written
    rw [writeEntries] at written
    cases written
    exact ⟨List.prefix_rfl, by simp⟩
  | cons e es ih =>
    intro c c' written
    obtain ⟨key, value⟩ := e
    obtain ⟨⟨ownKey, own⟩, others⟩ := List.forall_mem_cons.mp each
    rw [writeEntries] at written
    obtain ⟨d, keyed, rest⟩ := bind_ok written
    obtain ⟨d', valued, rest⟩ := bind_ok rest
    obtain ⟨grownKey, gapKey⟩ := ownKey (some depth) _ _ d isSimpleKey_of_keyPlace keyed
    obtain ⟨grown, gap⟩ := own (some depth) .entry _ d' nofun valued
    obtain ⟨grown', gap'⟩ := ih others rest
    have closed := (prefix_closeKey depth key d).trans grown
    constructor
    · exact (((prefix_openKey depth key c).trans grownKey).trans closed).trans grown'
    · rintro ⟨x, among, spread⟩
      rcases List.mem_cons.mp among with rfl | later
      · rcases Classical.not_and_iff_not_or_not.mp spread with inKey | inValue
        · exact (gapKey inKey).mono (closed.trans grown')
        · exact (gap inValue).mono grown'
      · exact gap' ⟨x, later, spread⟩

theorem prefix_brackets (opening closing : String) (c : Canvas) :
    c.text <+: ((c.mark opening true false).close closing).text :=
  (c.prefix_mark opening true false).trans (Canvas.prefix_close _ closing)

/-- Plain data adds to what has been written, and it adds a gap if a text in it is spread. -/
theorem adds {v : Value} (data : v.IsPlainData) : Adds v := by
  induction data with
  | null => exact adds_leaf .null rfl
  | bool b => exact adds_leaf (.bool b) rfl
  | int short => exact adds_leaf (.int short) rfl
  | text s => exact adds_leaf (.text s) rfl
  | @list xs _ ih =>
    intro depth place c c' _ written
    simp only [isCompact_list, not_forall, exists_prop]
    cases xs with
    | nil =>
      rw [writeNode] at written
      cases written
      exact ⟨prefix_brackets "[" "]" c, by simp⟩
    | cons x xs =>
      rw [writeNode] at written
      exact writeItems_adds ih _ written
  | @dict es keys _ ih =>
    intro depth place c c' _ written
    have each : ∀ e ∈ es, Adds e.1 ∧ Adds e.2 := by
      intro e among
      obtain ⟨s, key⟩ := keys e among
      exact ⟨by rw [key]; exact adds_leaf (.text s) rfl, ih e among⟩
    simp only [isCompact_dict, not_forall, exists_prop]
    cases es with
    | nil =>
      rw [writeNode] at written
      cases written
      exact ⟨prefix_brackets "\x7b" "\x7d" c, by simp⟩
    | cons e es =>
      rw [writeNode] at written
      exact writeEntries_adds each _ written

/-! ## Documents -/

theorem openEnded_indentTo (depth : Nat) (c : Canvas) :
    (c.indentTo depth).openEnded = c.openEnded := by
  rw [Canvas.indentTo]
  split <;> split <;> rfl

/-- At the start of a line nothing but a line feed is added. -/
theorem text_indentTo_zero (c : Canvas) :
    (c.indentTo 0).text = c.text ∨ (c.indentTo 0).text = c.text ++ ['\n'] := by
  rw [Canvas.indentTo]
  split
  · refine .inr ?_
    rw [if_neg (Nat.not_lt_zero _), Canvas.text_lineBreak]
  · refine .inl ?_
    rw [if_neg (Nat.not_lt_zero _)]

/-- What is trimmed from the end of a text is behind anything that is not blank. -/
theorem trimEnd_append {d : Char} (ink : Text.isBlank d = false) (front rest : List Char) :
    Text.trimEnd Text.isBlank (front ++ d :: rest) =
      front ++ d :: Text.trimEnd Text.isBlank rest := by
  have kept : (d :: front.reverse).dropWhile Text.isBlank = d :: front.reverse :=
    List.dropWhile_cons_of_neg (by simp [ink])
  have whole : (front ++ d :: rest).reverse = rest.reverse ++ d :: front.reverse := by simp
  rw [Text.trimEnd, Text.trimEnd, whole, List.dropWhile_append, kept]
  cases rest.reverse.dropWhile Text.isBlank with
  | nil => simp
  | cons e es => simp

/-- A mapping of plain data is written in lines that end with ink. -/
theorem write_lines {e : Value × Value} {es : Entries} (data : (Value.dict (e :: es)).IsPlainData)
    (compact : (Value.dict (e :: es)).IsCompact) :
    ∃ done line, write (.dict (e :: es)) = .ok (String.ofList (ended done ++ line)) ∧
      (∀ l ∈ done, Text.IsInked l) ∧ Text.IsInked line := by
  cases data with
  | dict keys each =>
    have values : ∀ d ∈ e :: es, EndsWithInk d.2 :=
      fun d among => endsWithInk (each d among) (isCompact_dict.mp compact d among).2
    have start : (Canvas.indentTo 0 {}).IsRuled false :=
      ⟨[], [], ⟨rfl, List.forall_mem_nil _, List.forall_mem_nil _, rfl⟩, nofun⟩
    obtain ⟨c, written, done, line, holds, ends⟩ :=
      writeEntries_ruled (keys_endWithInk keys compact) values 0 start nofun
    refine ⟨done, line, ?_, ?_, isInked_of_endsInk holds.line (ends rfl)⟩
    · have closed : (c.indentTo 0).openEnded = false := by rw [openEnded_indentTo, holds.closed]
      have whole : EndsInk c.text := by
        rw [holds.text]
        exact (ends rfl).append _
      have trimmed : Text.trimEnd Text.isBlank (c.indentTo 0).text = c.text := by
        obtain ⟨front, d, last, ink⟩ := whole
        have trims := trimEnd_append (isBlank_of_isInk ink) front
        rcases text_indentTo_zero c with text | text
        · rw [text, last]
          exact trims []
        · rw [text, last, List.append_assoc]
          exact trims ['\n']
      rw [write, writeNode]
      change (writeEntries 0 (e :: es) {} >>= _) = _
      rw [written]
      change Except.ok (String.ofList (Text.trimEnd Text.isBlank
        (if (c.indentTo 0).openEnded then _ else c.indentTo 0).text)) = _
      rw [closed, if_neg Bool.false_ne_true, trimmed, holds.text]
    · intro l among
      obtain ⟨printed, ink⟩ := holds.done l among
      exact isInked_of_endsInk printed ink

/-- A gap is not at the end of a text, so it stays when the text is trimmed. -/
theorem Canvas.HasGap.trimEnd {c : Canvas} (gap : c.HasGap) :
    ['\n', '\n'] <:+: Text.trimEnd Text.isBlank c.text := by
  obtain ⟨between, e, ink, above, below, text⟩ := gap
  have whole : c.text = (above ++ '\n' :: '\n' :: between) ++ e :: below := by
    rw [← text]
    simp
  rw [whole, trimEnd_append ink]
  exact ⟨above, between ++ e :: Text.trimEnd Text.isBlank below, by simp⟩

/-- A document of plain data with a spread text in it has two line breaks in a row. -/
theorem write_breaks {v : Value} (data : v.IsPlainData) (spread : ¬ v.IsCompact) {s : String}
    (written : write v = .ok s) : ['\n', '\n'] <:+: s.toList := by
  rw [write] at written
  obtain ⟨c, node, rest⟩ := bind_ok written
  have alone : NodePlace.root = .simpleKey → isSimpleKey v := fun same => absurd same (by decide)
  have gap := (adds data none .root {} c alone node).2 spread
  have ended : (c.indentTo 0).text <+: (if (c.indentTo 0).openEnded then
      ((c.indentTo 0).mark "..." false false).indentTo 0 else c.indentTo 0).text := by
    split
    · exact (Canvas.prefix_mark _ "..." false false).trans (Canvas.prefix_indentTo _ 0)
    · exact List.prefix_rfl
  have trimmed := (gap.mono ((c.prefix_indentTo 0).trans ended)).trimEnd
  cases rest
  rwa [String.toList_ofList]

/-- Plain data can be written. -/
theorem write_isOk {v : Value} (data : v.IsPlainData) : ∃ s, write v = .ok s := by
  rw [← errorOf?_eq_none, write_fault, List.findSome?_eq_none_iff]
  have leaf {v : Value} (known : v.parts = [v]) (fault : v.leafFault? = none) :
      ∀ part ∈ v.parts, part.leafFault? = none := by
    rw [known]
    exact List.forall_mem_singleton.mpr fault
  induction data with
  | null | bool _ | text _ => exact leaf rfl rfl
  | int short => exact leaf rfl (by simp [leafFault?, isOpaque, short])
  | list _ ih =>
    intro part among
    obtain ⟨x, inside, among⟩ := mem_itemParts.mp among
    exact ih x inside part among
  | dict keys _ ih =>
    intro part among
    obtain ⟨e, inside, inKey | inValue⟩ := mem_entryParts.mp among
    · obtain ⟨s, key⟩ := keys e inside
      rw [key] at inKey
      cases List.mem_singleton.mp inKey
      rfl
    · exact ih e inside part inValue

end SessionScript.Yaml
