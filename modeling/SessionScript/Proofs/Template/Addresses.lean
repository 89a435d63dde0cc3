import SessionScript.Proofs.Template.Interpolation
import SessionScript.Proofs.Text.Digits

/-!
# Addresses of values

An address says step by step where a value is among the variables: under a key of a mapping, or at
an index of a sequence. The text of an address is a path, and each path is the text of an address. A
path is resolved to the value at its address, and to null if nothing is there.
-/

namespace SessionScript

namespace Text

/-- A text is what is left of it without blanks at its ends, between blanks. -/
theorem exists_blanks (p : Char → Bool) (cs : List Char) :
    ∃ before after, (∀ c ∈ before, p c) ∧ (∀ c ∈ after, p c) ∧
      cs = before ++ (trimBoth p cs ++ after) := by
  refine ⟨cs.takeWhile p, (cs.dropWhile p).rtakeWhile p, ?_, ?_, ?_⟩
  · intro c among
    exact List.mem_takeWhile_imp among
  · intro c among
    exact List.mem_rtakeWhile_imp among
  · have back : trimBoth p cs ++ (cs.dropWhile p).rtakeWhile p = cs.dropWhile p :=
      List.rdropWhile_append_rtakeWhile
    rw [back, List.takeWhile_append_dropWhile]

/-- Blanks around a text that has none are all that is cut off. -/
theorem trimBoth_append {p : Char → Bool} {before cs after : List Char}
    (front : ∀ c ∈ before, p c) (free : ∀ c ∈ cs, p c = false) (back : ∀ c ∈ after, p c) :
    trimBoth p (before ++ (cs ++ after)) = cs := by
  have behind : ∀ c ∈ after.reverse, p c := by
    intro c among
    exact back c (List.mem_reverse.mp among)
  cases cs with
  | nil =>
    have blank : ∀ c ∈ before ++ ([] ++ after), p c := by
      intro c among
      rcases List.mem_append.mp among with among | among
      · exact front c among
      · exact back c among
    rw [trimBoth, List.dropWhile_eq_nil_iff.mpr blank]
    rfl
  | cons c cs =>
    have kept := trimBoth_eq free
    have first : p c = false := free c List.mem_cons_self
    rw [trimBoth, List.dropWhile_append_of_pos front, List.cons_append,
      List.dropWhile_cons_of_neg (by simp [first]), ← List.cons_append, List.reverse_append,
      List.dropWhile_append_of_pos behind]
    rwa [trimBoth, List.dropWhile_cons_of_neg (by simp [first])] at kept

end Text

namespace Template.Path

/-! ## Addresses -/

/-- A step of an address behind its first key: a key of a mapping, or an index of a sequence, which
    is written with some zeros in front of its digits. -/
inductive Part where
  | key (word : List Char)
  | index (zeros n : Nat)

def Part.text : Part → List Char
  | .key word => word
  | .index zeros n => List.replicate zeros '0' ++ Text.digits 10 n

/-- A step from a value to one that it holds. -/
inductive Part.Enters : Part → Value → Value → Prop where
  | key {word : List Char} {es : Entries} {v : Value}
    (found : es.get? (.text (String.ofList word)) = some v) : Enters (.key word) (.dict es) v
  | item {zeros n : Nat} {vs : List Value} {v : Value} (found : vs[n]? = some v) :
    Enters (.index zeros n) (.list vs) v
  | member {zeros n : Nat} {vs : List Value} {v : Value} (found : vs[n]? = some v) :
    Enters (.index zeros n) (.tuple vs) v

/-- Steps one after the other. -/
inductive Part.Reaches : List Part → Value → Value → Prop where
  | here (v : Value) : Reaches [] v v
  | step {part : Part} {parts : List Part} {v u w : Value} (first : part.Enters v u)
    (rest : Reaches parts u w) : Reaches (part :: parts) v w

/-- An address: the name of a variable, and the steps into its value. -/
structure Address where
  name : List Char
  parts : List Part

namespace Address

/-- The name and the steps as they are written. -/
def segments (a : Address) : List (List Char) := a.name :: a.parts.map Part.text

/-- The text of an address has a dot between each two segments. -/
def text (a : Address) : List Char := ['.'].intercalate a.segments

/-- A name is a letter with word characters behind it, and a key is one or more of them. -/
structure IsWritten (a : Address) : Prop where
  name : ∃ c cs, a.name = c :: cs ∧ Text.isAsciiLetter c ∧ ∀ d ∈ cs, Text.isAsciiWord d
  keys : ∀ word, .key word ∈ a.parts → word ≠ [] ∧ ∀ c ∈ word, Text.isAsciiWord c

/-- A text is an address, but for blanks around it. -/
def Spelled (a : Address) (cs : List Char) : Prop :=
  a.IsWritten ∧ ∃ before after, (∀ c ∈ before, Text.isBlank c) ∧ (∀ c ∈ after, Text.isBlank c) ∧
    cs = before ++ (a.text ++ after)

/-- The value at an address among variables. -/
def Holds (a : Address) (vars : Entries) (v : Value) : Prop :=
  Part.Reaches (.key a.name :: a.parts) (.dict vars) v

end Address

/-! ## Addresses and segments -/

theorem mem_intercalate {α : Type} {a b : α} {xss : List (List α)}
    (among : a ∈ [b].intercalate xss) : a = b ∨ ∃ xs ∈ xss, a ∈ xs := by
  induction xss with
  | nil => cases among
  | cons xs xss ih =>
    cases xss with
    | nil =>
      rw [List.intercalate_singleton] at among
      exact .inr ⟨xs, List.mem_cons_self, among⟩
    | cons ys xss =>
      rw [List.intercalate_cons_cons, List.append_assoc] at among
      rcases List.mem_append.mp among with here | among
      · exact .inr ⟨xs, List.mem_cons_self, here⟩
      · rcases List.mem_cons.mp among with same | later
        · exact .inl same
        · rcases ih later with same | ⟨zs, inside, held⟩
          · exact .inl same
          · exact .inr ⟨zs, List.mem_cons_of_mem _ inside, held⟩

/-- An index is written as a word, too. -/
theorem Part.isWord_index (zeros n : Nat) :
    (Part.index zeros n).text ≠ [] ∧ ∀ c ∈ (Part.index zeros n).text, Text.isAsciiWord c := by
  constructor
  · simp [text, Text.digits_ne_nil]
  · intro c among
    rcases List.mem_append.mp among with zero | digit
    · rw [List.eq_of_mem_replicate zero]
      decide
    · have word : ∀ d < 10, Text.isAsciiWord (Text.digitChar d) := by decide
      exact List.all_eq_true.mp (Text.digits_all word n) c digit

/-- The segments of an address as it is written are those of a path. -/
theorem Address.IsWritten.isValid {a : Address} (written : a.IsWritten) :
    isValid a.segments := by
  obtain ⟨c, cs, name, letter, words⟩ := written.name
  rw [segments, Path.isValid, Bool.and_eq_true, List.all_eq_true]
  constructor
  · rw [name, isName, Bool.and_eq_true, List.all_eq_true]
    exact ⟨letter, words⟩
  · intro s among
    obtain ⟨part, inside, rfl⟩ := List.mem_map.mp among
    have word : part.text ≠ [] ∧ ∀ c ∈ part.text, Text.isAsciiWord c := by
      cases part with
      | key word => exact written.keys word inside
      | index zeros n => exact Part.isWord_index zeros n
    rw [Bool.and_eq_true, List.all_eq_true]
    exact ⟨by simpa using word.1, word.2⟩

/-- An address is as it is written if its segments are those of a path. -/
theorem Address.isWritten_of_isValid {a : Address} (valid : Path.isValid a.segments) :
    a.IsWritten := by
  rw [segments, Path.isValid, Bool.and_eq_true, List.all_eq_true] at valid
  constructor
  · exact exists_of_isName valid.1
  · intro word among
    have known : word ∈ a.parts.map Part.text := List.mem_map.mpr ⟨.key word, among, rfl⟩
    have kept := valid.2 word known
    rw [Bool.and_eq_true, List.all_eq_true] at kept
    exact ⟨by simpa using kept.1, kept.2⟩

/-- There are no blanks in a path. -/
theorem isBlank_of_isValid {segments : List (List Char)} (valid : isValid segments) :
    ∀ c ∈ ['.'].intercalate segments, Text.isBlank c = false := by
  have words : ∀ s ∈ segments, ∀ c ∈ s, Text.isAsciiWord c := by
    cases segments with
    | nil => exact List.forall_mem_nil _
    | cons name ss =>
      rw [Path.isValid, Bool.and_eq_true, List.all_eq_true] at valid
      refine List.forall_mem_cons.mpr ⟨isAsciiWord_of_isName valid.1, fun s among => ?_⟩
      have word := valid.2 s among
      rw [Bool.and_eq_true, List.all_eq_true] at word
      exact word.2
  intro c among
  rcases mem_intercalate among with rfl | ⟨s, inside, among⟩
  · decide
  · exact Text.isBlank_of_isAsciiWord (words s inside c among)

/-- The text of an address is read as its segments, and no other text is. -/
theorem parse?_eq_some_segments {a : Address} {cs : List Char} :
    parse? cs = some ⟨a.segments⟩ ↔ a.Spelled cs := by
  rw [parse?_eq_some]
  constructor
  · rintro ⟨valid, joined⟩
    obtain ⟨before, after, front, back, whole⟩ := Text.exists_blanks Text.isBlank cs
    refine ⟨Address.isWritten_of_isValid valid, before, after, front, back, ?_⟩
    rw [Address.text, joined]
    exact whole
  · rintro ⟨written, before, after, front, back, rfl⟩
    have valid := written.isValid
    exact ⟨valid, (Text.trimBoth_append front (isBlank_of_isValid valid) back).symm⟩

/-! ## Steps and segments -/

theorem Part.Enters.leads {part : Part} {ss : List (List Char)} {v u w : Value}
    (enters : part.Enters v u) (rest : Leads ss u w) : Leads (part.text :: ss) v w := by
  cases enters with
  | key found => exact .key found rest
  | item found => exact .item (Text.number?_eq_some_iff.mpr ⟨_, rfl⟩) found rest
  | member found => exact .member (Text.number?_eq_some_iff.mpr ⟨_, rfl⟩) found rest

/-- Where steps reach a value, their segments lead to it. -/
theorem Part.Reaches.leads {parts : List Part} {v w : Value} (reaches : Reaches parts v w) :
    Leads (parts.map Part.text) v w := by
  induction reaches with
  | here v => exact .here v
  | step first _ ih => exact first.leads ih

/-- Where segments lead to a value, they are those of steps that reach it. -/
theorem exists_reaches {ss : List (List Char)} {v w : Value} (leads : Leads ss v w) :
    ∃ parts, ss = parts.map Part.text ∧ Part.Reaches parts v w := by
  induction leads with
  | here v => exact ⟨[], rfl, .here v⟩
  | @key s ss es v w found _ ih =>
    obtain ⟨parts, rfl, rest⟩ := ih
    exact ⟨.key s :: parts, rfl, .step (.key found) rest⟩
  | item number found _ ih =>
    obtain ⟨parts, rfl, rest⟩ := ih
    obtain ⟨zeros, rfl⟩ := Text.number?_eq_some_iff.mp number
    exact ⟨.index zeros _ :: parts, rfl, .step (.item found) rest⟩
  | member number found _ ih =>
    obtain ⟨parts, rfl, rest⟩ := ih
    obtain ⟨zeros, rfl⟩ := Text.number?_eq_some_iff.mp number
    exact ⟨.index zeros _ :: parts, rfl, .step (.member found) rest⟩

/-- The texts of addresses are paths, and there are no others. A path is resolved to the value that
    an address of this text has among the variables; if no value has one, to null. -/
theorem resolve_addressed (vars : Entries) (cs : List Char) :
    ((parse? cs).isSome ↔ ∃ a : Address, a.Spelled cs) ∧
      ∀ p, parse? cs = some p →
        (∀ (a : Address) (v : Value), a.Spelled cs → a.Holds vars v → p.resolve vars = v) ∧
        ((¬ ∃ (a : Address) (v : Value), a.Spelled cs ∧ a.Holds vars v) →
          p.resolve vars = .null) := by
  refine ⟨⟨?_, ?_⟩, fun p parsed => ⟨?_, ?_⟩⟩
  · intro some
    obtain ⟨⟨segments⟩, parsed⟩ := Option.isSome_iff_exists.mp some
    cases segments with
    | nil =>
      obtain ⟨valid, -⟩ := parse?_eq_some.mp parsed
      cases valid
    | cons name ss =>
      have keys : (ss.map Part.key).map Part.text = ss := by
        rw [List.map_map]
        exact List.map_id ss
      refine ⟨⟨name, ss.map .key⟩, parse?_eq_some_segments.mp ?_⟩
      rw [parsed, Address.segments, keys]
  · rintro ⟨a, spelled⟩
    rw [parse?_eq_some_segments.mpr spelled]
    rfl
  · intro a v spelled holds
    rw [parse?_eq_some_segments.mpr spelled] at parsed
    cases parsed
    exact follow_of_leads holds.leads
  · intro nowhere
    refine follow_of_not_leads ?_
    rintro ⟨w, leads⟩
    obtain ⟨segments⟩ := p
    obtain ⟨parts, rfl, reaches⟩ := exists_reaches leads
    -- The variables are a mapping, which only a key leads into.
    cases reaches with
    | here =>
      obtain ⟨valid, -⟩ := parse?_eq_some.mp parsed
      cases valid
    | step first rest =>
      cases first with
      | key found =>
        exact nowhere ⟨⟨_, _⟩, w, parse?_eq_some_segments.mp parsed, .step (.key found) rest⟩

/-- A path through mappings and sequences: digits are an index of a sequence, whatever zeros stand
    in front of them, and a key of a mapping. -/
theorem resolve_addressed_of_digits :
    let x : Value := .text "x"
    let vars : Entries := [(.text "user", .dict [(.text "1", .tuple [.null, .list [.int 5, x]])])]
    let a : Address := ⟨"user".toList, [.key ['1'], .index 2 1, .index 0 1]⟩
    a.Spelled " user.1.001.1\n".toList ∧
      ∃ p, parse? " user.1.001.1\n".toList = some p ∧ p.resolve vars = x := by
  intro x vars a
  have spelled : a.Spelled " user.1.001.1\n".toList := by
    refine ⟨Address.isWritten_of_isValid (by decide), [' '], ['\n'], ?_, ?_, by decide⟩
    · exact List.forall_mem_singleton.mpr rfl
    · exact List.forall_mem_singleton.mpr rfl
  have holds : a.Holds vars x :=
    .step (.key rfl) (.step (.key rfl) (.step (.member rfl) (.step (.item rfl) (.here x))))
  obtain ⟨valid, resolved⟩ := resolve_addressed vars " user.1.001.1\n".toList
  obtain ⟨p, parsed⟩ := Option.isSome_iff_exists.mp (valid.mpr ⟨a, spelled⟩)
  exact ⟨spelled, p, parsed, (resolved p parsed).1 a x spelled holds⟩

end Template.Path

end SessionScript
