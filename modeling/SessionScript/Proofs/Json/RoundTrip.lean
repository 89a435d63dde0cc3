import Mathlib.Data.List.Forall2
import SessionScript.Proofs.Effect
import SessionScript.Proofs.Json.Number

/-!
# JSON text read back

The JSON text of a value is read back as the tree of that value, whatever texts it holds: every
escape is undone, and no text reaches beyond its quotes. Only a value with a number that is not
finite has a text that is no JSON.
-/

namespace SessionScript.Json

/-! ## Strings -/

/-- The code points of a text are those of its characters. -/
theorem characters?_toNat (cs : List Char) : characters? (cs.map Char.toNat) = some cs := by
  induction cs with
  | nil => rfl
  | cons c cs ih =>
    -- no character is half of another one
    have whole : isLeading c.toNat = false ∧ isTrailing c.toNat = false := by
      have valid : c.toNat < 0xD800 ∨ 0xDFFF < c.toNat ∧ c.toNat < 0x110000 := c.valid
      simp only [isLeading, isTrailing, Bool.and_eq_false_iff, decide_eq_false_iff_not]
      omega
    have same : Char.ofNat c.toNat = c := Char.ofNat_toNat c
    unfold characters?
    simp [whole, ih, same]

/-- Control characters have four hexadecimal digits. -/
theorem hexPad_control {n : Nat} (control : n < 0x20) :
    ∃ a b c d, Text.hexPad 4 n = [a, b, c, d] ∧ Text.number? 16 [a, b, c, d] = some n := by
  have all : ∀ n < 0x20,
      (Text.hexPad 4 n).length = 4 ∧ Text.number? 16 (Text.hexPad 4 n) = some n := by decide
  obtain ⟨four, value⟩ := all n control
  match digits : Text.hexPad 4 n, four with
  | [a, b, c, d], _ => exact ⟨a, b, c, d, rfl, digits ▸ value⟩

theorem stringFrom_escape (points : List Nat) {e : Char} {n : Nat} (escape : escaped? e = some n)
    (more : List Char) : stringFrom points ('\\' :: e :: more) = stringFrom (points ++ [n]) more := by
  have other : e ≠ 'u' := by
    rintro rfl
    cases escape
  simp [stringFrom, other, escape]

theorem stringFrom_plain (points : List Nat) {c : Char} (quote : ¬ c == '"')
    (backslash : ¬ c == '\\') (plain : ¬ c.toNat < 0x20) (more : List Char) :
    stringFrom points (c :: more) = stringFrom (points ++ [c.toNat]) more := by
  have other : c ≠ '\\' := by simpa using backslash
  rw [stringFrom]
  · simp [quote, other, plain]
  all_goals simp [other]

/-- A character that is escaped if it has to be is read as itself. -/
theorem stringFrom_escapeChar (points : List Nat) (c : Char) (more : List Char) :
    stringFrom points (escapeChar c ++ more) = stringFrom (points ++ [c.toNat]) more := by
  have named {e : Char} {n : Nat} (code : c.toNat = n) (escape : escaped? e = some n) :
      stringFrom points (['\\', e] ++ more) = stringFrom (points ++ [c.toNat]) more :=
    code ▸ stringFrom_escape points escape more
  unfold escapeChar
  split
  · exact named (congrArg Char.toNat (eq_of_beq ‹_›)) rfl
  split
  · exact named (congrArg Char.toNat (eq_of_beq ‹_›)) rfl
  split
  · exact named (congrArg Char.toNat (eq_of_beq ‹_›)) rfl
  split
  · exact named (congrArg Char.toNat (eq_of_beq ‹_›)) rfl
  split
  · exact named (congrArg Char.toNat (eq_of_beq ‹_›)) rfl
  split
  · exact named (eq_of_beq ‹_›) rfl
  split
  · exact named (eq_of_beq ‹_›) rfl
  split
  · rename_i control
    obtain ⟨a, b, c', d, digits, value⟩ := hexPad_control control
    rw [digits]
    simp [stringFrom, value]
  · rename_i quote backslash _ _ _ _ _ plain
    exact stringFrom_plain points quote backslash plain more

/-- The text between quotes is read as itself, whatever follows. -/
theorem tokensFrom_quote (s : String) (rest : List Char) :
    tokensFrom [] ((quote s).toList ++ rest) = (tokensFrom [] rest).map (.text s :: ·) := by
  have inside (cs : List Char) : ∀ points,
      stringFrom points (cs.flatMap escapeChar ++ '"' :: rest) =
        stringFrom (points ++ cs.map Char.toNat) ('"' :: rest) := by
    induction cs with
    | nil => simp
    | cons c cs ih =>
      intro points
      rw [List.flatMap_cons, List.append_assoc, stringFrom_escapeChar, ih]
      simp
  have opened : tokensFrom [] ((quote s).toList ++ rest) =
      stringFrom [] (s.toList.flatMap escapeChar ++ '"' :: rest) := by
    simp [quote, tokensFrom]
  have closed : stringFrom (s.toList.map Char.toNat) ('"' :: rest) =
      (tokensFrom [] rest).map (.text s :: ·) := by
    rw [stringFrom]
    · simp [characters?_toNat]
    all_goals simp
  rw [opened, inside, List.nil_append, closed]

/-! ## Tokens -/

/-- A mark ends a word and is a token itself. -/
theorem tokensFrom_mark {c : Char} (mark : isMark c) (word cs : List Char) :
    tokensFrom word (c :: cs) = (tokensFrom [] cs).map fun ts => flush word (.mark c :: ts) := by
  have known : c = '[' ∨ c = ']' ∨ c = '\x7b' ∨ c = '\x7d' ∨ c = ',' ∨ c = ':' := by
    simpa [isMark, or_assoc] using mark
  rcases known with rfl | rfl | rfl | rfl | rfl | rfl <;>
    simp [tokensFrom, isBlank, isMark]

/-- Marks may be followed by a space. -/
theorem tokensFrom_mark_space {c : Char} (mark : isMark c) (cs : List Char) :
    tokensFrom [] (c :: ' ' :: cs) = (tokensFrom [] cs).map (.mark c :: ·) := by
  have nothing : flush [] = id := rfl
  rw [tokensFrom_mark mark]
  simp [tokensFrom, isBlank, nothing]

/-- Whether a character may be part of a word. -/
def isWordPart (c : Char) : Bool := c != '"' && !isBlank c && !isMark c

theorem tokensFrom_append (cs rest : List Char) :
    ∀ word, cs.all isWordPart → tokensFrom word (cs ++ rest) = tokensFrom (word ++ cs) rest := by
  induction cs with
  | nil => simp
  | cons c cs ih =>
    intro word parts
    simp only [List.all_cons, Bool.and_eq_true, isWordPart, bne_iff_ne, Bool.not_eq_true'] at parts
    obtain ⟨⟨⟨quote, blank⟩, mark⟩, parts⟩ := parts
    have step := ih (word ++ [c]) (by simpa [isWordPart] using parts)
    simp [tokensFrom, quote, blank, mark, step]

/-- What may follow a tree: the end of the text or a mark. -/
def IsDelimited (rest : List Char) : Prop := ∀ c cs, rest = c :: cs → isMark c

/-- A text is read as a tree wherever one may stand, or as none: its tokens do not run into what
    follows, and reading them completes the tree, or fails if there is none. -/
structure Spells (text : List Char) (tokens : List Token) (t : Option Tree) : Prop where
  scan : ∀ rest, IsDelimited rest →
    tokensFrom [] (text ++ rest) = (tokensFrom [] rest).map (tokens ++ ·)
  parse : ∀ fs more, beforeTree fs (tokens ++ more) = t.bind fun t => afterTree t fs more
  opens : ∀ more others, tokens ++ more ≠ .mark ']' :: others

/-- A text is read as a tree, or as none. -/
def Reads (s : String) (t : Option Tree) : Prop := ∃ tokens, Spells s.toList tokens t

/-- A word is read as its leaf, if it is one. -/
theorem reads_word {s : String} (parts : s.toList.all isWordPart) (ne : s.toList ≠ []) :
    Reads s (leaf? s.toList) := by
  refine ⟨[.word s.toList], ?_, ?_, by simp⟩
  · intro rest delimited
    rw [tokensFrom_append _ rest [] parts, List.nil_append]
    cases rest with
    | nil => simp [tokensFrom, flush, ne]
    | cons c cs =>
      have mark := delimited c cs rfl
      rw [tokensFrom_mark mark, tokensFrom_mark mark]
      cases tokensFrom [] cs <;> simp [flush, ne]
  · intro fs more
    cases leaf : leaf? s.toList <;> simp [beforeTree, leaf]

theorem reads_quote (s : String) : Reads (quote s) (some (.text s)) :=
  ⟨[.text s], fun rest _ => tokensFrom_quote s rest, fun fs more => by simp [beforeTree], by simp⟩

theorem isWordPart_of_isDigit {c : Char} (digit : isDigit c) : isWordPart c := by
  have other {d : Char} (none : isDigit d = false) : c ≠ d := by
    rintro rfl
    exact absurd digit (Bool.eq_false_iff.mp none)
  simp only [isWordPart, isBlank, isMark, Bool.and_eq_true, Bool.not_eq_true', Bool.or_eq_false_iff,
    bne_iff_ne, beq_eq_false_iff_ne]
  and_intros <;> exact other rfl

theorem digits_parts {ds : List Char} (digits : ds.all isDigit) : ds.all isWordPart :=
  List.all_eq_true.mpr fun c known => isWordPart_of_isDigit (List.all_eq_true.mp digits c known)

/-- Every character of an integer is part of a word. -/
theorem ofInt_parts (i : Int) : (Text.ofInt i).toList.all isWordPart := by
  have digits := digits_parts (digits_all_isDigit i.natAbs)
  by_cases negative : i < 0
  · have minus : isWordPart '-' := by decide
    simpa [Text.ofInt, Text.ofNat, negative, minus] using digits
  · simpa [Text.ofInt, Text.ofNat, negative] using digits

/-- Every character of a number is part of a word. -/
theorem Numeral.Valid.text_parts {n : Numeral} (valid : n.Valid) : n.text.all isWordPart := by
  have point : isWordPart '.' := by decide
  have fraction : n.fraction.all isWordPart := by
    rw [Numeral.fraction]
    split
    · rfl
    · rw [List.all_cons, point, digits_parts valid.part]
      rfl
  have tail : n.tail.all isWordPart := by
    rw [Numeral.tail]
    split
    · rename_i e _
      obtain ⟨c, ds, text, signed, digits, -⟩ := Numeral.exponentText_digits e
      have letter : isWordPart 'e' := by decide
      have sign : isWordPart c := by
        rcases signed with rfl | rfl <;> decide
      rw [text, List.all_cons, List.all_cons, letter, sign, digits_parts digits]
      rfl
    · rfl
  rw [Numeral.text, List.all_append, List.all_append, digits_parts valid.whole, fraction, tail]
  rfl

/-- Every character of a binary number is part of a word, and there are some. -/
theorem render_parts (x : Binary64) :
    (NumberLayout.json.render x).toList.all isWordPart ∧
      (NumberLayout.json.render x).toList ≠ [] := by
  by_cases finite : x.isFinite
  · obtain ⟨n, valid, text⟩ := render_finite finite
    have minus : isWordPart '-' := by decide
    have ne := valid.whole_ne
    rw [text]
    split
    · rw [List.all_cons, minus, valid.text_parts]
      exact ⟨rfl, List.cons_ne_nil _ _⟩
    · exact ⟨valid.text_parts, by simp [Numeral.text, ne]⟩
  · have names : ∀ name ∈ ["NaN", "Infinity", "-Infinity"],
        name.toList.all isWordPart ∧ name.toList ≠ [] := by decide
    exact names _ (render_infinite finite)

theorem ofInt_ne_nil (i : Int) : (Text.ofInt i).toList ≠ [] := by
  intro none
  have number := number?_ofInt i
  rw [none] at number
  cases number

theorem reads_ofInt (i : Int) : Reads (Text.ofInt i) (some (.int i)) := by
  have reads := reads_word (ofInt_parts i) (ofInt_ne_nil i)
  rwa [leaf?, number?_ofInt i] at reads

theorem reads_float (x : Binary64) :
    Reads (NumberLayout.json.render x) (number? (NumberLayout.json.render x).toList) := by
  obtain ⟨parts, ne⟩ := render_parts x
  have reads := reads_word parts ne
  have leaf : leaf? (NumberLayout.json.render x).toList =
      number? (NumberLayout.json.render x).toList := by
    by_cases finite : x.isFinite
    · rw [← number?_render, Option.isSome_iff_exists] at finite
      obtain ⟨t, number⟩ := finite
      rw [leaf?, number]
      rfl
    · have names : ∀ name ∈ ["NaN", "Infinity", "-Infinity"],
          constant? name.toList = none := by decide
      rw [leaf?, names _ (render_infinite finite)]
      cases number? (NumberLayout.json.render x).toList <;> rfl
  rwa [leaf] at reads

/-! ## What is scanned alone -/

theorem isDelimited_mark {c : Char} (mark : isMark c) (cs : List Char) :
    IsDelimited (c :: cs) := by
  rintro c' cs' same
  obtain ⟨rfl, -⟩ := List.cons.inj same
  exact mark

/-- A text has some tokens, and they do not run into what follows. -/
def Scans (text : List Char) (tokens : List Token) : Prop :=
  ∀ rest, IsDelimited rest → tokensFrom [] (text ++ rest) = (tokensFrom [] rest).map (tokens ++ ·)

theorem Spells.scans {cs : List Char} {tokens : List Token} {t : Option Tree}
    (spells : Spells cs tokens t) : Scans cs tokens := spells.scan

namespace Scans

variable {cs : List Char} {tokens : List Token}

theorem nil : Scans [] [] := fun rest _ => by simp

/-- A key is scanned with the colon and the space after it. -/
theorem member (k : String) {s : String} (scans : Scans s.toList tokens) :
    Scans (quote k ++ ": " ++ s).toList (.text k :: .mark ':' :: tokens) := by
  intro rest delimited
  have colon : isMark ':' := by decide
  have parts : (quote k ++ ": " ++ s).toList ++ rest =
      (quote k).toList ++ ':' :: ' ' :: (s.toList ++ rest) := by simp
  rw [parts, tokensFrom_quote, tokensFrom_mark_space colon, scans rest delimited]
  simp [Function.comp_def]

/-- What is separated by commas is scanned one by one. -/
theorem separated {s s' : String} {texts : List String} {others : List Token}
    (first : Scans s.toList tokens)
    (rest : Scans (Value.commaSeparated (s' :: texts)).toList others) :
    Scans (Value.commaSeparated (s :: s' :: texts)).toList (tokens ++ .mark ',' :: others) := by
  intro more delimited
  have comma : isMark ',' := by decide
  have text : (Value.commaSeparated (s :: s' :: texts)).toList ++ more =
      s.toList ++ ',' :: ' ' :: ((Value.commaSeparated (s' :: texts)).toList ++ more) := by
    simp [Value.commaSeparated, String.intercalate_cons_cons]
  rw [text, first _ (isDelimited_mark comma _), tokensFrom_mark_space comma, rest more delimited]
  simp [Function.comp_def]

/-- What is scanned alone is scanned between marks. -/
theorem between {l r : Char} (opening : isMark l) (closing : isMark r) (scans : Scans cs tokens) :
    Scans (l :: (cs ++ [r])) (.mark l :: (tokens ++ [.mark r])) := by
  intro rest _
  have text : l :: (cs ++ [r]) ++ rest = l :: (cs ++ r :: rest) := by simp
  rw [text, tokensFrom_mark opening, scans _ (isDelimited_mark closing rest),
    tokensFrom_mark closing]
  simp [flush, Function.comp_def]

end Scans

/-! ## Containers -/

/-- Texts are read as trees one by one, or as none if one of them is. -/
inductive ReadsItems : List String → Option (List Tree) → Prop where
  | nil : ReadsItems [] (some [])
  | cons {s : String} {t : Option Tree} {texts : List String} {trees : Option (List Tree)}
    (first : Reads s t) (rest : ReadsItems texts trees) :
    ReadsItems (s :: texts) (do return (← t) :: (← trees))

/-- Items that are read are read as the items of an array up to its end. -/
theorem items_spell {texts : List String} {trees : Option (List Tree)}
    (reads : ReadsItems texts trees) (ne : texts ≠ []) :
    ∃ tokens : List Token,
      (∀ more others, tokens ++ more ≠ .mark ']' :: others) ∧
      Scans (Value.commaSeparated texts).toList tokens ∧
      ∀ done fs more, beforeTree (.array done :: fs) (tokens ++ .mark ']' :: more) =
        trees.bind fun trees => afterTree (.array (done ++ trees)) fs more := by
  induction reads with
  | nil => exact absurd rfl ne
  | @cons s t texts trees first rest ih =>
    obtain ⟨tokens, spells⟩ := first
    cases rest with
    | nil =>
      refine ⟨tokens, spells.opens, ?_, fun done fs more => ?_⟩
      · rw [Value.commaSeparated, String.intercalate_singleton]
        exact spells.scans
      · rw [spells.parse]
        cases t <;> simp [afterTree]
    | @cons s' t' texts trees next rest =>
      obtain ⟨tokens', -, scan, parse⟩ := ih (List.cons_ne_nil _ _)
      refine ⟨tokens ++ .mark ',' :: tokens', fun more others => ?_, spells.scans.separated scan,
        fun done fs more => ?_⟩
      · rw [List.append_assoc]
        exact spells.opens _ others
      · rw [List.append_assoc, spells.parse, List.cons_append]
        cases t with
        | none => rfl
        | some t =>
          rw [Option.bind_some, afterTree, parse]
          cases t' <;> cases trees <;> simp

/-- The text of an array is read as one. -/
theorem reads_array {texts : List String} {trees : Option (List Tree)}
    (reads : ReadsItems texts trees) :
    Reads ("[" ++ Value.commaSeparated texts ++ "]") (trees.map .array) := by
  have opening : isMark '[' := by decide
  have closing : isMark ']' := by decide
  have text : ("[" ++ Value.commaSeparated texts ++ "]").toList =
      '[' :: ((Value.commaSeparated texts).toList ++ [']']) := by simp
  rw [Reads, text]
  by_cases empty : texts = []
  · subst empty
    cases reads
    exact ⟨_, Scans.nil.between opening closing, fun fs more => by simp [beforeTree], by simp⟩
  · obtain ⟨tokens, opens, scan, parse⟩ := items_spell reads empty
    refine ⟨_, scan.between opening closing, fun fs more => ?_, by simp⟩
    rw [List.cons_append, List.append_assoc, beforeTree]
    · rw [List.singleton_append, parse, Option.bind_map]
      rfl
    · exact fun others same => opens _ others same

/-- Texts are read as members one by one, each a key in quotes and a tree, or as none if the tree
    of one of them is. -/
inductive ReadsMembers : List String → Option (List (String × Tree)) → Prop where
  | nil : ReadsMembers [] (some [])
  | cons (k : String) {text : String} {t : Option Tree} {texts : List String}
    {members : Option (List (String × Tree))} (first : Reads text t)
    (rest : ReadsMembers texts members) :
    ReadsMembers ((quote k ++ ": " ++ text) :: texts) (do return (k, ← t) :: (← members))

/-- Members that are read are read as the members of an object up to its end. -/
theorem members_spell {texts : List String} {members : Option (List (String × Tree))}
    (reads : ReadsMembers texts members) (ne : texts ≠ []) :
    ∃ (key : String) (tokens : List Token),
      Scans (Value.commaSeparated texts).toList (.text key :: .mark ':' :: tokens) ∧
      ∀ done fs more, beforeTree (.object done key :: fs) (tokens ++ .mark '\x7d' :: more) =
        members.bind fun members => afterTree (.object (done ++ members)) fs more := by
  induction reads with
  | nil => exact absurd rfl ne
  | @cons k text t texts members first rest ih =>
    obtain ⟨tokens, spells⟩ := first
    have member := spells.scans.member k
    cases rest with
    | nil =>
      refine ⟨k, tokens, ?_, fun done fs more => ?_⟩
      · rw [Value.commaSeparated, String.intercalate_singleton]
        exact member
      · rw [spells.parse]
        cases t <;> simp [afterTree]
    | @cons k' text' t' texts members next rest =>
      obtain ⟨key', tokens', scan, parse⟩ := ih (List.cons_ne_nil _ _)
      refine ⟨k, tokens ++ .mark ',' :: .text key' :: .mark ':' :: tokens', member.separated scan,
        fun done fs more => ?_⟩
      rw [List.append_assoc, spells.parse]
      simp only [List.cons_append]
      cases t with
      | none => rfl
      | some t =>
        rw [Option.bind_some, afterTree, parse]
        cases t' <;> cases members <;> simp

/-- The text of an object is read as one. -/
theorem reads_object {texts : List String} {members : Option (List (String × Tree))}
    (reads : ReadsMembers texts members) :
    Reads ("\x7b" ++ Value.commaSeparated texts ++ "\x7d") (members.map .object) := by
  have opening : isMark '\x7b' := by decide
  have closing : isMark '\x7d' := by decide
  have text : ("\x7b" ++ Value.commaSeparated texts ++ "\x7d").toList =
      '\x7b' :: ((Value.commaSeparated texts).toList ++ ['\x7d']) := by simp
  rw [Reads, text]
  by_cases empty : texts = []
  · subst empty
    cases reads
    exact ⟨_, Scans.nil.between opening closing, fun fs more => by simp [beforeTree], by simp⟩
  · obtain ⟨key, tokens, scan, parse⟩ := members_spell reads empty
    refine ⟨_, scan.between opening closing, fun fs more => ?_, by simp⟩
    simp only [List.cons_append, List.append_assoc]
    rw [beforeTree, List.nil_append, parse, Option.bind_map]
    rfl

/-! ## Values -/

mutual

/-- What the JSON text of a value is read as; nothing if it is no JSON. Keys become texts. -/
def readTree? : Value → Option Tree
  | .null => some .null
  | .bool b => some (.bool b)
  | .int i => some (.int i)
  | .float x => number? (NumberLayout.json.render x).toList
  | .text s => some (.text s)
  | .list xs | .tuple xs => (readTrees? xs).map .array
  | .dict es => (readMembers? es).map .object
  | _ => none

/-- The trees of items. -/
def readTrees? : List Value → Option (List Tree)
  | [] => some []
  | v :: vs => do return (← readTree? v) :: (← readTrees? vs)

/-- The members of entries. -/
def readMembers? : List (Value × Value) → Option (List (String × Tree))
  | [] => some []
  | (k, v) :: es => do return ((← (keyText k).toOption), ← readTree? v) :: (← readMembers? es)

end

mutual

/-- The text of a value is read as the tree of the value. -/
theorem write_reads : ∀ (v : Value) {s : String}, write v = .ok s → Reads s (readTree? v)
  | .null, s, written => by
    cases written
    exact reads_word (by decide) (by decide)
  | .bool b, s, written => by
    cases written
    cases b <;> exact reads_word (by decide) (by decide)
  | .int i, s, written => by
    rw [write, integerText] at written
    split at written
    · cases written
    · cases written
      exact reads_ofInt i
  | .float x, s, written => by
    cases written
    exact reads_float x
  | .text s, _, written => by
    cases written
    exact reads_quote s
  | .list xs, s, written | .tuple xs, s, written => by
    rw [write] at written
    obtain ⟨texts, items, same⟩ := bind_ok written
    cases same
    exact reads_array (writeItems_reads xs items)
  | .dict es, s, written => by
    rw [write] at written
    obtain ⟨texts, entries, same⟩ := bind_ok written
    cases same
    exact reads_object (writeEntries_reads es entries)
  | .bytes _, _, written | .set _, _, written | .date _, _, written | .datetime _, _, written
  | .object _, _, written | .error _ _, _, written | .other _ _, _, written => by
    cases written

theorem writeItems_reads : ∀ (vs : List Value) {texts : List String},
    writeItems vs = .ok texts → ReadsItems texts (readTrees? vs)
  | [], texts, written => by
    cases written
    exact .nil
  | v :: vs, texts, written => by
    rw [writeItems] at written
    obtain ⟨s, first, written⟩ := bind_ok written
    obtain ⟨texts, rest, same⟩ := bind_ok written
    cases same
    exact .cons (write_reads v first) (writeItems_reads vs rest)

theorem writeEntries_reads : ∀ (es : List (Value × Value)) {texts : List String},
    writeEntries es = .ok texts → ReadsMembers texts (readMembers? es)
  | [], texts, written => by
    cases written
    exact .nil
  | (k, v) :: es, texts, written => by
    rw [writeEntries] at written
    obtain ⟨key, known, written⟩ := bind_ok written
    obtain ⟨s, first, written⟩ := bind_ok written
    obtain ⟨texts, rest, same⟩ := bind_ok written
    cases same
    rw [readMembers?, known]
    exact .cons key (write_reads v first) (writeEntries_reads es rest)

end

/-- Reading undoes writing. -/
theorem read_write {v : Value} {s : String} (written : write v = .ok s) : read s = readTree? v := by
  obtain ⟨tokens, spells⟩ := write_reads v written
  have scanned := spells.scan [] (fun c cs same => by cases same)
  have parsed := spells.parse [] []
  rw [List.append_nil] at scanned parsed
  simp [read, scanned, tokensFrom, flush, parsed, afterTree]

/-! ## Values without numbers that have a fraction -/

mutual

/-- The tree of a value that JSON can hold without a fraction. -/
def treeOf? : Value → Option Tree
  | .null => some .null
  | .bool b => some (.bool b)
  | .int i => some (.int i)
  | .text s => some (.text s)
  | .list xs | .tuple xs => (treesOf? xs).map .array
  | .dict es => (membersOf? es).map .object
  | _ => none

/-- The trees of items. -/
def treesOf? : List Value → Option (List Tree)
  | [] => some []
  | v :: vs => do return (← treeOf? v) :: (← treesOf? vs)

/-- The members of entries whose keys are texts. -/
def membersOf? : List (Value × Value) → Option (List (String × Tree))
  | [] => some []
  | (.text k, v) :: es => do return (k, ← treeOf? v) :: (← membersOf? es)
  | _ => none

end

mutual

/-- A value that has a tree without a fraction is read as that tree. -/
theorem readTree?_of_treeOf? : ∀ (v : Value) {t : Tree}, treeOf? v = some t → readTree? v = some t
  | .null, t, tree | .bool _, t, tree | .int _, t, tree | .text _, t, tree => tree
  | .list xs, t, tree | .tuple xs, t, tree => by
    obtain ⟨trees, items, rfl⟩ := Option.map_eq_some_iff.mp tree
    rw [readTree?, readTrees?_of_treesOf? xs items]
    rfl
  | .dict es, t, tree => by
    obtain ⟨members, entries, rfl⟩ := Option.map_eq_some_iff.mp tree
    rw [readTree?, readMembers?_of_membersOf? es entries]
    rfl
  | .float _, _, tree | .bytes _, _, tree | .set _, _, tree | .date _, _, tree
  | .datetime _, _, tree | .object _, _, tree | .error _ _, _, tree | .other _ _, _, tree => by
    cases tree

theorem readTrees?_of_treesOf? : ∀ (vs : List Value) {trees : List Tree},
    treesOf? vs = some trees → readTrees? vs = some trees
  | [], trees, items => items
  | v :: vs, trees, items => by
    obtain ⟨t, tree, ts, rest, rfl⟩ : ∃ t, treeOf? v = some t ∧
        ∃ ts, treesOf? vs = some ts ∧ t :: ts = trees := by
      simpa [treesOf?, Option.bind_eq_some_iff] using items
    rw [readTrees?, readTree?_of_treeOf? v tree, readTrees?_of_treesOf? vs rest]
    rfl

theorem readMembers?_of_membersOf? : ∀ (es : List (Value × Value))
    {members : List (String × Tree)}, membersOf? es = some members → readMembers? es = some members
  | [], members, entries => entries
  | (.text k, v) :: es, members, entries => by
    obtain ⟨t, tree, ms, rest, rfl⟩ : ∃ t, treeOf? v = some t ∧
        ∃ ms, membersOf? es = some ms ∧ (k, t) :: ms = members := by
      simpa [membersOf?, Option.bind_eq_some_iff] using entries
    rw [readMembers?, readTree?_of_treeOf? v tree, readMembers?_of_membersOf? es rest]
    rfl

end

end SessionScript.Json
