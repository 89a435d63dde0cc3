import SessionScript.Proofs.Code.Calls
import SessionScript.Proofs.Code.Quoting
import SessionScript.Proofs.Code.Words
import SessionScript.Proofs.Template.Sites
import SessionScript.Value.Shown

/-!
# Calls as texts

A call with literal arguments is written as its name with the texts of the arguments between
brackets, and is read from that text again. So is every call that is read from any text, unless its
name is a reserved word: words are compared with the reserved ones as they are written, and are
brought to their normal form only then.
-/

namespace SessionScript

/-! ## Numbers -/

namespace Text.Numeral

theorem length_digits_of_log2 {n width : Nat} (some : 0 < width)
    (short : ¬ (width ≤ n.log2 ∧ tenTo width ≤ n)) : (digits 10 n).length ≤ width := by
  refine length_digits ?_ some
  by_cases few : width ≤ n.log2
  · exact Nat.lt_of_not_le fun more => short ⟨few, more⟩
  · have power : 2 ^ (n.log2 + 1) ≤ 2 ^ width := Nat.pow_le_pow_right (by decide) (by omega)
    exact Nat.lt_of_lt_of_le Nat.lt_log2_self (power.trans (Nat.pow_le_pow_left (by decide) width))

/-- An integer that is written has no more digits than are read. -/
theorem length_digits_natAbs {i : Int} (short : isLong i = false) :
    (digits 10 i.natAbs).length ≤ greatestLength := by
  refine length_digits_of_log2 (by decide) ?_
  rintro ⟨many, large⟩
  have long : isLong i = true := by
    rw [isLong, Bool.and_eq_true, decide_eq_true_iff, decide_eq_true_iff]
    exact ⟨many, large⟩
  rw [short] at long
  cases long

end Text.Numeral

namespace Template

open Code Code.Token

/-! ## Identifiers -/

theorem isIdentifier_ascii {name : String} (named : isIdentifier name.toList) :
    Text.IsIdentifier name ∧ Text.normalForm name = name := by
  have words := isAsciiWord_of_isIdentifier named
  refine ⟨?_, Text.normalForm_of_ascii fun c among => Text.isAscii_of_isAsciiWord (words c among)⟩
  cases text : name.toList with
  | nil =>
    rw [text] at named
    cases named
  | cons c cs =>
    rw [text] at named words
    rw [isIdentifier, Bool.and_eq_true] at named
    have ascii : c.val.toNat < 0x80 := Text.isAscii_of_isAsciiWord (words c List.mem_cons_self)
    refine ⟨c, cs, text, ?_, fun d among => Text.isIdentifierPart_of_isAsciiWord (words d among)⟩
    rw [Text.isIdentifierStart, if_pos ascii]
    exact named.1

/-! ## Literals -/

/-- Whether a value is a literal: null, a truth value, an integer with no more digits than are
    written, or a text. -/
def isLiteral : Value → Bool
  | .null | .bool _ | .text _ => true
  | .int i => !Text.Numeral.isLong i
  | _ => false

/-- The name of a constant besides the reserved word for it. -/
def constantName? : Value → Option String
  | .null => some "null"
  | .bool b => some (if b then "true" else "false")
  | _ => none

/-- A text that a literal is written as: the text that shows it, or its name. -/
def IsSpelling (v : Value) (text : String) : Prop :=
  isLiteral v ∧ (text = v.shown ∨ constantName? v = some text)

instance (v : Value) (text : String) : Decidable (IsSpelling v text) :=
  inferInstanceAs (Decidable (_ ∧ _))

/-- Literals are written as they are shown. -/
theorem spellings_shown {args : List Value} (literals : ∀ v ∈ args, isLiteral v) :
    List.Forall₂ IsSpelling args (args.map Value.shown) := by
  induction args with
  | nil => exact .nil
  | cons v vs ih =>
    obtain ⟨first, others⟩ := List.forall_mem_cons.mp literals
    exact .cons ⟨first, .inl rfl⟩ (ih others)

/-- The names of constants that are not reserved. -/
def constantNames : List String := ["null", "true", "false"]

/-- A text gives the tokens of a literal, wherever a bracket or a comma follows. -/
structure Spells (text : String) (ts : List Token) (e : Code.Expr) : Prop where
  literal : Code.Expr.IsLiteral ts e
  words : Code.Expr.Knows (· ∈ constantNames) ts
  gives : ∀ rest, Stops rest →
    Gives (onFirstLine 1 true) text.toList rest ts (onFirstLine 1 true)

theorem knows_of_no_name {known : String → Prop} {ts : List Token} (none : ∀ w, .name w ∉ ts) :
    Code.Expr.Knows known ts := fun w among => absurd among (none w)

/-- A reserved word is a literal if it stands for a constant. -/
theorem spells_word {w : String} {e : Code.Expr} (named : isName w.toList) (reserved : isKeyword w)
    (literal : Code.Expr.IsLiteral [.name w] e) : Spells w [.name w] e := by
  refine ⟨literal, fun w' among free => ?_, fun _ stops => ?_⟩
  · obtain ⟨⟩ := List.mem_singleton.mp among
    exact absurd reserved free
  · exact gives_name (Text.isIdentifier_of_isName named) stops 1 true

theorem spells_name {w : String} (named : isName w.toList) (free : ¬ isKeyword w)
    (known : w ∈ constantNames) : Spells w [.name w] (.name w) := by
  have normal := Text.normalForm_of_isName named
  refine ⟨?_, fun w' among _ => ?_, fun _ stops => ?_⟩
  · have literal := Code.Expr.IsLiteral.name free
    rwa [normal] at literal
  · obtain ⟨⟩ := List.mem_singleton.mp among
    rwa [normal]
  · exact gives_name (Text.isIdentifier_of_isName named) stops 1 true

theorem spells_int {i : Int} (short : Text.Numeral.isLong i = false) :
    ∃ ts e, Spells (Text.ofInt i) ts e ∧ Call.literal? e = some (.int i) := by
  have enough := Text.Numeral.length_digits_natAbs short
  have digits {rest : List Char} (stops : Stops rest) :=
    gives_digits (n := i.natAbs) enough stops 1 true
  by_cases negative : i < 0
  · have value : -(i.natAbs : Int) = i := by omega
    have text : (Text.ofInt i).toList = ['-'] ++ Text.digits 10 i.natAbs := by
      rw [Text.ofInt, if_pos negative, Text.ofNat, String.toList_append]
      exact congrArg (['-'] ++ ·) String.toList_ofList
    refine ⟨[.op "-", .number (.int i.natAbs)], _, ⟨.negative _, ?_, fun rest stops => ?_⟩, ?_⟩
    · exact knows_of_no_name fun w => by simp
    · rw [text]
      exact (gives_minus i.natAbs rest 1 true).append (digits stops)
    · change some (Value.int (-(i.natAbs : Int))) = _
      rw [value]
  · have value : (i.natAbs : Int) = i := by omega
    refine ⟨[.number (.int i.natAbs)], _, ⟨.number _, ?_, fun rest stops => ?_⟩, ?_⟩
    · exact knows_of_no_name fun w => by simp
    · rw [Text.ofInt, if_neg negative, Text.ofNat, String.toList_ofList]
      exact digits stops
    · change some (Value.int (i.natAbs : Int)) = _
      rw [value]

theorem spells_text (s : String) :
    ∃ ts e, Spells (Text.quoted s) ts e ∧ Call.literal? e = some (.text s) := by
  have isQuote := isQuote_quoteFor s.toList
  refine ⟨_, _, ⟨.string (text_quotedBody isQuote s), ?_, fun rest stops => ?_⟩, rfl⟩
  · exact knows_of_no_name fun w => by simp
  · rw [Text.quoted, String.toList_ofList]
    exact gives_quotedBody isQuote s.toList stops 1 true

/-- Every text that a literal is written as spells the literal. -/
theorem IsSpelling.spells {v : Value} {text : String} (spelling : IsSpelling v text) :
    ∃ ts e, Spells text ts e ∧ Call.literal? e = some v := by
  obtain ⟨literal, rfl | named⟩ := spelling
  · cases v with
    | null => exact ⟨_, _, spells_word (by decide) (by decide) .noneWord, rfl⟩
    | bool b =>
      cases b with
      | true => exact ⟨_, _, spells_word (by decide) (by decide) .trueWord, rfl⟩
      | false => exact ⟨_, _, spells_word (by decide) (by decide) .falseWord, rfl⟩
    | int i => exact spells_int (by simpa [isLiteral] using literal)
    | text s => exact spells_text s
    | _ => cases literal
  · cases v with
    | null =>
      obtain rfl := Option.some.inj named
      exact ⟨_, _, spells_name (by decide) (by decide) (by decide), rfl⟩
    | bool b =>
      obtain rfl := Option.some.inj named
      cases b with
      | true => exact ⟨_, _, spells_name (by decide) (by decide) (by decide), rfl⟩
      | false => exact ⟨_, _, spells_name (by decide) (by decide) (by decide), rfl⟩
    | _ => cases named

/-! ## Arguments -/

theorem stops_close (rest : List Char) : Stops (')' :: rest) := ⟨')', rest, rfl, rfl⟩

theorem stops_comma (rest : List Char) : Stops (',' :: rest) := ⟨',', rest, rfl, rfl⟩

theorem toList_commaSeparated (text next : String) (texts : List String) :
    (Value.commaSeparated (text :: next :: texts)).toList =
      text.toList ++ ([',', ' '] ++ (Value.commaSeparated (next :: texts)).toList) := by
  simp [Value.commaSeparated, String.intercalate_cons_cons]

/-- Texts with commas between them are no fewer than their characters, but for one. -/
theorem length_commaSeparated (texts : List String) :
    texts.length ≤ (Value.commaSeparated texts).toList.length + 1 := by
  induction texts with
  | nil => exact Nat.zero_le _
  | cons text texts ih =>
    cases texts with
    | nil => exact Nat.le_add_left 1 _
    | cons next texts =>
      rw [toList_commaSeparated, List.length_append, List.length_append, List.length_cons]
      change _ ≤ text.toList.length + (2 + _) + 1
      omega

theorem commaTokens_cons (ts us : List Token) (uss : List (List Token)) :
    Code.Expr.commaTokens (ts :: us :: uss) =
      ts ++ ([.op ","] ++ Code.Expr.commaTokens (us :: uss)) := by
  simp [Code.Expr.commaTokens, List.intercalate_cons_cons]

/-- The tokens of literals with commas between them, and what they are read as. -/
structure SpellsAll (texts : List String) (tss : List (List Token)) (es : List Code.Expr) :
    Prop where
  length : tss.length = texts.length
  literals : List.Forall₂ Code.Expr.IsLiteral tss es
  words : Code.Expr.Knows (· ∈ constantNames) (Code.Expr.commaTokens tss)
  gives : Gives (onFirstLine 1 true) (Value.commaSeparated texts).toList [')']
    (Code.Expr.commaTokens tss) (onFirstLine 1 true)

theorem SpellsAll.cons {text : String} {texts : List String} {ts : List Token}
    {tss : List (List Token)} {e : Code.Expr} {es : List Code.Expr} (first : Spells text ts e)
    (others : SpellsAll texts tss es) : SpellsAll (text :: texts) (ts :: tss) (e :: es) := by
  obtain ⟨length, literals, words, gives⟩ := others
  cases texts with
  | nil =>
    obtain rfl := List.length_eq_zero_iff.mp length
    have tokens : Code.Expr.commaTokens [ts] = ts := List.append_nil ts
    have single : Value.commaSeparated [text] = text := String.intercalate_singleton
    refine ⟨rfl, .cons first.literal literals, ?_, ?_⟩
    · rw [tokens]
      exact first.words
    · rw [tokens, single]
      exact first.gives _ (stops_close [])
  | cons next texts =>
    obtain ⟨us, uss, rfl⟩ := List.exists_cons_of_length_eq_add_one length
    refine ⟨congrArg Nat.succ length, .cons first.literal literals, ?_, ?_⟩
    · rw [commaTokens_cons]
      exact first.words.append (.append (knows_of_no_name fun w => by simp) words)
    · rw [commaTokens_cons, toList_commaSeparated]
      exact (first.gives _ (stops_comma _)).append ((gives_comma _ 1 true).append gives)

/-- The texts of literals with commas between them give the tokens of the literals. -/
theorem exists_spellsAll {args : List Value} {texts : List String}
    (spellings : List.Forall₂ IsSpelling args texts) :
    ∃ tss es, SpellsAll texts tss es ∧ Call.literals es = .ok args := by
  induction spellings with
  | nil => exact ⟨[], [], ⟨rfl, .nil, knows_of_no_name fun _ => List.not_mem_nil, .nil _ _⟩, rfl⟩
  | @cons v text args texts spelling spellings ih =>
    obtain ⟨ts, e, spells, value⟩ := spelling.spells
    obtain ⟨tss, es, others, values⟩ := ih
    refine ⟨ts :: tss, e :: es, others.cons spells, ?_⟩
    rw [Call.literals, value, values]
    rfl

/-! ## Calls -/

namespace Call

/-- A call as it is written, given the texts of its arguments. -/
def print (name : String) (texts : List String) : List Char :=
  name.toList ++ '(' :: ((Value.commaSeparated texts).toList ++ [')'])

/-- A call that is written with an identifier that is not reserved is read as a call of the normal
    form of the identifier. -/
theorem parse_print {name : String} (named : Text.IsIdentifier name) (free : ¬ isKeyword name)
    {args : List Value} {texts : List String} (spellings : List.Forall₂ IsSpelling args texts) :
    parse (print name texts) = .ok (some ⟨Text.normalForm name, args⟩) := by
  obtain ⟨tss, es, spells, values⟩ := exists_spellsAll spellings
  refine parse_of_gives named free spells.gives spells.literals ?_ values
  rw [spells.length]
  exact length_commaSeparated texts

/-- The name of a call comes from the head of the expression that the call is read from. -/
theorem heads_of_parse {known : String → Prop} {expression : List Char} {call : Call}
    (heads : Ensures (Code.Expr.Heads known)
      (Code.Expr.parse (Text.trimBoth Text.isBlank expression)))
    (read : parse expression = .ok (some call)) : known call.name := by
  unfold parse at read
  split at read
  · cases read
  · rename_i e tree
    have headed := heads e tree
    unfold ofExpr? at read
    split at read
    · rename_i f args
      cases values : literals args with
      | error why =>
        rw [values] at read
        cases read
      | ok vs =>
        rw [values] at read
        obtain rfl := Option.some.inj (Except.ok.inj read)
        exact headed
    · cases read
    · cases read

theorem isIdentifier_of_isKeyword {name : String} (reserved : isKeyword name) :
    Text.IsIdentifier name := by
  have each : ∀ w ∈ keywords, isName w.toList := by decide
  exact Text.isIdentifier_of_isName (each name (by simpa [isKeyword] using reserved))

/-- No call that is written with a reserved word is read as a call of that word. -/
theorem not_parse_print {name : String} (reserved : isKeyword name) {args : List Value}
    {texts : List String} (spellings : List.Forall₂ IsSpelling args texts) (others : List Value) :
    parse (print name texts) ≠ .ok (some ⟨name, others⟩) := by
  intro read
  obtain ⟨tss, es, spells, -⟩ := exists_spellsAll spellings
  have named := isIdentifier_of_isKeyword reserved
  have tokens := lex_call named spells.gives
  have words : Code.Expr.Knows (· ∈ constantNames)
      (.name name :: .op "(" :: (Code.Expr.commaTokens tss ++ [.op ")", .newline])) := by
    intro w among free
    simp only [List.mem_cons, List.mem_append, Token.name.injEq, reduceCtorEq, false_or,
      List.not_mem_nil, or_false] at among
    rcases among with rfl | among
    · exact absurd reserved free
    · exact spells.words w among free
  have heads : Ensures (Code.Expr.Heads (· ∈ constantNames))
      (Code.Expr.parse (Text.trimBoth Text.isBlank (print name texts))) := by
    rw [print, trimBoth_call named]
    exact Code.Expr.parse_heads tokens words
  have free : ∀ w ∈ constantNames, ¬ isKeyword w := by decide
  exact free name (heads_of_parse heads read) reserved

end Call

end Template

end SessionScript
