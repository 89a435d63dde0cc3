import SessionScript.Proofs.Code.Arguments
import SessionScript.Proofs.Code.Lexing
import SessionScript.Template.Call

/-!
# Calls of names

A name with literals between brackets behind it is read as a call, and as nothing else, if the name
is not reserved.
-/

namespace SessionScript.Text

variable {c : Char}

/-! ## Names -/

/-- Names of variables are identifiers. -/
theorem isIdentifier_of_isName {name : String} (named : Template.isName name.toList) :
    IsIdentifier name := by
  obtain ⟨c, cs, text, letter, words⟩ := Template.exists_of_isName named
  refine ⟨c, cs, text, isIdentifierStart_of_isAsciiLetter letter, List.forall_mem_cons.mpr ⟨?_, ?_⟩⟩
  · exact isIdentifierPart_of_isAsciiWord (isAsciiWord_of_isAsciiLetter letter)
  · exact fun d among => isIdentifierPart_of_isAsciiWord (words d among)

theorem normalForm_of_isName {name : String} (named : Template.isName name.toList) :
    normalForm name = name :=
  normalForm_of_ascii fun c among =>
    isAscii_of_isAsciiWord (Template.isAsciiWord_of_isName named c among)

/-! ## Blanks -/

/-- The code points of all blanks. -/
def blankPoints : List Nat :=
  List.range' 0x09 5 ++ List.range' 0x1C 5 ++ List.range' 0x2000 11 ++
    [0x85, 0xA0, 0x1680, 0x2028, 0x2029, 0x202F, 0x205F, 0x3000]

theorem mem_blankPoints (blank : isBlank c) : c.toNat ∈ blankPoints := by
  have point : c.toNat = c.val.toNat := rfl
  simp only [isBlank, Bool.or_eq_true, Bool.and_eq_true, decide_eq_true_eq, beq_iff_eq] at blank
  simp only [blankPoints, List.mem_append, List.mem_range'_1, List.mem_cons, List.not_mem_nil]
  omega

/-- No name starts with a blank. -/
theorem isBlank_of_isIdentifierStart (start : isIdentifierStart c) : isBlank c = false := by
  have apart : blankPoints.all fun n => !startBits.testBit n := by decide +kernel
  cases blank : isBlank c with
  | false => rfl
  | true =>
    have checked := List.all_eq_true.mp apart _ (mem_blankPoints blank)
    rw [(isStartPoint_iff _).mp (isStartPoint_toNat start)] at checked
    cases checked

/-- A text with no blanks at its ends has nothing to drop. -/
theorem trimBoth_of_ends {p : Char → Bool} {c d : Char} (first : p c = false) (last : p d = false)
    (cs : List Char) : trimBoth p (c :: (cs ++ [d])) = c :: (cs ++ [d]) := by
  have back : (c :: (cs ++ [d])).reverse = d :: (c :: cs).reverse := by
    rw [← List.cons_append, List.reverse_append]
    rfl
  rw [trimBoth, List.dropWhile_cons_of_neg (by simp [first]), back,
    List.dropWhile_cons_of_neg (by simp [last]), ← back, List.reverse_reverse]

end SessionScript.Text

namespace SessionScript.Code

open Token in
/-- The tokens of a call are those of its arguments between a name and brackets. -/
theorem Token.lex_call {name : String} (named : Text.IsIdentifier name) {text : List Char}
    {ts : List Token} (gives : Gives (onFirstLine 1 true) text [')'] ts (onFirstLine 1 true)) :
    lex (name.toList ++ '(' :: (text ++ [')'])) =
      .ok (.name name :: .op "(" :: (ts ++ [.op ")", .newline])) := by
  have start : ∃ c cs, name.toList = c :: cs ∧ Text.isIdentifierStart c := by
    obtain ⟨c, cs, text, start, -⟩ := named
    exact ⟨c, cs, text, start⟩
  have whole : Gives (onFirstLine 0 false) (name.toList ++ (['('] ++ (text ++ [')']))) []
      ([.name name] ++ ([.op "("] ++ (ts ++ [.op ")"]))) (onFirstLine 0 true) := by
    refine (gives_name named ⟨'(', _, rfl, rfl⟩ 0 false).append ?_
    refine (gives_open _ true).append ?_
    exact gives.append (gives_close [] true)
  obtain ⟨c, cs, text, start⟩ := start
  rw [text] at whole ⊢
  refine (lex_of_gives start whole).trans ?_
  simp

/-- A name that is not reserved, with two brackets behind it, is a call of that name. -/
theorem Expr.parse_call {name : String} (free : ¬ isKeyword name)
    (named : Template.isName name.toList) :
    Expr.parse (name.toList ++ ['(', ')']) = .ok (.call (.name name) [] []) := by
  have tokens := Token.lex_call (Text.isIdentifier_of_isName named) (Token.Gives.nil _ [')'])
  have read := Expr.parse_of_lex free .nil (Nat.zero_le _) tokens
  rwa [Text.normalForm_of_isName named] at read

end SessionScript.Code

namespace SessionScript.Template.Call

open Code Code.Token

/-- A name with brackets behind it has no blanks at its ends. -/
theorem trimBoth_call {name : String} (named : Text.IsIdentifier name) (text : List Char) :
    Text.trimBoth Text.isBlank (name.toList ++ '(' :: (text ++ [')'])) =
      name.toList ++ '(' :: (text ++ [')']) := by
  obtain ⟨c, cs, spelled, start, -⟩ := named
  have ends : name.toList ++ '(' :: (text ++ [')']) = c :: (cs ++ '(' :: text ++ [')']) := by
    simp [spelled]
  rw [ends]
  exact Text.trimBoth_of_ends (Text.isBlank_of_isIdentifierStart start) rfl _

/-- A name that is not reserved, with literals between brackets behind it, is a call of the normal
    form of the name. -/
theorem parse_of_gives {name : String} (named : Text.IsIdentifier name) (free : ¬ isKeyword name)
    {text : List Char} {args : List (List Token)} {es : List Code.Expr} {vs : List Value}
    (gives : Gives (onFirstLine 1 true) text [')'] (Code.Expr.commaTokens args)
      (onFirstLine 1 true))
    (each : List.Forall₂ Code.Expr.IsLiteral args es) (short : args.length ≤ text.length + 1)
    (values : literals es = .ok vs) :
    parse (name.toList ++ '(' :: (text ++ [')'])) = .ok (some ⟨Text.normalForm name, vs⟩) := by
  have enough : args.length ≤ (name.toList ++ '(' :: (text ++ [')'])).length := by
    rw [List.length_append, List.length_cons, List.length_append, List.length_singleton]
    omega
  have read := Code.Expr.parse_of_lex free each enough (lex_call named gives)
  rw [parse, trimBoth_call named, read]
  change (literals es).map _ = _
  rw [values]
  rfl

/-- A name that is not reserved is called. -/
theorem parse_of_isName {name : String} (named : isName name.toList) (free : ¬ isKeyword name) :
    parse (name.toList ++ ['(', ')']) = .ok (some ⟨name, []⟩) := by
  have read := parse_of_gives (Text.isIdentifier_of_isName named) free (Gives.nil _ [')']) .nil
    (Nat.zero_le _) rfl
  rwa [Text.normalForm_of_isName named] at read

/-- A reserved name is not called. The words of some operators and constants are read as something
    else than a call, and with all others the text can not be read. -/
theorem parse_of_isKeyword {name : String} (reserved : isKeyword name) (call : Call) :
    parse (name.toList ++ ['(', ')']) ≠ .ok (some call) := by
  have each : ∀ w ∈ keywords,
      (parse (w.toList ++ ['(', ')'])).toOption.join.isNone := by decide +kernel
  have none := each name (by simpa [isKeyword] using reserved)
  intro read
  rw [read] at none
  cases none

end SessionScript.Template.Call
