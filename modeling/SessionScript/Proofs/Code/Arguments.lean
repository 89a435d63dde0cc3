import Mathlib.Data.List.Forall2
import SessionScript.Code.Expr

/-!
# Literal arguments of calls

A literal in front of a comma, a closing bracket or the end of the line is read as an expression,
through every level of precedence. Literals between commas are the arguments of a call.
-/

namespace SessionScript.Code.Expr

/-! ## Ends of expressions -/

/-- What follows an argument or a call: a comma, a closing bracket or the end of the line. -/
inductive Ends : List Token → Prop where
  | comma (ts : List Token) : Ends (.op "," :: ts)
  | close (ts : List Token) : Ends (.op ")" :: ts)
  | line (ts : List Token) : Ends (.newline :: ts)

namespace Ends

variable {rest : List Token} (ends : Ends rest)
include ends

theorem nextIsWord (w : String) : nextIsWord w rest = false := by
  cases ends <;> rfl

theorem nextIs {o : String} (comma : "," ≠ o) (close : ")" ≠ o) : nextIs o rest = false := by
  cases ends with
  | comma => exact beq_false_of_ne comma
  | close => exact beq_false_of_ne close
  | line => rfl

theorem nextIsClause : nextIsClause rest = false := by
  cases ends <;> rfl

theorem readTrailers (fuel : Nat) (e : Expr) :
    readTrailers (fuel + 1) e rest = .ok (e, rest) := by
  cases ends <;> rfl

theorem readBinaryRest (fuel level : Nat) (e : Expr) :
    readBinaryRest (fuel + 1) level e rest = .ok (e, rest) := by
  cases ends <;> rfl

theorem readComparisons (fuel : Nat) : readComparisons (fuel + 1) rest = .ok ([], rest) := by
  cases ends <;> rfl

theorem readStrings (fuel : Nat) : readStrings (fuel + 1) rest = .ok (false, [], rest) := by
  cases ends <;> rfl

end Ends

/-! ## Levels of precedence -/

section Levels

variable {e : Expr} {ts rest : List Token} {fuel : Nat} (ends : Ends rest)
include ends

/-- A primary expression that starts with no sign is an operand of its own. -/
theorem readUnary_of_readPrimary (unsigned : ∀ o more, ts ≠ .op o :: more)
    (awaits : nextIsWord "await" ts = false)
    (read : readPrimary (fuel + 1) ts = .ok (e, rest)) :
    readUnary (fuel + 3) ts = .ok (e, rest) := by
  rw [readUnary, readAwait, awaits, if_neg Bool.false_ne_true, read]
  · change (if nextIs "**" rest then _ else _) = _
    rw [ends.nextIs (by decide) (by decide), if_neg Bool.false_ne_true]
    rfl
  all_goals
    intro more same
    exact absurd same (unsigned _ more)

/-- An operand with no operator behind it is an expression. Every level of precedence takes it as
    its only operand. -/
theorem readExpr_of_readUnary (function : nextIsWord "lambda" ts = false)
    (negation : nextIsWord "not" ts = false) (read : readUnary (fuel + 1) ts = .ok (e, rest)) :
    readExpr (fuel + 6) ts = .ok (e, rest) := by
  have binary : readBinary (fuel + 2) 1 ts = .ok (e, rest) := by
    rw [readBinary, read]
    exact ends.readBinaryRest fuel 1 e
  have comparison : readNot (fuel + 3) ts = .ok (e, rest) := by
    rw [readNot, negation, if_neg Bool.false_ne_true, binary]
    change (readComparisons (fuel + 2) rest >>= _) = _
    rw [ends.readComparisons]
    rfl
  have conjunction : readAnd (fuel + 4) ts = .ok (e, rest) := by
    rw [readAnd, comparison]
    change (if nextIsWord "and" rest then _ else _) = _
    rw [ends.nextIsWord, if_neg Bool.false_ne_true]
    rfl
  have disjunction : readOr (fuel + 5) ts = .ok (e, rest) := by
    rw [readOr, conjunction]
    change (if nextIsWord "or" rest then _ else _) = _
    rw [ends.nextIsWord, if_neg Bool.false_ne_true]
    rfl
  rw [readExpr, function, if_neg Bool.false_ne_true, disjunction]
  change (if nextIsWord "if" rest then _ else _) = _
  rw [ends.nextIsWord, if_neg Bool.false_ne_true]
  rfl

end Levels

/-! ## Literals -/

/-- The tokens of a literal argument, and the expression that they are. -/
inductive IsLiteral : List Token → Expr → Prop where
  | noneWord : IsLiteral [.name "None"] (.constant .none)
  | trueWord : IsLiteral [.name "True"] (.constant (.bool true))
  | falseWord : IsLiteral [.name "False"] (.constant (.bool false))
  | name {w : String} (free : ¬ isKeyword w) : IsLiteral [.name w] (.name (Text.normalForm w))
  | number (n : Nat) : IsLiteral [.number (.int n)] (.constant (.int n))
  | negative (n : Nat) :
    IsLiteral [.op "-", .number (.int n)] (.unary .neg (.constant (.int n)))
  | string {body : List Char} {s : String} (denotes : Escape.text false body = .ok s) :
    IsLiteral [.string {} body] (.constant (.text s false))

theorem ne_of_isKeyword {name w : String} (free : ¬ isKeyword name) (reserved : isKeyword w) :
    name ≠ w := by
  rintro rfl
  exact free reserved

theorem readAtom_name {name : String} (free : ¬ isKeyword name) (fuel : Nat) (ts : List Token) :
    readAtom (fuel + 1) (.name name :: ts) = .ok (.name (Text.normalForm name), ts) := by
  rw [readAtom, if_neg free]
  all_goals exact ne_of_isKeyword free rfl

/-- A string that no other follows is a text. -/
theorem readAtom_string {body : List Char} {s : String} {rest : List Token} (ends : Ends rest)
    (denotes : Escape.text false body = .ok s) (fuel : Nat) :
    readAtom (fuel + 3) (.string {} body :: rest) = .ok (.constant (.text s false), rest) := by
  have single : readStrings (fuel + 2) (.string {} body :: rest) =
      .ok (false, addText s [], rest) := by
    rw [readStrings, if_neg Bool.false_ne_true, if_neg Bool.false_ne_true, denotes]
    change (readStrings (fuel + 1) rest >>= _) = _
    rw [ends.readStrings]
    rfl
  rw [readAtom, if_neg Bool.false_ne_true, single]
  by_cases empty : s.isEmpty
  · have nothing : s = "" := String.isEmpty_iff.mp empty
    subst nothing
    rfl
  · have text : addText s [] = [.text s] := by
      rw [addText, if_neg empty]
      rintro _ _ ⟨⟩
    rw [text]
    rfl

namespace IsLiteral

variable {toks : List Token} {e : Expr} {rest : List Token} (literal : IsLiteral toks e)
include literal

theorem nextIsWord {w : String} (reserved : isKeyword w) (other : w ∉ ["None", "True", "False"]) :
    nextIsWord w (toks ++ rest) = false := by
  simp only [List.mem_cons, List.not_mem_nil, or_false, not_or] at other
  cases literal with
  | noneWord => exact beq_false_of_ne fun same => other.1 same.symm
  | trueWord => exact beq_false_of_ne fun same => other.2.1 same.symm
  | falseWord => exact beq_false_of_ne fun same => other.2.2 same.symm
  | name free => exact beq_false_of_ne (ne_of_isKeyword free reserved)
  | number n => rfl
  | negative n => rfl
  | string denotes => rfl

/-- A literal is an operand, with its sign if it has one. -/
theorem readUnary (ends : Ends rest) (fuel : Nat) :
    readUnary (fuel + 7) (toks ++ rest) = .ok (e, rest) := by
  have awaits : Expr.nextIsWord "await" (toks ++ rest) = false :=
    literal.nextIsWord rfl (by decide)
  have primary {fuel : Nat} {t : Token} (unsigned : ∀ o, t ≠ .op o)
      (awaits : Expr.nextIsWord "await" (t :: rest) = false)
      (read : readAtom (fuel + 3) (t :: rest) = .ok (e, rest)) :
      Expr.readUnary (fuel + 6) (t :: rest) = .ok (e, rest) := by
    refine readUnary_of_readPrimary ends ?_ awaits ?_
    · rintro o more same
      exact unsigned o (List.cons.inj same).1
    · rw [readPrimary, read]
      exact ends.readTrailers _ e
  cases literal with
  | noneWord => exact primary (by rintro _ ⟨⟩) awaits rfl
  | trueWord => exact primary (by rintro _ ⟨⟩) awaits rfl
  | falseWord => exact primary (by rintro _ ⟨⟩) awaits rfl
  | name free => exact primary (by rintro _ ⟨⟩) awaits (readAtom_name free _ rest)
  | number n => exact primary (by rintro _ ⟨⟩) awaits rfl
  | string denotes => exact primary (by rintro _ ⟨⟩) awaits (readAtom_string ends denotes _)
  | negative n =>
    have number : Expr.readUnary (fuel + 6) (.number (.int n) :: rest) =
        .ok (.constant (.int n), rest) := by
      refine readUnary_of_readPrimary ends ?_ rfl ?_
      · rintro o more ⟨⟩
      · exact (congrArg _ rfl).trans (ends.readTrailers _ _)
    change (Expr.readUnary (fuel + 6) (.number (.int n) :: rest) >>= _) = _
    rw [number]
    rfl

/-- A literal is an argument. -/
theorem readArgs (ends : Ends rest) (first : Bool) (fuel : Nat) :
    Expr.readArgs (fuel + 14) first false false (toks ++ rest) = (do
      let ((args, keywords), rest) ← readArgsRest (fuel + 13) false false rest
      return ((e :: args, keywords), rest)) := by
  have read : readExpr (fuel + 12) (toks ++ rest) = .ok (e, rest) :=
    readExpr_of_readUnary ends (literal.nextIsWord rfl (by decide))
      (literal.nextIsWord rfl (by decide)) (literal.readUnary ends fuel)
  have named : readNamed (fuel + 13) (toks ++ rest) = .ok (e, rest) := by
    rw [← read]
    cases literal <;> cases ends <;> rfl
  rw [Expr.readArgs, if_neg Bool.false_ne_true, named]
  · change (if Expr.nextIsClause rest then _ else _) = _
    rw [ends.nextIsClause, if_neg Bool.false_ne_true]
  -- No literal starts as a star, a closing bracket or the name of an argument.
  all_goals cases literal <;> cases ends <;> simp

end IsLiteral

/-! ## Calls -/

/-- The tokens of arguments with commas between them. -/
def commaTokens (args : List (List Token)) : List Token := [Token.op ","].intercalate args

/-- Literals with commas between them are read up to the closing bracket. -/
theorem readArgs_literals {args : List (List Token)} {es : List Expr}
    (literals : List.Forall₂ IsLiteral args es) (rest : List Token) (fuel : Nat) (first : Bool) :
    readArgs (fuel + 14 + 2 * args.length) first false false
      (commaTokens args ++ .op ")" :: rest) = .ok ((es, []), rest) := by
  induction literals generalizing first with
  | nil => rfl
  | @cons toks e args es literal literals ih =>
    have steps : fuel + 14 + 2 * (toks :: args).length = fuel + 2 * args.length + 2 + 14 := by
      rw [List.length_cons]
      omega
    rw [steps]
    cases literals with
    | nil =>
      have text : commaTokens [toks] = toks := List.append_nil toks
      rw [text, literal.readArgs (.close rest)]
      rfl
    | @cons next e' args es second literals =>
      have text : commaTokens (toks :: next :: args) ++ .op ")" :: rest =
          toks ++ .op "," :: (commaTokens (next :: args) ++ .op ")" :: rest) := by
        simp [commaTokens, List.intercalate_cons_cons]
      have steps : fuel + 2 * (next :: args).length + 2 + 12 =
          fuel + 14 + 2 * (next :: args).length := by omega
      rw [text, literal.readArgs (.comma _)]
      change (readArgs (fuel + 2 * (next :: args).length + 2 + 12) false false false _ >>= _) = _
      rw [steps, ih false]
      rfl

section Call

variable {name : String} (free : ¬ isKeyword name) {args : List (List Token)} {es : List Expr}
  (literals : List.Forall₂ IsLiteral args es)
include free literals

/-- A name with literals between brackets behind it is a primary expression. -/
theorem readPrimary_call {rest : List Token} (ends : Ends rest) (fuel : Nat) :
    readPrimary (fuel + 16 + 2 * args.length)
      (.name name :: .op "(" :: (commaTokens args ++ .op ")" :: rest)) =
      .ok (.call (.name (Text.normalForm name)) es [], rest) := by
  have steps : fuel + 16 + 2 * args.length = fuel + 14 + 2 * args.length + 1 + 1 := by omega
  rw [steps, readPrimary, readAtom_name free]
  change (readArgs (fuel + 14 + 2 * args.length) true false false _ >>= _) = _
  rw [readArgs_literals literals]
  have steps : fuel + 14 + 2 * args.length = fuel + 13 + 2 * args.length + 1 := by omega
  rw [steps]
  exact ends.readTrailers _ _

/-- A call of a name with literal arguments is an expression. -/
theorem readExpr_call {rest : List Token} (ends : Ends rest) (fuel : Nat) :
    readExpr (fuel + 23 + 2 * args.length)
      (.name name :: .op "(" :: (commaTokens args ++ .op ")" :: rest)) =
      .ok (.call (.name (Text.normalForm name)) es [], rest) := by
  have word {w : String} (reserved : isKeyword w) {ts : List Token} :
      nextIsWord w (.name name :: ts) = false := beq_false_of_ne (ne_of_isKeyword free reserved)
  have primary := readPrimary_call free literals ends fuel
  have steps : fuel + 16 + 2 * args.length = fuel + 15 + 2 * args.length + 1 := by omega
  rw [steps] at primary
  have unary := readUnary_of_readPrimary ends (by simp) (word rfl) primary
  have read := readExpr_of_readUnary ends (word rfl) (word rfl) unary
  have steps : fuel + 23 + 2 * args.length = fuel + 15 + 2 * args.length + 2 + 6 := by omega
  rw [steps]
  exact read

/-- Code with the tokens of a call is the call. -/
theorem parse_of_lex {code : List Char} (short : args.length ≤ code.length)
    (tokens : Token.lex code =
      .ok (.name name :: .op "(" :: (commaTokens args ++ [.op ")", .newline]))) :
    parse code = .ok (.call (.name (Text.normalForm name)) es []) := by
  obtain ⟨fuel, enough⟩ : ∃ fuel, bound code.length = fuel + 23 + 2 * args.length :=
    ⟨bound code.length - 23 - 2 * args.length, by rw [bound]; omega⟩
  rw [parse, tokens, enough]
  change (readExpr _ _ >>= _) = _
  rw [readExpr_call free literals (.line [])]
  rfl

end Call

end SessionScript.Code.Expr
