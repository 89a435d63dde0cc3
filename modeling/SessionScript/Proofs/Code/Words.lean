import Mathlib.Data.List.TakeWhile
import SessionScript.Code.Expr
import SessionScript.Proofs.Text.NormalForm

/-!
# Words of code

The words that the lexer finds are identifiers. A name at the head of an expression is the normal
form of a word that the expression starts with, behind any brackets.
-/

namespace SessionScript.Text

/-- What an identifier may start with, it may go on with. -/
theorem isIdentifierPart_of_isIdentifierStart {c : Char} (start : isIdentifierStart c) :
    isIdentifierPart c := by
  have within : startBits &&& partBits = startBits := by decide +kernel
  have bit := (isStartPoint_iff _).mp (isStartPoint_toNat start)
  rw [← within, Nat.testBit_and, Bool.and_eq_true] at bit
  have part := (isPartPoint_of_testBit bit.2).2
  rwa [Char.ofNat_toNat] at part

/-- The characters of identifiers up to another one are an identifier if the first may start one. -/
theorem isIdentifier_takeWhile {c : Char} (start : isIdentifierStart c) (cs : List Char) :
    IsIdentifier (String.ofList ((c :: cs).takeWhile isIdentifierPart)) := by
  have part := isIdentifierPart_of_isIdentifierStart start
  refine ⟨c, cs.takeWhile isIdentifierPart, ?_, start, List.forall_mem_cons.mpr ⟨part, ?_⟩⟩
  · rw [String.toList_ofList, List.takeWhile_cons_of_pos part]
  · exact fun d among => List.mem_takeWhile_imp among

end SessionScript.Text

namespace SessionScript.Code

/-! ## Results -/

/-- What holds of the result of a reader, if it gives one. -/
def Ensures {α : Type} (P : α → Prop) (x : Except GrammarError α) : Prop := ∀ a, x = .ok a → P a

namespace Ensures

variable {α β : Type} {P : α → Prop} {Q : β → Prop} {x : Except GrammarError α}
  {f : α → Except GrammarError β}

theorem ok {a : α} (holds : P a) : Ensures P (.ok a) := by
  rintro _ ⟨⟩
  exact holds

theorem error {why : GrammarError} : Ensures P (.error why) := by
  rintro _ ⟨⟩

theorem bind (first : Ensures P x) (next : ∀ a, P a → Ensures Q (f a)) : Ensures Q (x >>= f) := by
  cases x with
  | error why => exact error
  | ok a => exact next a (first a rfl)

/-- Of some results nothing has to be known. -/
theorem bind_any (next : ∀ a, Ensures Q (f a)) : Ensures Q (x >>= f) := by
  cases x with
  | error why => exact error
  | ok a => exact next a

end Ensures

/-! ## Tokens -/

namespace Token

/-- The words among some tokens are identifiers. -/
def AreWords (ts : List Token) : Prop := ∀ w, .name w ∈ ts → Text.IsIdentifier w

theorem areWords_of_no_name {ts : List Token} (none : ∀ w, .name w ∉ ts) : AreWords ts :=
  fun w among => absurd among (none w)

theorem AreWords.cons {t : Token} {ts : List Token} (first : ∀ w, t = .name w → Text.IsIdentifier w)
    (words : AreWords ts) : AreWords (t :: ts) := by
  intro w among
  rcases List.mem_cons.mp among with same | among
  · exact first w same.symm
  · exact words w among

theorem finish_words (p : Position) : AreWords (finish p) := by
  refine areWords_of_no_name fun w among => ?_
  rw [finish, List.mem_append, List.mem_replicate] at among
  rcases among with among | ⟨-, ⟨⟩⟩
  split at among <;> simp at among

theorem dedents_words (col alt : Nat) (blocks : List (Nat × Nat)) :
    Ensures (fun r => ∀ w, .name w ∉ r.1) (dedents col alt blocks) := by
  induction blocks with
  | nil => exact .error
  | cons block outer ih =>
    obtain ⟨c, a⟩ := block
    rw [dedents]
    split
    · split
      · exact .ok fun w => List.not_mem_nil
      · exact .error
    · split
      · refine ih.bind fun r none => .ok fun w among => ?_
        rcases List.mem_cons.mp among with ⟨⟨⟩⟩ | among
        exact none w among
      · exact .error

theorem layout_words (col alt : Nat) (blocks : List (Nat × Nat)) :
    Ensures (fun r => ∀ w, .name w ∉ r.1) (layout col alt blocks) := by
  unfold layout
  split
  · split
    · split
      · split
        · exact .ok fun w => by simp
        · exact .error
      · exact .error
    · exact dedents_words col alt _
  · exact .ok fun w => List.not_mem_nil

theorem lexString_ne_name (mark : StringMark) (quote : Char) (cs : List Char) :
    Ensures (fun r => ∀ w, r.1 ≠ .name w) (lexString mark quote cs) := by
  unfold lexString
  dsimp only
  split
  · exact .ok fun w => by simp
  · exact .error

theorem lexFrom_words (fuel : Nat) : ∀ p cs, Ensures AreWords (lexFrom fuel p cs) := by
  induction fuel with
  | zero => exact fun p cs => .ok (finish_words p)
  | succ fuel ih =>
    intro p cs
    -- A token that is no word in front of the tokens of the rest.
    have other {t : Token} (none : ∀ w, t ≠ .name w) (q : Position) (rest : List Char) :
        Ensures AreWords (do return t :: (← lexFrom fuel q rest)) :=
      (ih q rest).bind fun ts words => .ok (words.cons fun w same => absurd same (none w))
    rw [lexFrom]
    split
    · dsimp only
      split
      · exact .ok (finish_words p)
      · exact ih _ _
      · exact ih _ _
      · refine (layout_words _ _ _).bind fun r none => (ih _ _).bind fun ts words => .ok ?_
        intro w among
        exact words w ((List.mem_append.mp among).resolve_left (none w))
    · dsimp only
      split
      · exact .ok (finish_words p)
      · exact ih _ _
      · exact ih _ _
      · exact ih _ _
      · split
        · exact ih _ _
        · refine (ih _ _).bind fun ts words => .ok ?_
          split
          · exact words.cons (by rintro _ ⟨⟩)
          · exact words
      · split
        · exact .error
        · exact ih _ _
      · rename_i c rest _ _ _ _ _
        split
        · exact ih _ _
        split
        · exact (lexString_ne_name _ c (c :: rest)).bind fun r none => other none _ _
        split
        · rename_i start
          have word (q : Position) (more : List Char) :
              Ensures AreWords (do
                return .name (String.ofList ((c :: rest).takeWhile Text.isIdentifierPart)) ::
                  (← lexFrom fuel q more)) := by
            refine (ih q more).bind fun ts words => .ok (words.cons ?_)
            rintro _ ⟨⟩
            exact Text.isIdentifier_takeWhile start rest
          split
          · split
            · exact (lexString_ne_name _ _ _).bind fun r none => other none _ _
            · exact word _ _
          · exact word _ _
        split
        · exact .bind_any fun r => other (by rintro _ ⟨⟩) _ _
        split
        · exact .error
        · split
          · split
            · exact other (by rintro _ ⟨⟩) _ _
            · exact .error
          · split
            · exact other (by rintro _ ⟨⟩) _ _
            · exact other (by rintro _ ⟨⟩) _ _

end Token

/-! ## Heads of expressions -/

namespace Expr

/-- The name at the head of an expression has a property: the expression is a name or the call of a
    name. -/
def Heads (known : String → Prop) : Expr → Prop
  | .name f => known f
  | .call (.name f) _ _ => known f
  | _ => True

variable {known : String → Prop}

theorem Heads.call {e : Expr} (heads : Heads known e) (args : List Expr)
    (keywords : List (Option String × Expr)) : Heads known (.call e args keywords) := by
  cases e with
  | name f => exact heads
  | _ => exact trivial

/-- The normal forms of the words among some tokens have a property, but for reserved words. -/
def Knows (known : String → Prop) (ts : List Token) : Prop :=
  ∀ w, .name w ∈ ts → ¬ isKeyword w → known (Text.normalForm w)

theorem Knows.tail {t : Token} {ts : List Token} (words : Knows known (t :: ts)) : Knows known ts :=
  fun w among => words w (List.mem_cons_of_mem t among)

theorem Knows.append {ts us : List Token} (first : Knows known ts) (second : Knows known us) :
    Knows known (ts ++ us) := by
  intro w among
  rcases List.mem_append.mp among with among | among
  · exact first w among
  · exact second w among

/-- The expression that a reader gives has a known name at its head. -/
def Reads (known : String → Prop) (x : Except GrammarError (Expr × List Token)) : Prop :=
  Ensures (fun r => Heads known r.1) x

theorem readYield_heads (n : Nat) (ts : List Token) : Reads known (readYield n ts) := by
  cases n with
  | zero => exact .error
  | succ n =>
    rw [readYield]
    refine .bind_any fun ts => ?_
    split
    · exact .bind_any fun _ => .ok trivial
    · split
      all_goals first | exact .ok trivial | exact .bind_any fun _ => .ok trivial

mutual

theorem readExpr_heads : ∀ n {ts}, Knows known ts → Reads known (readExpr n ts)
  | 0, _, _ => .error
  | n + 1, ts, words => by
    rw [readExpr]
    split
    · exact .bind_any fun _ => .bind_any fun _ => .bind_any fun _ => .ok trivial
    · refine (readOr_heads n words).bind fun r heads => ?_
      dsimp only
      split
      · exact .bind_any fun _ => .bind_any fun _ => .bind_any fun _ => .ok trivial
      · exact .ok heads

theorem readNamed_heads : ∀ n {ts}, Knows known ts → Reads known (readNamed n ts)
  | 0, _, _ => .error
  | n + 1, ts, words => by
    unfold readNamed
    split
    · split
      · exact .error
      · exact .bind_any fun _ => .ok trivial
    · exact readExpr_heads n words

theorem readStarNamed_heads : ∀ n {ts}, Knows known ts → Reads known (readStarNamed n ts)
  | 0, _, _ => .error
  | n + 1, ts, words => by
    rw [readStarNamed]
    split
    · exact .bind_any fun _ => .ok trivial
    · exact readNamed_heads n words

theorem readOr_heads : ∀ n {ts}, Knows known ts → Reads known (readOr n ts)
  | 0, _, _ => .error
  | n + 1, ts, words => by
    rw [readOr]
    refine (readAnd_heads n words).bind fun r heads => ?_
    dsimp only
    split
    · exact .bind_any fun _ => .ok trivial
    · exact .ok heads

theorem readAnd_heads : ∀ n {ts}, Knows known ts → Reads known (readAnd n ts)
  | 0, _, _ => .error
  | n + 1, ts, words => by
    rw [readAnd]
    refine (readNot_heads n words).bind fun r heads => ?_
    dsimp only
    split
    · exact .bind_any fun _ => .ok trivial
    · exact .ok heads

theorem readNot_heads : ∀ n {ts}, Knows known ts → Reads known (readNot n ts)
  | 0, _, _ => .error
  | n + 1, ts, words => by
    rw [readNot]
    split
    · exact .bind_any fun _ => .ok trivial
    · refine (readBinary_heads n words).bind fun r heads => .bind_any fun rest => .ok ?_
      dsimp only
      split
      · exact heads
      · exact trivial

theorem readBinary_heads : ∀ n {level ts}, Knows known ts → Reads known (readBinary n level ts)
  | 0, _, _, _ => .error
  | n + 1, level, ts, words => by
    rw [readBinary]
    exact (readUnary_heads n words).bind fun r heads => readBinaryRest_heads n heads

theorem readBinaryRest_heads : ∀ n {level left ts}, Heads known left →
    Reads known (readBinaryRest n level left ts)
  | 0, _, _, _, _ => .error
  | n + 1, level, left, ts, heads => by
    unfold readBinaryRest
    split
    · split
      · split
        · exact .bind_any fun _ => readBinaryRest_heads n trivial
        · exact .ok heads
      · exact .ok heads
    · exact .ok heads

theorem readUnary_heads : ∀ n {ts}, Knows known ts → Reads known (readUnary n ts)
  | 0, _, _ => .error
  | n + 1, ts, words => by
    unfold readUnary
    split
    · exact .bind_any fun _ => .ok trivial
    · exact .bind_any fun _ => .ok trivial
    · exact .bind_any fun _ => .ok trivial
    · refine (readAwait_heads n words).bind fun r heads => ?_
      dsimp only
      split
      · exact .bind_any fun _ => .ok trivial
      · exact .ok heads

theorem readAwait_heads : ∀ n {ts}, Knows known ts → Reads known (readAwait n ts)
  | 0, _, _ => .error
  | n + 1, ts, words => by
    rw [readAwait]
    split
    · exact .bind_any fun _ => .ok trivial
    · exact readPrimary_heads n words

theorem readPrimary_heads : ∀ n {ts}, Knows known ts → Reads known (readPrimary n ts)
  | 0, _, _ => .error
  | n + 1, ts, words => by
    rw [readPrimary]
    exact (readAtom_heads n words).bind fun r heads => readTrailers_heads n heads

theorem readTrailers_heads : ∀ n {e ts}, Heads known e → Reads known (readTrailers n e ts)
  | 0, _, _, _ => .error
  | n + 1, e, ts, heads => by
    unfold readTrailers
    split
    · split
      · exact .error
      · exact readTrailers_heads n trivial
    · exact .error
    · exact .bind_any fun r => readTrailers_heads n (heads.call _ _)
    · exact .bind_any fun _ => .bind_any fun _ => readTrailers_heads n trivial
    · exact .ok heads

theorem readAtom_heads : ∀ n {ts}, Knows known ts → Reads known (readAtom n ts)
  | 0, _, _ => .error
  | n + 1, ts, words => by
    unfold readAtom
    split
    · exact .ok trivial
    · exact .ok trivial
    · exact .ok trivial
    · split
      · exact .error
      · rename_i free
        exact .ok (words _ List.mem_cons_self free)
    · exact .ok trivial
    · exact .ok trivial
    · exact .ok trivial
    · exact .ok trivial
    · split
      · exact .bind_any fun _ => .ok trivial
      · refine .bind_any fun r => ?_
        dsimp only
        split
        · exact .ok trivial
        · split <;> exact .ok trivial
    · exact .ok trivial
    -- Brackets around an expression leave its head as it is.
    · split
      · exact (readYield_heads n _).bind fun r heads => .bind_any fun _ => .ok heads
      · refine (readStarNamed_heads n words.tail).bind fun r heads => ?_
        dsimp only
        split
        all_goals
          split
          · exact .bind_any fun _ => .bind_any fun _ => .ok trivial
          split
          · exact .bind_any fun _ => .ok trivial
          split
          · exact .error
          · exact .bind_any fun _ => .ok heads
    · exact .ok trivial
    · refine .bind_any fun r => ?_
      dsimp only
      split
      · split
        · exact .error
        · exact .bind_any fun _ => .bind_any fun _ => .ok trivial
      · exact .bind_any fun _ => .ok trivial
    · exact .ok trivial
    · exact .bind_any fun _ => .bind_any fun _ => .ok trivial
    · refine .bind_any fun r => ?_
      dsimp only
      split
      all_goals
        split
        · refine .bind_any fun value => ?_
          split
          · exact .bind_any fun _ => .bind_any fun _ => .ok trivial
          · exact .bind_any fun _ => .ok trivial
        split
        · split
          · exact .error
          · exact .bind_any fun _ => .bind_any fun _ => .ok trivial
        · exact .bind_any fun _ => .ok trivial
    · exact .error

end

/-- The name at the head of an expression comes from a word of the code that is not reserved. -/
theorem parse_heads {code : List Char} {ts : List Token} (tokens : Token.lex code = .ok ts)
    (words : Knows known ts) : Ensures (Heads known) (parse code) := by
  have ending {r : Expr × List Token} (heads : Heads known r.1) :
      Ensures (Heads known)
        (if r.2.all (· == .newline) then .ok r.1 else .error (unexpected r.2)) := by
    split
    · exact .ok heads
    · exact .error
  rw [parse, tokens]
  refine (readExpr_heads _ words).bind fun r heads => ?_
  dsimp only
  split
  · refine .bind_any fun more => ?_
    split
    · exact .error
    · exact ending trivial
  · exact ending heads

/-- A name is the normal form of an identifier that is not reserved. -/
def IsNormalWord (name : String) : Prop :=
  ∃ w, Text.IsIdentifier w ∧ ¬ isKeyword w ∧ name = Text.normalForm w

theorem parse_isNormalWord (code : List Char) : Ensures (Heads IsNormalWord) (parse code) := by
  cases tokens : Token.lex code with
  | error why =>
    rw [parse, tokens]
    exact .error
  | ok ts =>
    have words := Token.lexFrom_words _ _ _ _ tokens
    exact parse_heads tokens fun w among free => ⟨w, words w among, free, rfl⟩

end Expr

end SessionScript.Code
