import Mathlib.Tactic.IntervalCases
import SessionScript.Code.Token.Lexer
import SessionScript.Proofs.Template.Names
import SessionScript.Proofs.Text.Digits
import SessionScript.Proofs.Text.NormalForm
import SessionScript.Text.Numeral

/-!
# Tokens of pieces of code

The tokens of a text on one line are those of its pieces, one after the other. Names and numbers are
pieces where a bracket or a comma follows; brackets, commas and signs are pieces everywhere.
-/

namespace SessionScript.Text

variable {c d : Char}

/-! ## Characters of identifiers -/

theorem isIdentifierPart_of_isAsciiWord (word : isAsciiWord c) : isIdentifierPart c := by
  have ascii : c.val.toNat < 0x80 := isAscii_of_isAsciiWord word
  rw [isIdentifierPart, if_pos ascii, word]

theorem isIdentifierStart_of_isAsciiLetter (letter : isAsciiLetter c) : isIdentifierStart c := by
  have ascii : c.val.toNat < 0x80 := isAscii_of_isAsciiWord (isAsciiWord_of_isAsciiLetter letter)
  rw [isIdentifierStart, if_pos ascii, letter, Bool.true_or]

theorem ne_of_isIdentifierStart (start : isIdentifierStart c)
    (other : isIdentifierStart d = false) : c ≠ d := by
  rintro rfl
  rw [start] at other
  cases other

/-- What a name starts with is no form feed. -/
theorem not_formFeed (start : isIdentifierStart c) : (c.val.toNat == 12) = false := by
  rw [beq_eq_false_iff_ne]
  intro same
  refine ne_of_isIdentifierStart (d := Char.ofNat 12) start (by decide) ?_
  exact Char.ext (UInt32.toNat_inj.mp same)

end SessionScript.Text

namespace SessionScript.Code.Token

variable {c : Char} {cs piece rest : List Char} {ts us : List Token}

/-! ## Pieces -/

/-- A place on the first line, outside of every block: the number of open brackets, and whether
    the line has a token. -/
def onFirstLine (brackets : Nat) (begun : Bool) : Position := ⟨brackets, [(0, 0)], false, begun⟩

/-- A piece of text gives tokens where some text follows it, and the lexer goes on from another
    position. It takes no more steps than the piece has characters. No line breaks in the piece are
    written in another way. -/
structure Gives (p : Position) (piece rest : List Char) (ts : List Token) (q : Position) :
    Prop where
  unbroken : '\r' ∉ piece
  read : ∃ steps ≤ piece.length, ∀ fuel,
    lexFrom (fuel + steps) p (piece ++ rest) = (lexFrom fuel q rest).map (ts ++ ·)

theorem Gives.nil (p : Position) (rest : List Char) : Gives p [] rest [] p := by
  refine ⟨List.not_mem_nil, 0, Nat.le_refl 0, fun fuel => ?_⟩
  change lexFrom fuel p rest = _
  cases lexFrom fuel p rest <;> rfl

theorem Gives.append {p q r : Position} {next : List Char}
    (first : Gives p piece (next ++ rest) ts q) (second : Gives q next rest us r) :
    Gives p (piece ++ next) rest (ts ++ us) r := by
  obtain ⟨free, m, short, first⟩ := first
  obtain ⟨clear, n, brief, second⟩ := second
  refine ⟨List.not_mem_append free clear, n + m, by rw [List.length_append]; omega, fun fuel => ?_⟩
  rw [List.append_assoc, ← Nat.add_assoc, first, second]
  cases lexFrom fuel r rest with
  | error why => rfl
  | ok more => simp [Except.map]

/-- A piece that is read in one step. -/
theorem gives_of_step {p q : Position} {t : Token} (unbroken : '\r' ∉ c :: cs)
    (step : ∀ fuel, lexFrom (fuel + 1) p (c :: cs ++ rest) =
      (do return t :: (← lexFrom fuel q rest))) :
    Gives p (c :: cs) rest [t] q := by
  refine ⟨unbroken, 1, Nat.le_add_left 1 cs.length, fun fuel => ?_⟩
  rw [step]
  cases lexFrom fuel q rest <;> rfl

theorem normalizeBreaks_eq (unbroken : '\r' ∉ cs) : normalizeBreaks cs = cs := by
  induction cs with
  | nil => rfl
  | cons c cs ih =>
    obtain ⟨differs, unbroken⟩ := List.ne_and_not_mem_of_not_mem_cons unbroken
    rw [normalizeBreaks, ih unbroken]
    · rintro _ rfl
      exact absurd rfl differs
    · rintro rfl
      exact absurd rfl differs

theorem lineDepth_of_start (start : Text.isIdentifierStart c) (cs : List Char) :
    lineDepth 0 0 (c :: cs) = (0, 0, c :: cs) := by
  rw [lineDepth, Text.not_formFeed start, if_neg Bool.false_ne_true]
  · rintro rfl
    exact absurd start (by decide)
  · rintro rfl
    exact absurd start (by decide)

/-- A line that starts with a name opens and closes no block. -/
theorem lexFrom_line (start : Text.isIdentifierStart c) (cs : List Char) (fuel : Nat) :
    lexFrom (fuel + 1) ⟨0, [(0, 0)], true, false⟩ (c :: cs) =
      lexFrom fuel (onFirstLine 0 false) (c :: cs) := by
  rw [lexFrom, if_pos rfl, lineDepth_of_start start]
  simp only []
  split
  case h_1 starts => cases starts
  case h_4 =>
    change (do return [] ++ (← lexFrom fuel (onFirstLine 0 false) (c :: cs))) = _
    simp
  all_goals
    rename_i starts
    obtain ⟨rfl, -⟩ := List.cons.inj starts
    exact absurd start (by decide)

theorem lexFrom_end (fuel brackets : Nat) (begun : Bool) :
    lexFrom fuel (onFirstLine brackets begun) [] = .ok (finish (onFirstLine brackets begun)) := by
  cases fuel <;> rfl

/-- The tokens of a line are those that it gives as a whole, and its end. -/
theorem lex_of_gives {brackets : Nat} (start : Text.isIdentifierStart c)
    (gives : Gives (onFirstLine 0 false) (c :: cs) [] ts (onFirstLine brackets true)) :
    lex (c :: cs) = .ok (ts ++ [.newline]) := by
  obtain ⟨unbroken, steps, short, read⟩ := gives
  rw [List.append_nil] at read
  obtain ⟨spare, enough⟩ : ∃ spare, 2 * (c :: cs).length + 2 = spare + steps + 1 :=
    ⟨2 * (c :: cs).length + 1 - steps, by omega⟩
  rw [lex, normalizeBreaks_eq unbroken, enough, lexFrom_line start, read, lexFrom_end]
  rfl

/-! ## Names -/

/-- What may follow a name or a number in a call. -/
def isStop (c : Char) : Bool := c == '(' || c == ')' || c == ','

/-- A bracket or a comma comes next. -/
def Stops (rest : List Char) : Prop := ∃ d more, rest = d :: more ∧ isStop d

theorem isStop_cases (stop : isStop c) : c = '(' ∨ c = ')' ∨ c = ',' := by
  simpa [isStop, or_assoc] using stop

/-- The characters of a name are one token, also where they could mark a string. -/
theorem gives_name {name : String} (named : Text.IsIdentifier name) (stops : Stops rest)
    (brackets : Nat) (begun : Bool) :
    Gives (onFirstLine brackets begun) name.toList rest [.name name]
      (onFirstLine brackets true) := by
  obtain ⟨c, cs, text, start, parts⟩ := named
  obtain ⟨d, more, rfl, stop⟩ := stops
  have whole : String.ofList (c :: cs) = name := by rw [← text, String.ofList_toList]
  have other : Text.isIdentifierPart d = false := by
    rcases isStop_cases stop with rfl | rfl | rfl <;> decide
  have apart : (d == '"' || d == '\'') = false := by
    rcases isStop_cases stop with rfl | rfl | rfl <;> decide
  have taken : (c :: (cs ++ d :: more)).takeWhile Text.isIdentifierPart = c :: cs := by
    rw [← List.cons_append, List.takeWhile_append_of_pos parts]
    simp [other]
  have dropped : (c :: (cs ++ d :: more)).dropWhile Text.isIdentifierPart = d :: more := by
    rw [← List.cons_append, List.dropWhile_append_of_pos parts]
    simp [other]
  have unquoted : ¬ (c == '"' || c == '\'') := by
    simp [Text.ne_of_isIdentifierStart (d := '"') start (by decide),
      Text.ne_of_isIdentifierStart (d := '\'') start (by decide)]
  rw [text, ← whole]
  refine gives_of_step (fun among => absurd (parts _ among) (by decide)) fun fuel => ?_
  rw [List.cons_append, lexFrom, onFirstLine, if_neg Bool.false_ne_true]
  split
  case h_1 starts => cases starts
  case h_7 starts =>
    obtain ⟨rfl, rfl⟩ := List.cons.inj starts
    rw [Text.not_formFeed start, if_neg Bool.false_ne_true, if_neg unquoted, if_pos start]
    simp only [taken, dropped]
    split
    · rename_i after _
      obtain ⟨rfl, -⟩ := List.cons.inj after
      rw [apart, if_neg Bool.false_ne_true]
      rfl
    · rfl
  all_goals
    rename_i starts
    obtain ⟨rfl, -⟩ := List.cons.inj starts
    exact absurd start (by decide)

/-! ## Marks -/

/-- An opening bracket is one token where no bracket is open. -/
theorem gives_open (rest : List Char) (begun : Bool) :
    Gives (onFirstLine 0 begun) ['('] rest [.op "("] (onFirstLine 1 true) :=
  gives_of_step (by decide) fun _ => rfl

/-- A closing bracket is one token. -/
theorem gives_close (rest : List Char) (begun : Bool) :
    Gives (onFirstLine 1 begun) [')'] rest [.op ")"] (onFirstLine 0 true) :=
  gives_of_step (by decide) fun _ => rfl

/-- A comma is one token, and the space behind it is none. -/
theorem gives_comma (rest : List Char) (brackets : Nat) (begun : Bool) :
    Gives (onFirstLine brackets begun) [',', ' '] rest [.op ","] (onFirstLine brackets true) :=
  ⟨by decide, 2, Nat.le_refl 2, fun fuel => by
    change (do return Token.op "," :: (← lexFrom fuel (onFirstLine brackets true) rest)) = _
    cases lexFrom fuel (onFirstLine brackets true) rest <;> rfl⟩

/-! ## Numbers -/

/-- The digits of a number end where a character of another class follows. -/
theorem digitRun_append {p : Char → Bool} {ds : List Char} {d : Char} (digits : ∀ c ∈ ds, p c)
    (other : p d = false) (low : p '_' = false) (apart : d ≠ '_') (more : List Char) :
    digitRun p (ds ++ d :: more) = .ok (ds, d :: more) := by
  induction ds with
  | nil =>
    rw [List.nil_append]
    unfold digitRun
    split <;> simp_all
  | cons c cs ih =>
    obtain ⟨digit, digits⟩ := List.forall_mem_cons.mp digits
    obtain ⟨e, es, next, unlow⟩ : ∃ e es, cs ++ d :: more = e :: es ∧ e ≠ '_' := by
      cases cs with
      | nil => exact ⟨d, more, rfl, apart⟩
      | cons e es =>
        refine ⟨e, es ++ d :: more, rfl, ?_⟩
        rintro rfl
        have := digits '_' List.mem_cons_self
        rw [low] at this
        cases this
    rw [List.cons_append, digitRun, if_pos digit, ih digits]
    · rfl
    all_goals
      rw [next]
      simp [unlow]

/-- A decimal number of a length that is read is one number. -/
theorem decimalNumber_digits {n : Nat} (short : (Text.digits 10 n).length ≤ maxIntegerDigits)
    (stops : Stops rest) : decimalNumber (Text.digits 10 n ++ rest) = .ok (.int n, rest) := by
  obtain ⟨d, more, rfl, stop⟩ := stops
  have run : digitRun Text.isAsciiDigit (Text.digits 10 n ++ d :: more) =
      .ok (Text.digits 10 n, d :: more) := by
    refine digitRun_append ?_ ?_ rfl ?_ more
    · exact List.all_eq_true.mp (Text.digits_all (by decide) n)
    all_goals rcases isStop_cases stop with rfl | rfl | rfl <;> decide
  have value : Text.number? 10 (Text.digits 10 n) = some n := by
    simp [Text.number?, Text.digits_ne_nil, Text.numberFrom_digits]
  have proper : ((Text.digits 10 n).head? == some '0' && (Text.digits 10 n).any (· != '0')) =
      false := by
    rcases Text.digits_cases n with zero | ⟨first, ds, same, positive, small⟩
    · simp [zero]
    · have nonzero : ∀ d < 10, 0 < d → Text.digitChar d ≠ '0' := by decide
      simp [same, nonzero first small positive]
  have whole : wholeNumber (Text.digits 10 n) (d :: more) = .ok (.int n, d :: more) := by
    rw [wholeNumber, if_neg (Nat.not_lt.mpr short), proper, if_neg Bool.false_ne_true, value]
    rfl
  rw [decimalNumber, run]
  rcases isStop_cases stop with rfl | rfl | rfl <;> exact whole

/-- A decimal number has no mark of another base. -/
theorem lexNumber_digits {n : Nat} (short : (Text.digits 10 n).length ≤ maxIntegerDigits)
    (stops : Stops rest) : lexNumber (Text.digits 10 n ++ rest) = .ok (.int n, rest) := by
  rw [← decimalNumber_digits short stops]
  obtain ⟨d, more, rfl, stop⟩ := stops
  rcases Text.digits_cases n with zero | ⟨first, ds, same, positive, small⟩
  · rw [zero]
    rcases isStop_cases stop with rfl | rfl | rfl <;> rfl
  · have nonzero : ∀ d < 10, 0 < d → Text.digitChar d ≠ '0' := by decide
    have differs := nonzero first small positive
    rw [same, List.cons_append]
    unfold lexNumber
    split
    case h_7 => rfl
    all_goals
      rename_i starts
      exact absurd (List.cons.inj starts).1 differs

/-- The digits of a number of a length that is read are one token. -/
theorem gives_digits {n : Nat} (short : (Text.digits 10 n).length ≤ maxIntegerDigits)
    (stops : Stops rest) (brackets : Nat) (begun : Bool) :
    Gives (onFirstLine brackets begun) (Text.digits 10 n) rest [.number (.int n)]
      (onFirstLine brackets true) := by
  have read := lexNumber_digits short stops
  obtain ⟨first, ds, same, small⟩ := Text.exists_digit n
  have unbroken : '\r' ∉ Text.digits 10 n := fun among =>
    absurd (List.all_eq_true.mp (Text.digits_all (P := Text.isAsciiDigit) (by decide) n) _ among)
      (by decide)
  rw [same] at read unbroken ⊢
  refine gives_of_step unbroken fun fuel => ?_
  have step : lexFrom (fuel + 1) (onFirstLine brackets begun)
      (Text.digitChar first :: ds ++ rest) = (do
        let r ← lexNumber (Text.digitChar first :: ds ++ rest)
        return .number r.1 :: (← lexFrom fuel (onFirstLine brackets true) r.2)) := by
    interval_cases first <;> rfl
  rw [step, read]
  rfl

/-- A minus sign in front of digits is one token. -/
theorem gives_minus (n : Nat) (rest : List Char) (brackets : Nat) (begun : Bool) :
    Gives (onFirstLine brackets begun) ['-'] (Text.digits 10 n ++ rest) [.op "-"]
      (onFirstLine brackets true) := by
  obtain ⟨first, ds, same, small⟩ := Text.exists_digit n
  rw [same]
  refine gives_of_step (by decide) fun fuel => ?_
  interval_cases first <;> rfl

end SessionScript.Code.Token
