import SessionScript.Code.Escape
import SessionScript.Proofs.Code.Lexing
import SessionScript.Text.Quoted

/-!
# Quoted texts as strings of code

A text in quotes is one string token, whatever the text, and the body of the string denotes the
text. Every character is written in one of three ways that the lexer passes over and the escapes
give back.
-/

namespace SessionScript.Text

theorem toNat_lt (c : Char) : c.toNat < 0x110000 := by
  have valid := c.valid
  change c.toNat < 0xD800 ∨ 0xDFFF < c.toNat ∧ c.toNat < 0x110000 at valid
  omega

end SessionScript.Text

namespace SessionScript.Code

open Text

/-! ## Characters between quotes -/

/-- The ways to write a character between quotes: as it is, as a letter behind a backslash, and as
    its code point. -/
inductive Written (quote c : Char) : List Char → Prop where
  | plain (other : c ≠ quote) (unescaped : c ≠ '\\') (inline : c ≠ '\n') (unbroken : c ≠ '\r') :
    Written quote c [c]
  | letter {l : Char} (denotes : Escape.simple? l = some c) : Written quote c ['\\', l]
  | code {l : Char} {width : Nat} (wide : Escape.hexWidth? true l = some width)
    (small : c.toNat < 16 ^ width) : Written quote c ('\\' :: l :: hexPad width c.toNat)

/-- Whether a character is one of the two quotes. -/
def isQuote (c : Char) : Bool := c == '"' || c == '\''

theorem isQuote_cases {c : Char} (isQuote : isQuote c) : c = '"' ∨ c = '\'' := by
  simpa [Code.isQuote] using isQuote

theorem isQuote_quoteFor (cs : List Char) : isQuote (quoteFor cs) := by
  rw [quoteFor]
  split <;> rfl

variable {quote c : Char} {piece rest : List Char}

theorem written_escapeCode (quote c : Char) : Written quote c (escapeCode c.toNat) := by
  have valid := toNat_lt c
  rw [escapeCode]
  split
  · exact .code rfl (by omega)
  · split
    · exact .code rfl (by omega)
    · exact .code rfl (by omega)

theorem written_quoteChar (isQuote : isQuote quote) (c : Char) :
    Written quote c (quoteChar quote c) := by
  rw [quoteChar]
  split
  · rename_i marked
    rcases Bool.or_eq_true_iff.mp marked with same | same
    · rw [eq_of_beq same]
      rcases isQuote_cases isQuote with rfl | rfl <;> exact .letter rfl
    · rw [eq_of_beq same]
      exact .letter rfl
  · rename_i unmarked
    rw [Bool.or_eq_true, beq_iff_eq, beq_iff_eq, not_or] at unmarked
    by_cases feed : c = '\n'
    · subst feed
      exact .letter rfl
    by_cases back : c = '\r'
    · subst back
      exact .letter rfl
    by_cases tab : c = '\t'
    · subst tab
      exact .letter rfl
    rw [if_neg (by simpa using feed), if_neg (by simpa using back), if_neg (by simpa using tab)]
    split
    · exact .plain unmarked.1 unmarked.2 feed back
    · exact written_escapeCode quote c

/-! ## Bodies of strings -/

theorem shortBody_plain (other : c ≠ quote) (unescaped : c ≠ '\\') (inline : c ≠ '\n')
    (cs : List Char) :
    Token.shortBody quote (c :: cs) =
      (Token.shortBody quote cs).map fun (b, rest) => (c :: b, rest) := by
  rw [Token.shortBody]
  · rw [if_neg (by simpa using other), if_neg (by simpa using inline)]
  · rintro _ _ rfl
    exact absurd rfl unescaped

theorem shortBody_plains {ds : List Char}
    (plain : ∀ d ∈ ds, d ≠ quote ∧ d ≠ '\\' ∧ d ≠ '\n') (cs : List Char) :
    Token.shortBody quote (ds ++ cs) =
      (Token.shortBody quote cs).map fun (b, rest) => (ds ++ b, rest) := by
  induction ds with
  | nil => simp
  | cons d ds ih =>
    obtain ⟨⟨other, unescaped, inline⟩, plain⟩ := List.forall_mem_cons.mp plain
    rw [List.cons_append, shortBody_plain other unescaped inline, ih plain, Option.map_map]
    rfl

theorem hexPad_plain (isQuote : isQuote quote) {width n : Nat} :
    ∀ d ∈ hexPad width n, d ≠ quote ∧ d ≠ '\\' ∧ d ≠ '\n' ∧ d ≠ '\r' := by
  intro d among
  obtain ⟨k, small, rfl⟩ := mem_hexPad among
  have each : ∀ k < 16, digitChar k ≠ '"' ∧ digitChar k ≠ '\'' ∧ digitChar k ≠ '\\' ∧
      digitChar k ≠ '\n' ∧ digitChar k ≠ '\r' := by decide
  obtain ⟨double, single, others⟩ := each k small
  rcases isQuote_cases isQuote with rfl | rfl
  · exact ⟨double, others⟩
  · exact ⟨single, others⟩

/-- A quoted character does not end a string. -/
theorem Written.shortBody (isQuote : isQuote quote) (written : Written quote c piece)
    (cs : List Char) :
    Token.shortBody quote (piece ++ cs) =
      (Token.shortBody quote cs).map fun (b, rest) => (piece ++ b, rest) := by
  cases written with
  | plain other unescaped inline _ => exact shortBody_plain other unescaped inline cs
  | letter denotes => rfl
  | @code l width wide small =>
    have plain : ∀ d ∈ hexPad width c.toNat, d ≠ quote ∧ d ≠ '\\' ∧ d ≠ '\n' := by
      intro d among
      obtain ⟨other, unescaped, inline, -⟩ := hexPad_plain isQuote d among
      exact ⟨other, unescaped, inline⟩
    have digits := shortBody_plains plain cs
    rw [List.cons_append, List.cons_append, Token.shortBody, digits, Option.map_map]
    rfl

theorem Written.unbroken (isQuote : isQuote quote) (written : Written quote c piece) :
    '\r' ∉ piece := by
  cases written with
  | plain _ _ _ unbroken => simpa using unbroken.symm
  | @letter l denotes =>
    have other : l ≠ '\r' := by
      rintro rfl
      cases denotes
    simpa using other.symm
  | @code l width wide small =>
    have other : l ≠ '\r' := by
      rintro rfl
      cases wide
    have digits : '\r' ∉ hexPad width c.toNat := fun among =>
      (hexPad_plain isQuote _ among).2.2.2 rfl
    simpa [digits] using other.symm

/-- A quoted character is no quote by itself. -/
theorem Written.head (isQuote : isQuote quote) (written : Written quote c piece) :
    ∃ d ds, piece = d :: ds ∧ d ≠ quote := by
  have back : '\\' ≠ quote := by rcases isQuote_cases isQuote with rfl | rfl <;> decide
  cases written with
  | plain other _ _ _ => exact ⟨c, [], rfl, other⟩
  | letter denotes => exact ⟨_, _, rfl, back⟩
  | code wide small => exact ⟨_, _, rfl, back⟩

/-! ## What the body denotes -/

theorem hexDigits_append (ds cs : List Char) : ∀ acc,
    Escape.hexDigits ds.length acc (ds ++ cs) = (numberFrom 16 acc ds).map fun n => (n, cs) := by
  induction ds with
  | nil => exact fun acc => rfl
  | cons d ds ih =>
    intro acc
    rw [List.length_cons, List.cons_append, Escape.hexDigits, numberFrom]
    cases digitValue? 16 d with
    | none => rfl
    | some v => exact ih _

theorem hexDigits_hexPad {width n : Nat} (small : n < 16 ^ width) (some : 0 < width)
    (cs : List Char) : Escape.hexDigits width 0 (hexPad width n ++ cs) = .some (n, cs) := by
  have read := hexDigits_append (hexPad width n) cs 0
  rw [length_hexPad small some, numberFrom_hexPad] at read
  exact read

theorem hexWidth?_some {l : Char} {width : Nat} (wide : Escape.hexWidth? true l = some width) :
    Escape.simple? l = none ∧ 0 < width := by
  unfold Escape.hexWidth? at wide
  split at wide <;> cases wide <;> exact ⟨rfl, by decide⟩

/-- A quoted character denotes itself. -/
theorem Written.decodeFrom (written : Written quote c piece) (fuel : Nat) (cs : List Char) :
    Escape.decodeFrom true (fuel + 1) (piece ++ cs) =
      (do return c.toNat :: (← Escape.decodeFrom true fuel cs)) := by
  cases written with
  | plain _ unescaped _ _ =>
    rw [List.singleton_append, Escape.decodeFrom]
    · rfl
    · exact fun _ same => absurd same unescaped
    · exact fun _ _ same => absurd same unescaped
  | @letter l denotes =>
    rw [List.cons_append, List.singleton_append, Escape.decodeFrom, denotes]
    · rfl
    · rintro rfl
      cases denotes
  | @code l width wide small =>
    obtain ⟨complex, some⟩ := hexWidth?_some wide
    rw [List.cons_append, List.cons_append, Escape.decodeFrom, complex]
    · simp only [wide, hexDigits_hexPad small some, if_pos (toNat_lt c)]
    · rintro rfl
      cases wide

/-! ## Quoted texts -/

/-- A text between quotes. -/
def quotedBody (quote : Char) (cs : List Char) : List Char := cs.flatMap (quoteChar quote)

section Body

variable (isQuote : isQuote quote)
include isQuote

theorem shortBody_quotedBody (cs rest : List Char) :
    Token.shortBody quote (quotedBody quote cs ++ quote :: rest) =
      some (quotedBody quote cs, rest) := by
  induction cs with
  | nil => rcases isQuote_cases isQuote with rfl | rfl <;> rfl
  | cons c cs ih =>
    have cons : quotedBody quote (c :: cs) = quoteChar quote c ++ quotedBody quote cs := rfl
    rw [cons, List.append_assoc, (written_quoteChar isQuote c).shortBody isQuote, ih]
    rfl

theorem decodeFrom_quotedBody (cs : List Char) : ∀ fuel, cs.length ≤ fuel →
    Escape.decodeFrom true fuel (quotedBody quote cs) = .ok (cs.map Char.toNat) := by
  induction cs with
  | nil =>
    intro fuel _
    cases fuel <;> rfl
  | cons c cs ih =>
    intro fuel enough
    obtain ⟨fuel, rfl⟩ := Nat.exists_eq_succ_of_ne_zero (Nat.ne_of_gt (Nat.lt_of_lt_of_le
      (Nat.succ_pos cs.length) enough))
    have cons : quotedBody quote (c :: cs) = quoteChar quote c ++ quotedBody quote cs := rfl
    rw [cons, (written_quoteChar isQuote c).decodeFrom,
      ih fuel (Nat.le_of_succ_le_succ enough)]
    rfl

theorem length_quotedBody (cs : List Char) : cs.length ≤ (quotedBody quote cs).length := by
  induction cs with
  | nil => exact Nat.le_refl 0
  | cons c cs ih =>
    obtain ⟨d, ds, same, -⟩ := (written_quoteChar isQuote c).head isQuote
    have cons : quotedBody quote (c :: cs) = quoteChar quote c ++ quotedBody quote cs := rfl
    rw [cons, same, List.length_append, List.length_cons, List.length_cons]
    omega

/-- The text between quotes denotes the text. -/
theorem text_quotedBody (s : String) : Escape.text false (quotedBody quote s.toList) = .ok s := by
  have enough : s.toList.length ≤ (quotedBody quote s.toList).length + 1 :=
    Nat.le_succ_of_le (length_quotedBody isQuote s.toList)
  rw [Escape.text, if_neg Bool.false_ne_true, decodeFrom_quotedBody isQuote _ _ enough]
  have back : (s.toList.map Char.toNat).map Char.ofNat = s.toList := by
    rw [List.map_map]
    exact (List.map_congr_left fun c _ => Char.ofNat_toNat c).trans (List.map_id _)
  change Except.ok (String.ofList ((s.toList.map Char.toNat).map Char.ofNat)) = _
  rw [back, String.ofList_toList]

/-- The quotes around a text are two in a row at most, so they open no long string. -/
theorem lexString_quotedBody (cs : List Char) (stops : Token.Stops rest) :
    Token.lexString {} quote (quote :: (quotedBody quote cs ++ quote :: rest)) =
      .ok (.string {} (quotedBody quote cs), rest) := by
  have short : Token.startsWith [quote, quote, quote]
      (quote :: (quotedBody quote cs ++ quote :: rest)) = false := by
    cases cs with
    | nil =>
      obtain ⟨d, more, rfl, stop⟩ := stops
      rcases isQuote_cases isQuote with rfl | rfl <;>
        rcases Token.isStop_cases stop with rfl | rfl | rfl <;> rfl
    | cons c cs =>
      obtain ⟨d, ds, same, other⟩ := (written_quoteChar isQuote c).head isQuote
      have cons : quotedBody quote (c :: cs) = quoteChar quote c ++ quotedBody quote cs := rfl
      rw [cons, same]
      simp [Token.startsWith, Token.dropLead, other.symm]
  rw [Token.lexString]
  simp only [short, Bool.false_eq_true, if_false, List.drop_one, List.tail_cons,
    shortBody_quotedBody isQuote]

theorem quotedBody_unbroken (cs : List Char) : '\r' ∉ quotedBody quote cs := by
  intro among
  obtain ⟨c, -, within⟩ := List.mem_flatMap.mp among
  exact (written_quoteChar isQuote c).unbroken isQuote within

/-- A text between quotes is one token. -/
theorem gives_quotedBody (cs : List Char) (stops : Token.Stops rest) (brackets : Nat)
    (begun : Bool) :
    Token.Gives (Token.onFirstLine brackets begun) (quote :: (quotedBody quote cs ++ [quote])) rest
      [.string {} (quotedBody quote cs)] (Token.onFirstLine brackets true) := by
  have unbroken : '\r' ∉ quote :: (quotedBody quote cs ++ [quote]) := by
    have apart : '\r' ≠ quote := by rcases isQuote_cases isQuote with rfl | rfl <;> decide
    simpa [apart] using quotedBody_unbroken isQuote cs
  refine Token.gives_of_step unbroken fun fuel => ?_
  have text : quote :: (quotedBody quote cs ++ [quote]) ++ rest =
      quote :: (quotedBody quote cs ++ quote :: rest) := by simp
  have step : Token.lexFrom (fuel + 1) (Token.onFirstLine brackets begun)
      (quote :: (quotedBody quote cs ++ quote :: rest)) = (do
        let r ← Token.lexString {} quote (quote :: (quotedBody quote cs ++ quote :: rest))
        return r.1 :: (← Token.lexFrom fuel (Token.onFirstLine brackets true) r.2)) := by
    rcases isQuote_cases isQuote with rfl | rfl <;> rfl
  rw [text, step, lexString_quotedBody isQuote cs stops]
  rfl

end Body

end SessionScript.Code
