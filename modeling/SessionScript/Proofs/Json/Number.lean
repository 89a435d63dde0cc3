import Mathlib.Data.List.TakeWhile
import SessionScript.Json
import SessionScript.Proofs.Decimal.Shortest
import SessionScript.Proofs.Json.Reader

/-!
# Numbers in JSON text

The text of an integer is read as that integer. The text of a binary number is read as a number if
it is finite; the other ones have names that JSON does not know.
-/

namespace SessionScript.Json

/-! ## Digits -/

theorem isDigit_digitChar : ∀ n < 10, isDigit (Text.digitChar n) := by decide

theorem digits_all_isDigit (n : Nat) : (Text.digits 10 n).all isDigit :=
  Text.digits_all isDigit_digitChar n

/-- Digits are read up to where they end. -/
theorem digits?_append {ds rest : List Char} (digits : ds.all isDigit) (ne : ds ≠ [])
    (ends : ∀ c ∈ rest.head?, ¬ isDigit c) : digits? (ds ++ rest) = some (ds, rest) := by
  have first : (ds ++ rest).takeWhile isDigit = ds := by
    rw [List.takeWhile_append_of_pos (List.all_eq_true.mp digits)]
    cases rest with
    | nil => simp
    | cons c cs => simp [List.takeWhile_cons_of_neg (ends c rfl)]
  simp [digits?, first, ne]

theorem digits?_of_digits {ds : List Char} (digits : ds.all isDigit) (ne : ds ≠ []) :
    digits? ds = some (ds, []) := by
  have read : digits? (ds ++ []) = some (ds, []) := digits?_append digits ne (by simp)
  rwa [List.append_nil] at read

/-- Digits denote a number. -/
theorem number?_of_digits {ds : List Char} (digits : ds.all isDigit) (ne : ds ≠ []) :
    ∃ n, Text.number? 10 ds = some n := by
  have value {c : Char} (digit : isDigit c) : ∃ v, Text.digitValue? 10 c = some v := by
    have range : 48 ≤ c.toNat ∧ c.toNat ≤ 57 := by
      simpa [isDigit, Char.le_def, UInt32.le_iff_toNat_le] using digit
    have small : c.toNat - 48 < 10 := by omega
    exact ⟨c.toNat - 48, by simp [Text.digitValue?, range, small]⟩
  have onward : ∀ (cs : List Char) (acc : Nat), cs.all isDigit →
      ∃ n, Text.numberFrom 10 acc cs = some n := by
    intro cs
    induction cs with
    | nil => exact fun acc _ => ⟨acc, rfl⟩
    | cons c cs ih =>
      intro acc digits
      rw [List.all_cons, Bool.and_eq_true_iff] at digits
      obtain ⟨v, known⟩ := value digits.1
      obtain ⟨n, rest⟩ := ih (acc * 10 + v) digits.2
      exact ⟨n, by simp [Text.numberFrom, known, rest]⟩
  obtain ⟨n, known⟩ := onward ds 0 digits
  exact ⟨n, by simp [Text.number?, ne, known]⟩

/-! ## Integers -/

/-- The digits of a number are read as that number. -/
theorem unsigned?_digits (s : Int) (n : Nat) :
    unsigned? s (Text.digits 10 n) = some (.int (s * n)) := by
  have proper : (Text.digits 10 n).head? = some '0' → (Text.digits 10 n).length = 1 := by
    rcases Text.digits_cases n with zero | ⟨d, ds, same, positive, small⟩
    · simp [zero]
    · have nonzero : ∀ d < 10, 0 < d → Text.digitChar d ≠ '0' := by decide
      simp [same, nonzero d small positive]
  have digits := digits?_of_digits (digits_all_isDigit n) (Text.digits_ne_nil n)
  simpa [unsigned?, digits, fraction?, exponent?, Text.number?, Text.digits_ne_nil,
    Text.numberFrom_digits] using proper

/-- A word that starts with a digit has no sign. -/
theorem number?_of_digit {c : Char} (digit : isDigit c) (cs : List Char) :
    number? (c :: cs) = unsigned? 1 (c :: cs) := by
  unfold number?
  split
  · rename_i same
    obtain ⟨rfl, -⟩ := List.cons.inj same
    exact absurd digit (by decide)
  · rfl

/-- The text of an integer is the word of that integer. -/
theorem number?_ofInt (i : Int) : number? (Text.ofInt i).toList = some (.int i) := by
  by_cases negative : i < 0
  · have text : (Text.ofInt i).toList = '-' :: Text.digits 10 i.natAbs := by
      simp [Text.ofInt, Text.ofNat, negative]
    have value : -1 * (i.natAbs : Int) = i := by omega
    rw [text, number?, unsigned?_digits, value]
  · have text : (Text.ofInt i).toList = Text.digits 10 i.natAbs := by
      simp [Text.ofInt, Text.ofNat, negative]
    have value : 1 * (i.natAbs : Int) = i := by omega
    rw [text, ← value, ← unsigned?_digits, value]
    cases digits : Text.digits 10 i.natAbs with
    | nil => exact absurd digits (Text.digits_ne_nil _)
    | cons c cs =>
      refine number?_of_digit ?_ cs
      have all := digits_all_isDigit i.natAbs
      rw [digits, List.all_cons, Bool.and_eq_true_iff] at all
      exact all.1

/-! ## Numbers with a fraction or an exponent -/

/-- The parts of the text of a number without its sign. -/
structure Numeral where
  whole : List Char
  part : List Char
  exponent : Option Int

namespace Numeral

/-- The exponent of a number, if there is one. -/
def tail (n : Numeral) : List Char :=
  match n.exponent with
  | some e => 'e' :: NumberLayout.exponentText e
  | none => []

/-- The point and the digits after it, if there are any. -/
def fraction (n : Numeral) : List Char := if n.part.isEmpty then [] else '.' :: n.part

/-- The text of a number. -/
def text (n : Numeral) : List Char := n.whole ++ (n.fraction ++ n.tail)

/-- Digits before the point, without a zero in front of others, and digits after it. -/
structure Valid (n : Numeral) : Prop where
  whole : n.whole.all isDigit
  whole_ne : n.whole ≠ []
  proper : n.whole.head? = some '0' → n.whole.length = 1
  part : n.part.all isDigit

variable {n : Numeral}

theorem tail_ends (n : Numeral) : ∀ c ∈ n.tail.head?, ¬ isDigit c := by
  rw [tail]
  split
  · rintro c known
    cases known
    decide
  · exact fun c known => nomatch known

/-- An exponent is a sign and digits. -/
theorem exponentText_digits (e : Int) :
    ∃ c ds, NumberLayout.exponentText e = c :: ds ∧ (c = '-' ∨ c = '+') ∧ ds.all isDigit ∧
      ds ≠ [] := by
  have zero : isDigit '0' := by decide
  have digits := digits_all_isDigit e.natAbs
  refine ⟨_, _, rfl, ?_, ?_, ?_⟩
  · split <;> simp
  · split
    · rw [List.all_cons, zero, digits]
      rfl
    · exact digits
  · split
    · exact List.cons_ne_nil _ _
    · exact Text.digits_ne_nil _

theorem exponent?_tail (n : Numeral) : ∃ e, exponent? n.tail = some e := by
  rw [tail]
  split
  · rename_i e known
    obtain ⟨c, ds, text, signed, digits, ne⟩ := exponentText_digits e
    have read := digits?_of_digits digits ne
    obtain ⟨v, value⟩ := number?_of_digits digits ne
    rcases signed with rfl | rfl
    · exact ⟨_, by simp [exponent?, text, sign, read, value]; rfl⟩
    · exact ⟨_, by simp [exponent?, text, sign, read, value]; rfl⟩
  · exact ⟨none, rfl⟩

theorem fraction?_append (valid : n.Valid) :
    fraction? (n.fraction ++ n.tail) = some (n.part, n.tail) := by
  rw [fraction]
  split
  · rename_i empty
    rw [List.isEmpty_iff.mp empty, List.nil_append, fraction?]
    rintro cs same
    rw [tail] at same
    split at same <;> cases same
  · rename_i nonempty
    exact digits?_append valid.part (by simpa using nonempty) n.tail_ends

theorem fraction_ends (n : Numeral) : ∀ c ∈ (n.fraction ++ n.tail).head?, ¬ isDigit c := by
  rw [fraction]
  split
  · exact n.tail_ends
  · rintro c known
    cases known
    decide

/-- The text of a number is read as one. -/
theorem Valid.unsigned?_isSome (valid : n.Valid) (s : Int) : (unsigned? s n.text).isSome := by
  obtain ⟨e, exponent⟩ := n.exponent?_tail
  have digits := digits?_append valid.whole valid.whole_ne n.fraction_ends
  have all : (n.whole ++ n.part).all isDigit := by
    rw [List.all_append, valid.whole, valid.part]
    rfl
  obtain ⟨m, value⟩ := number?_of_digits all (by simp [valid.whole_ne])
  have proper : ¬ (n.whole.head? == some '0' && n.whole.length != 1) := by
    simpa using valid.proper
  simp only [unsigned?, text, digits, fraction?_append valid, exponent, value, Option.bind_eq_bind,
    Option.bind_some, if_neg proper]
  split <;> rfl

/-- The text of a number starts with a digit. -/
theorem Valid.number?_isSome (valid : n.Valid) (negative : Bool) :
    (number? (if negative then '-' :: n.text else n.text)).isSome := by
  split
  · exact valid.unsigned?_isSome (-1)
  · have signless := valid.unsigned?_isSome 1
    have digits := valid.whole
    match whole : n.whole, valid.whole_ne with
    | c :: cs, _ =>
      rw [whole, List.all_cons, Bool.and_eq_true_iff] at digits
      rw [text, whole, List.cons_append] at signless ⊢
      rwa [number?_of_digit digits.1]

end Numeral

/-! ## Layouts -/

section Layout

variable {d : Decimal} (written : d.IsWritten)
include written

theorem digits_isDigit : d.digits.all isDigit := by
  refine List.all_eq_true.mpr fun c known => ?_
  obtain ⟨n, small, rfl⟩ := written.digit c known
  exact isDigit_digitChar n small

/-- Some of the first digits of a decimal, and zeros after them, are the whole part of a number. -/
theorem whole_of_take (m k : Nat) (ne : 0 < m) :
    ((d.digits.take m ++ List.replicate k '0').all isDigit) ∧
      d.digits.take m ++ List.replicate k '0' ≠ [] ∧
      (d.digits.take m ++ List.replicate k '0').head? ≠ some '0' := by
  have zero : isDigit '0' := by decide
  have digits := digits_isDigit written
  obtain ⟨n, ns, same, positive, small⟩ := written.leading
  have nonzero : ∀ n < 10, 0 < n → Text.digitChar n ≠ '0' := by decide
  obtain ⟨m, rfl⟩ := Nat.exists_eq_succ_of_ne_zero ne.ne'
  refine ⟨?_, by simp [same], by simp [same, nonzero n small positive]⟩
  rw [List.all_append, Bool.and_eq_true_iff]
  refine ⟨List.all_eq_true.mpr fun c known => ?_, List.all_eq_true.mpr fun c known => ?_⟩
  · exact List.all_eq_true.mp digits c (List.mem_of_mem_take known)
  · rw [List.eq_of_mem_replicate known]
    exact zero

/-- A decimal without an exponent is a number. -/
theorem positional_numeral :
    ∃ n : Numeral, n.Valid ∧ n.text = NumberLayout.positional d := by
  have zero : isDigit '0' := by decide
  have digits := digits_isDigit written
  rw [NumberLayout.positional]
  split
  · refine ⟨⟨['0'], List.replicate d.point.natAbs '0' ++ d.digits, none⟩,
      ⟨by simp [zero], by simp, by simp, ?_⟩, ?_⟩
    · rw [List.all_append, digits]
      simp [zero]
    · obtain ⟨n, ns, same, -⟩ := written.leading
      simp [Numeral.text, Numeral.fraction, Numeral.tail, same]
  · rename_i right
    have some : 0 < d.point.toNat := by omega
    dsimp only
    split
    · rename_i short
      obtain ⟨all, ne, proper⟩ := whole_of_take written d.point.toNat
        (d.point.toNat - d.digits.length) some
      refine ⟨⟨_, ['0'], none⟩, ⟨all, ne, fun lead => absurd lead proper, by simp [zero]⟩, ?_⟩
      simp [Numeral.text, Numeral.fraction, Numeral.tail, List.take_of_length_le short]
    · rename_i long
      obtain ⟨all, ne, proper⟩ := whole_of_take written d.point.toNat 0 some
      refine ⟨⟨_, d.digits.drop d.point.toNat, none⟩,
        ⟨all, ne, fun lead => absurd lead proper, ?_⟩, ?_⟩
      · exact List.all_eq_true.mpr fun c known =>
          List.all_eq_true.mp digits c (List.mem_of_mem_drop known)
      · have rest : ¬ d.digits.length ≤ d.point.toNat := long
        simp [Numeral.text, Numeral.fraction, Numeral.tail, rest]

/-- A decimal with an exponent is a number. -/
theorem scientific_numeral :
    ∃ n : Numeral, n.Valid ∧ n.text = NumberLayout.scientific .json d := by
  have digits := digits_isDigit written
  obtain ⟨n, ns, same, positive, small⟩ := written.leading
  rw [same, List.all_cons, Bool.and_eq_true_iff] at digits
  refine ⟨⟨[Text.digitChar n], ns, some (d.point - 1)⟩,
    ⟨by simp [digits.1], by simp, by simp, digits.2⟩, ?_⟩
  rw [NumberLayout.scientific, same]
  cases ns <;> simp [Numeral.text, Numeral.fraction, Numeral.tail, NumberLayout.json]

end Layout

/-- The text of a finite number is a number with its sign. -/
theorem render_finite {x : Binary64} (finite : x.isFinite) :
    ∃ n : Numeral, n.Valid ∧
      (NumberLayout.json.render x).toList = if x.negative then '-' :: n.text else n.text := by
  have number : ¬ x.isNaN := by
    simp only [Binary64.isFinite, bne_iff_ne] at finite
    simp [Binary64.isNaN, finite]
  have bounded : ¬ x.isInfinite := by
    simp only [Binary64.isFinite, bne_iff_ne] at finite
    simp [Binary64.isInfinite, finite]
  rw [NumberLayout.render, if_neg number, if_neg bounded]
  by_cases zero : x.isZero
  · refine ⟨⟨['0'], ['0'], none⟩, ⟨by decide, by decide, by decide, by decide⟩, ?_⟩
    simp only [if_pos zero, String.toList_ofList]
    rfl
  · have written := Decimal.shortest_isWritten (Binary64.IsProper.abs ⟨finite, zero⟩)
    generalize Decimal.shortest x.abs = d at written
    by_cases range : NumberLayout.json.positionalFrom ≤ d.point &&
        d.point ≤ NumberLayout.json.positionalTo
    · obtain ⟨n, valid, text⟩ := positional_numeral written
      exact ⟨n, valid, by simp only [if_neg zero, if_pos range, text, String.toList_ofList]⟩
    · obtain ⟨n, valid, text⟩ := scientific_numeral written
      exact ⟨n, valid, by simp only [if_neg zero, if_neg range, text, String.toList_ofList]⟩

/-- The other numbers have names. -/
theorem render_infinite {x : Binary64} (infinite : ¬ x.isFinite) :
    NumberLayout.json.render x ∈ ["NaN", "Infinity", "-Infinity"] := by
  simp only [Binary64.isFinite, bne_iff_ne, not_not] at infinite
  rw [NumberLayout.render]
  split
  · exact List.mem_cons_self
  · rename_i number
    have bounded : x.isInfinite := by
      simp only [Binary64.isNaN, infinite, beq_self_eq_true, Bool.true_and, bne_iff_ne,
        not_not] at number
      simp [Binary64.isInfinite, infinite, number]
    rw [if_pos bounded]
    split <;> decide

/-- The text of a number is one of JSON if the number is finite, and only then. -/
theorem number?_render (x : Binary64) :
    (number? (NumberLayout.json.render x).toList).isSome = x.isFinite := by
  by_cases finite : x.isFinite
  · obtain ⟨n, valid, text⟩ := render_finite finite
    rw [text, finite, valid.number?_isSome]
  · have names : ∀ name ∈ ["NaN", "Infinity", "-Infinity"],
        (number? name.toList).isSome = false := by decide
    rw [names _ (render_infinite finite), Bool.eq_false_iff.mpr finite]

end SessionScript.Json
