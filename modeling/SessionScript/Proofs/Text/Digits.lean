import Mathlib.Algebra.Group.Nat.Defs
import Mathlib.Data.List.Induction
import SessionScript.Text.Digits

/-!
# Numbers and their digits

The digits of a number denote it, in every base in which numbers are written, and no zero stands in
front of them.
-/

namespace SessionScript.Text

/-- A digit below the base has its value. -/
theorem digitValue?_digitChar {base d : Nat} (small : d < base) (bound : base ≤ 16) :
    digitValue? base (digitChar d) = some d := by
  have all : ∀ base < 17, ∀ d < base, digitValue? base (digitChar d) = some d := by decide
  exact all base (Nat.lt_succ_of_le bound) d small

section Base

variable {base : Nat} (two : 2 ≤ base) (bound : base ≤ 16)

/-- The quotient of a number with digits has one digit less, and at least one. -/
theorem div_lt_pow {n fuel : Nat} (small : n < base ^ (fuel + 1)) (rest : ¬ n / base = 0) :
    n / base < base ^ fuel ∧ 0 < fuel := by
  have positive : 0 < base := Nat.pos_of_ne_zero fun zero => rest (by simp [zero])
  have quotient : n / base < base ^ fuel := by
    rw [Nat.div_lt_iff_lt_mul positive, ← Nat.pow_succ]
    exact small
  refine ⟨quotient, Nat.pos_of_ne_zero fun zero => rest ?_⟩
  rw [zero, Nat.pow_zero] at quotient
  exact Nat.lt_one_iff.mp quotient

/-- A number below a power of the base has no more digits than the power. -/
theorem length_digitsInto (fuel : Nat) :
    ∀ n acc width, n < base ^ width → 0 < width →
      (digitsInto base fuel n acc).length ≤ width + acc.length := by
  induction fuel with
  | zero => exact fun n acc width _ _ => Nat.le_add_left acc.length width
  | succ fuel ih =>
    intro n acc width small some
    obtain ⟨width, rfl⟩ := Nat.exists_eq_succ_of_ne_zero (Nat.ne_of_gt some)
    rw [digitsInto]
    split
    · rw [List.length_cons]
      omega
    · rename_i rest
      obtain ⟨quotient, more⟩ := div_lt_pow small rest
      have shorter := ih _ (digitChar (n % base) :: acc) width quotient more
      rw [List.length_cons] at shorter
      omega

/-- Every character of the digits is a digit of the base. -/
theorem mem_digitsInto (positive : 0 < base) (fuel : Nat) :
    ∀ n acc c, c ∈ digitsInto base fuel n acc → c ∈ acc ∨ ∃ d < base, c = digitChar d := by
  induction fuel with
  | zero => exact fun n acc c known => .inl known
  | succ fuel ih =>
    intro n acc c known
    have first : c ∈ digitChar (n % base) :: acc → c ∈ acc ∨ ∃ d < base, c = digitChar d := by
      intro known
      rcases List.mem_cons.mp known with rfl | known
      · exact .inr ⟨_, Nat.mod_lt n positive, rfl⟩
      · exact .inl known
    rw [digitsInto] at known
    split at known
    · exact first known
    · rcases ih _ _ c known with known | digit
      · exact first known
      · exact .inr digit

include two

/-- The first digit of a positive number is positive. -/
theorem digitsInto_head (fuel : Nat) :
    ∀ n acc, n ≠ 0 → n < base ^ fuel →
      ∃ d ds, digitsInto base fuel n acc = digitChar d :: ds ∧ 0 < d ∧ d < base := by
  induction fuel with
  | zero => exact fun n acc some small => absurd (Nat.lt_one_iff.mp small) some
  | succ fuel ih =>
    intro n acc some small
    rw [digitsInto]
    split
    · rename_i rest
      have below : n < base := Nat.lt_of_div_eq_zero (by omega) rest
      rw [Nat.mod_eq_of_lt below]
      exact ⟨n, acc, rfl, Nat.pos_of_ne_zero some, below⟩
    · rename_i rest
      exact ih _ _ rest (div_lt_pow small rest).1

include bound

/-- Reading the digits in front of others goes on from the number that they denote. -/
theorem numberFrom_digitsInto (fuel : Nat) :
    ∀ n acc, n < base ^ fuel → 0 < fuel →
      numberFrom base 0 (digitsInto base fuel n acc) = numberFrom base n acc := by
  have positive : 0 < base := by omega
  induction fuel with
  | zero => exact fun n acc _ none => absurd none (Nat.lt_irrefl 0)
  | succ fuel ih =>
    intro n acc small _
    have last := digitValue?_digitChar (Nat.mod_lt n positive) bound
    rw [digitsInto]
    split
    · rename_i rest
      have whole : n % base = n := Nat.mod_eq_of_lt (Nat.lt_of_div_eq_zero positive rest)
      rw [numberFrom, last]
      simp [whole]
    · rename_i rest
      obtain ⟨quotient, more⟩ := div_lt_pow small rest
      rw [ih (n / base) _ quotient more, numberFrom, last]
      simp only [Nat.div_add_mod']

end Base

/-! ## Digits of a number -/

theorem lt_pow_log2 {base : Nat} (two : 2 ≤ base) (n : Nat) : n < base ^ (n.log2 + 1) :=
  Nat.lt_of_lt_of_le Nat.lt_log2_self (Nat.pow_le_pow_left two _)

/-- The digits of a number denote it. -/
theorem numberFrom_digits {base : Nat} (two : 2 ≤ base) (bound : base ≤ 16) (n : Nat) :
    numberFrom base 0 (digits base n) = some n := by
  rw [digits, numberFrom_digitsInto two bound _ n [] (lt_pow_log2 two n) (by omega)]
  rfl

/-- A number below a power of the base has no more digits than the power. -/
theorem length_digits {base n width : Nat} (small : n < base ^ width) (some : 0 < width) :
    (digits base n).length ≤ width :=
  length_digitsInto _ n [] width small some

/-! ## Decimal digits -/

/-- The decimal digits of a number are characters from zero to nine. -/
theorem mem_digits {n : Nat} {c : Char} (known : c ∈ digits 10 n) : ∃ d < 10, c = digitChar d :=
  (mem_digitsInto (by decide) _ n [] c known).resolve_left (List.not_mem_nil)

/-- What holds of each character from zero to nine holds of all decimal digits of a number. -/
theorem digits_all {P : Char → Bool} (each : ∀ d < 10, P (digitChar d)) (n : Nat) :
    (digits 10 n).all P := by
  refine List.all_eq_true.mpr fun c known => ?_
  obtain ⟨d, small, rfl⟩ := mem_digits known
  exact each d small

/-- Zero is the only number whose digits start with a zero. -/
theorem digits_cases (n : Nat) :
    digits 10 n = ['0'] ∨ ∃ d ds, digits 10 n = digitChar d :: ds ∧ 0 < d ∧ d < 10 := by
  by_cases zero : n = 0
  · subst zero
    exact .inl (by decide)
  · exact .inr (digitsInto_head (by decide) _ n [] zero (lt_pow_log2 (by decide) n))

theorem exists_digit (n : Nat) : ∃ d ds, digits 10 n = digitChar d :: ds ∧ d < 10 := by
  rcases digits_cases n with zero | ⟨d, ds, same, -, small⟩
  · exact ⟨0, [], zero, by decide⟩
  · exact ⟨d, ds, same, small⟩

theorem digits_ne_nil (n : Nat) : digits 10 n ≠ [] := by
  rcases digits_cases n with zero | ⟨d, ds, same, -⟩ <;> simp [*]

/-! ## Numerals with zeros in front -/

/-- The digits of a number in front of others are in front of all of them. -/
theorem digitsInto_append (base fuel : Nat) (more : List Char) :
    ∀ n acc, digitsInto base fuel n (acc ++ more) = digitsInto base fuel n acc ++ more := by
  induction fuel with
  | zero => exact fun n acc => rfl
  | succ fuel ih =>
    intro n acc
    rw [digitsInto, digitsInto]
    split
    · rfl
    · exact ih (n / base) (digitChar (n % base) :: acc)

/-- How many digits are allowed for does not matter if they are enough. -/
theorem digitsInto_enough {base : Nat} (fuel : Nat) :
    ∀ fuel' n acc, n < base ^ fuel → n < base ^ fuel' → 0 < fuel → 0 < fuel' →
      digitsInto base fuel n acc = digitsInto base fuel' n acc := by
  induction fuel with
  | zero => exact fun fuel' n acc _ _ none _ => absurd none (Nat.lt_irrefl 0)
  | succ fuel ih =>
    intro fuel' n acc small small' _ some'
    obtain ⟨fuel', rfl⟩ := Nat.exists_eq_succ_of_ne_zero (Nat.ne_of_gt some')
    rw [digitsInto, digitsInto]
    split
    · rfl
    · rename_i rest
      obtain ⟨quotient, more⟩ := div_lt_pow small rest
      obtain ⟨quotient', more'⟩ := div_lt_pow small' rest
      exact ih fuel' _ _ quotient quotient' more more'

/-- A digit is written behind those of the tens. -/
theorem digits_concat {n d : Nat} (positive : 0 < n) (digit : d < 10) :
    digits 10 (n * 10 + d) = digits 10 n ++ [digitChar d] := by
  have last : (n * 10 + d) % 10 = d := by omega
  have tens : (n * 10 + d) / 10 = n := by omega
  have below : n * 10 + d < 2 ^ ((n * 10 + d).log2 + 1) := Nat.lt_log2_self
  have enough : n < 10 ^ (n * 10 + d).log2 := by
    have half : n < 2 ^ (n * 10 + d).log2 := by
      rw [Nat.pow_succ] at below
      omega
    exact Nat.lt_of_lt_of_le half (Nat.pow_le_pow_left (by decide) _)
  have some : 0 < (n * 10 + d).log2 := by
    refine Nat.pos_of_ne_zero fun none => ?_
    rw [none] at enough
    omega
  rw [digits, digitsInto, last, tens, if_neg (by omega), ← List.nil_append [digitChar d],
    digitsInto_append,
    digitsInto_enough _ (n.log2 + 1) n [] enough (lt_pow_log2 (by decide) n) some (by omega)]
  rfl

/-- A character with a decimal value is its digit. -/
theorem digitChar_of_digitValue? {c : Char} {d : Nat} (value : digitValue? 10 c = some d) :
    d < 10 ∧ c = digitChar d := by
  simp only [digitValue?, Option.ite_none_right_eq_some, Option.some.injEq, Bool.and_eq_true,
    decide_eq_true_eq] at value
  obtain ⟨small, same⟩ := value
  -- The values of letters are not below ten.
  have range : 48 ≤ c.val.toNat ∧ c.val.toNat ≤ 57 := by
    refine Decidable.byContradiction fun outside => ?_
    rw [if_neg outside] at small
    split at small
    · omega
    · split at small <;> omega
  rw [if_pos range] at small same
  refine ⟨same ▸ small, ?_⟩
  have code : 48 + (c.val.toNat - 48) = c.toNat := by
    simp only [Char.toNat]
    omega
  rw [← same, digitChar, if_pos small, code, Char.ofNat_toNat]

theorem numberFrom_append (base : Nat) (cs ds : List Char) :
    ∀ n, numberFrom base n (cs ++ ds) = (numberFrom base n cs).bind fun m => numberFrom base m ds := by
  induction cs with
  | nil => exact fun n => rfl
  | cons c cs ih =>
    intro n
    rw [List.cons_append, numberFrom, numberFrom]
    cases digitValue? base c with
    | none => rfl
    | some v => exact ih (n * base + v)

/-- Zeros in front do not change a number. -/
theorem numberFrom_zeros (base zeros : Nat) (some : 0 < base) (cs : List Char) :
    numberFrom base 0 (List.replicate zeros '0' ++ cs) = numberFrom base 0 cs := by
  have zero : digitValue? base '0' = .some 0 := if_pos some
  induction zeros with
  | zero => rfl
  | succ zeros ih =>
    rw [List.replicate_succ, List.cons_append, numberFrom, zero]
    simpa using ih

/-- Numbers are read from their digits with zeros in front, and from nothing else. -/
theorem number?_eq_some_iff {cs : List Char} {n : Nat} :
    number? 10 cs = some n ↔ ∃ zeros, cs = List.replicate zeros '0' ++ digits 10 n := by
  constructor
  · induction cs using List.reverseRecOn generalizing n with
    | nil =>
      intro read
      cases read
    | append_singleton cs c ih =>
      intro read
      have last : (numberFrom 10 0 cs).bind (fun m => numberFrom 10 m [c]) = some n := by
        rw [← numberFrom_append]
        simpa [number?] using read
      obtain ⟨m, front, last⟩ := Option.bind_eq_some_iff.mp last
      obtain ⟨d, value, rfl⟩ : ∃ d, digitValue? 10 c = some d ∧ m * 10 + d = n := by
        rw [numberFrom] at last
        split at last
        · rename_i d value
          exact ⟨d, value, Option.some.inj last⟩
        · cases last
      obtain ⟨small, rfl⟩ := digitChar_of_digitValue? value
      have single : ∀ d < 10, digits 10 d = [digitChar d] := by decide
      cases cs with
      | nil =>
        cases front
        exact ⟨0, by rw [Nat.zero_mul, Nat.zero_add, single d small]; rfl⟩
      | cons b cs =>
        obtain ⟨zeros, same⟩ := ih (by simpa [number?] using front)
        rcases Nat.eq_zero_or_pos m with rfl | positive
        · refine ⟨zeros + 1, ?_⟩
          rw [same, single 0 (by decide), Nat.zero_mul, Nat.zero_add, single d small,
            List.replicate_succ']
          rfl
        · exact ⟨zeros, by rw [same, digits_concat positive small, List.append_assoc]⟩
  · rintro ⟨zeros, rfl⟩
    rw [number?, if_neg (by simp [digits_ne_nil]), numberFrom_zeros 10 zeros (by decide),
      numberFrom_digits (by decide) (by decide)]

/-! ## Digits up to a width -/

theorem length_hexPad {n width : Nat} (small : n < 16 ^ width) (some : 0 < width) :
    (hexPad width n).length = width := by
  have short := length_digits small some
  rw [hexPad, List.length_append, List.length_replicate]
  omega

theorem mem_hexPad {n width : Nat} {c : Char} (known : c ∈ hexPad width n) :
    ∃ d < 16, c = digitChar d := by
  rcases List.mem_append.mp known with zero | digit
  · exact ⟨0, by decide, List.eq_of_mem_replicate zero⟩
  · exact (mem_digitsInto (by decide) _ n [] c digit).resolve_left List.not_mem_nil

theorem numberFrom_hexPad (width n : Nat) : numberFrom 16 0 (hexPad width n) = some n := by
  rw [hexPad, numberFrom_zeros 16 _ (by decide), numberFrom_digits (by decide) (by decide)]

end SessionScript.Text
