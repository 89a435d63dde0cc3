import SessionScript.Proofs.Text.Parts

/-!
# Parts of identifiers

The parts of a character of an identifier are characters that identifiers may have, and so is what
they are put together to. What an identifier starts with has a first part that an identifier may
start with, and is no mark.
-/

namespace SessionScript.Text

/-! ## Code points of identifiers -/

/-- A code point of a character that an identifier may go on with. -/
def IsPartPoint (n : Nat) : Prop := n.isValidChar ∧ isIdentifierPart (Char.ofNat n)

/-- A code point of a character that an identifier may start with. -/
def IsStartPoint (n : Nat) : Prop := n.isValidChar ∧ isIdentifierStart (Char.ofNat n)

/-- The code points that an identifier may go on with. -/
def partRanges : List (Nat × Nat) :=
  [(0x30, 0x39), (0x41, 0x5A), (0x5F, 0x5F), (0x61, 0x7A)] ++ identifierPartRanges.toList

/-- The code points that an identifier may start with. -/
def startRanges : List (Nat × Nat) :=
  [(0x41, 0x5A), (0x5F, 0x5F), (0x61, 0x7A)] ++ identifierStartRanges.toList

/-- The code points that an identifier may go on with, as bits. The last ones are left out: no
    character has them for a part, and they would make the number large. -/
def partBits : Nat := bitsOf (partRanges.filter fun r => r.1 < 0x40000)

/-- The code points that an identifier may start with, as bits. -/
def startBits : Nat := bitsOf startRanges

theorem toNat_ofNat {n : Nat} (valid : n.isValidChar) : (Char.ofNat n).toNat = n := by
  rw [Char.ofNat, dif_pos valid]
  rfl

/-- Whether a property has some ranges in ASCII, and a table has ranges of characters beyond it. -/
def areProper (p : Char → Bool) (ascii : List (Nat × Nat)) (table : Ranges) : Bool :=
  ((List.range 0x80).all fun n => p (Char.ofNat n) == (bitsOf ascii).testBit n) &&
    (ascii.all fun r => r.2 < 0x80) &&
    table.toList.all fun r => 0x80 ≤ r.1 && (r.2 < 0xD800 || 0xDFFF < r.1 && r.2 < 0x110000)

/-- A property that a table gives for all characters but those of ASCII has the ranges of the table
    and those that it has in ASCII. -/
theorem mem_ranges_iff {p : Char → Bool} {ascii : List (Nat × Nat)} {table : Ranges}
    (proper : areProper p ascii table)
    (high : ∀ c : Char, ¬ c.toNat < 0x80 → p c = table.has c.toNat) (n : Nat) :
    n.isValidChar ∧ p (Char.ofNat n) = true ↔
      ∃ r ∈ ascii ++ table.toList, r.1 ≤ n ∧ n ≤ r.2 := by
  rw [areProper, Bool.and_eq_true, Bool.and_eq_true] at proper
  obtain ⟨⟨low, inside⟩, proper⟩ := proper
  have split : (∃ r ∈ ascii ++ table.toList, r.1 ≤ n ∧ n ≤ r.2) ↔
      (bitsOf ascii).testBit n = true ∨ table.has n = true := by
    rw [testBit_bitsOf, Ranges.has_iff]
    simp only [List.mem_append, or_and_right, exists_or]
  rw [split]
  by_cases small : n < 0x80
  · have same := eq_of_beq (List.all_eq_true.mp low n (List.mem_range.mpr small))
    have outside : ¬ table.has n = true := by
      rw [Ranges.has_iff]
      rintro ⟨r, among, above, -⟩
      have checked := List.all_eq_true.mp proper r among
      simp only [Bool.and_eq_true, decide_eq_true_eq] at checked
      omega
    have valid : n.isValidChar := .inl (by omega)
    simp only [same, valid, outside, true_and, Bool.false_eq_true, or_false]
  · have outside : ¬ (bitsOf ascii).testBit n = true := by
      rw [testBit_bitsOf]
      rintro ⟨r, among, -, below⟩
      have checked := List.all_eq_true.mp inside r among
      rw [decide_eq_true_eq] at checked
      omega
    constructor
    · rintro ⟨valid, holds⟩
      have whole : (Char.ofNat n).toNat = n := toNat_ofNat valid
      rw [high _ (by omega), whole] at holds
      exact .inr holds
    · rintro (holds | holds)
      · exact absurd holds outside
      · obtain ⟨r, among, above, below⟩ := (Ranges.has_iff table n).mp holds
        have checked := List.all_eq_true.mp proper r among
        simp only [Bool.and_eq_true, Bool.or_eq_true, decide_eq_true_eq] at checked
        have valid : n.isValidChar := by
          rcases checked.2 with low | high
          · exact .inl (by omega)
          · exact .inr ⟨by omega, by omega⟩
        have whole : (Char.ofNat n).toNat = n := toNat_ofNat valid
        exact ⟨valid, by rw [high _ (by omega), whole, holds]⟩

/-! ## Facts of the tables -/

/-- The ranges of characters that identifiers go on with have the Korean syllables among them, and
    parts, letters of these syllables and what is put together are such characters. -/
theorem tables_part :
    areProper isIdentifierPart [(0x30, 0x39), (0x41, 0x5A), (0x5F, 0x5F), (0x61, 0x7A)]
        identifierPartRanges ∧
      (0xAC00, 0xD7A3) ∈ identifierPartRanges.toList ∧ tableParts.all partBits.testBit ∧
      letters.all partBits.testBit ∧ composites.all fun e => partBits.testBit e.1 := by
  decide +kernel

/-- What identifiers start with has a first part that they start with: the syllables, the composites
    and ligatures, and the variants. What has such a first part is such a character, and no mark is
    one. -/
theorem tables_start :
    areProper isIdentifierStart [(0x41, 0x5A), (0x5F, 0x5F), (0x61, 0x7A)]
        identifierStartRanges ∧
      (0xAC00, 0xD7A3) ∈ identifierStartRanges.toList ∧
      ((List.range 19).all fun k => startBits.testBit (0x1100 + k)) ∧
      ((composites ++ ligatures).all fun e =>
        !startBits.testBit e.1 || e.2.head?.any startBits.testBit) ∧
      (variants.all fun row => row.2.zipIdx.all fun t =>
        !startBits.testBit (row.1 + t.2) || startBits.testBit t.1) ∧
      (composites.all fun e => !e.2.head?.any startBits.testBit || startBits.testBit e.1) ∧
      markRanges.all fun r => (List.range (r.2.1 + 1 - r.1)).all fun k =>
        !startBits.testBit (r.1 + k) := by
  decide +kernel

theorem isPartPoint_iff (n : Nat) : IsPartPoint n ↔ ∃ r ∈ partRanges, r.1 ≤ n ∧ n ≤ r.2 :=
  mem_ranges_iff tables_part.1 (fun _ large => if_neg large) n

theorem isPartPoint_of_testBit {n : Nat} (bit : partBits.testBit n = true) : IsPartPoint n := by
  rw [partBits, testBit_bitsOf] at bit
  obtain ⟨r, among, within⟩ := bit
  exact (isPartPoint_iff n).mpr ⟨r, List.mem_of_mem_filter among, within⟩

theorem isStartPoint_iff (n : Nat) : IsStartPoint n ↔ startBits.testBit n = true := by
  rw [startBits, testBit_bitsOf]
  exact mem_ranges_iff tables_start.1 (fun _ large => if_neg large) n

/-! ## Parts and what is put together of them -/

theorem isPartPoint_of_isSyllable {n : Nat} (syllable : isSyllable n) : IsPartPoint n :=
  (isPartPoint_iff n).mpr
    ⟨_, List.mem_append_right _ tables_part.2.1, bounds_of_isSyllable syllable⟩

theorem isStartPoint_of_isSyllable {n : Nat} (syllable : isSyllable n) : IsStartPoint n := by
  rw [isStartPoint_iff, startBits, testBit_bitsOf]
  exact ⟨_, List.mem_append_right _ tables_start.2.1, bounds_of_isSyllable syllable⟩

theorem isPartPoint_of_mem_parts {n d : Nat} (whole : IsPartPoint n) (part : d ∈ parts n) :
    IsPartPoint d := by
  obtain ⟨-, -, inTables, inSyllables, -⟩ := tables_part
  rcases mem_parts_cases part with listed | letter | ⟨rfl, -⟩
  · exact isPartPoint_of_testBit (List.all_eq_true.mp inTables d listed)
  · exact isPartPoint_of_testBit (List.all_eq_true.mp inSyllables d letter)
  · exact whole

/-- What an identifier may start with has a first part that it may start with. -/
theorem isStartPoint_parts {n : Nat} (whole : IsStartPoint n) :
    ∃ d ds, parts n = d :: ds ∧ IsStartPoint d := by
  have start := (isStartPoint_iff n).mp whole
  obtain ⟨-, -, inSyllables, inLists, inVariants, -⟩ := tables_start
  rcases parts_cases n with ⟨k, small, rfl, known⟩ | ⟨ds, among, known⟩ |
    ⟨row, among, k, t, rfl, there, known⟩ | plain
  · have count : syllableCount = 11172 := rfl
    have below : k / 588 < 19 := by omega
    refine ⟨0x1100 + k / 588, _, known, (isStartPoint_iff _).mpr ?_⟩
    exact List.all_eq_true.mp inSyllables _ (List.mem_range.mpr below)
  · have checked := List.all_eq_true.mp inLists _ among
    rw [start, Bool.not_true, Bool.false_or] at checked
    cases ds with
    | nil => cases checked
    | cons d ds => exact ⟨d, ds, known, (isStartPoint_iff d).mpr checked⟩
  · have checked := List.all_eq_true.mp (List.all_eq_true.mp inVariants row among)
      (t, k) (List.mem_zipIdx_iff_getElem?.mpr there)
    rw [start, Bool.not_true, Bool.false_or] at checked
    exact ⟨t, [], known, (isStartPoint_iff t).mpr checked⟩
  · exact ⟨n, [], plain, whole⟩

theorem isPartPoint_of_composite? {ds : List Nat} {p : Nat} (found : composite? ds = some p) :
    IsPartPoint p := by
  obtain ⟨-, -, -, -, inComposites⟩ := tables_part
  rcases composite?_cases found with ⟨syllable, -⟩ | listed
  · exact isPartPoint_of_isSyllable syllable
  · exact isPartPoint_of_testBit (List.all_eq_true.mp inComposites _ listed)

theorem isStartPoint_of_composite? {d : Nat} {ds : List Nat} {p : Nat}
    (found : composite? (d :: ds) = some p) (start : IsStartPoint d) : IsStartPoint p := by
  obtain ⟨-, -, -, -, -, inComposites, -⟩ := tables_start
  rcases composite?_cases found with ⟨syllable, -⟩ | listed
  · exact isStartPoint_of_isSyllable syllable
  · have checked := List.all_eq_true.mp inComposites _ listed
    have first := (isStartPoint_iff d).mp start
    simp only [List.head?_cons, Option.any_some, first, Bool.not_true, Bool.false_or] at checked
    exact (isStartPoint_iff p).mpr checked

/-- What identifiers start with is no mark. -/
theorem markClass_of_isStartPoint {n : Nat} (start : IsStartPoint n) : markClass n = 0 := by
  obtain ⟨-, -, -, -, -, -, inMarks⟩ := tables_start
  unfold markClass
  split
  · rename_i r found
    have among := List.mem_of_find?_eq_some found
    have within := List.find?_some (p := fun r : Nat × Nat × Nat => r.1 ≤ n && n ≤ r.2.1) found
    rw [Bool.and_eq_true, decide_eq_true_eq, decide_eq_true_eq] at within
    have checked := List.all_eq_true.mp (List.all_eq_true.mp inMarks r among)
      (n - r.1) (List.mem_range.mpr (by omega))
    have moved : r.1 + (n - r.1) = n := by omega
    rw [moved, (isStartPoint_iff n).mp start] at checked
    cases checked
  · rfl

end SessionScript.Text
