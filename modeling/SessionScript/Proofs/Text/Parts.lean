import Mathlib.Data.List.Chain
import Mathlib.Data.Nat.Bitwise
import SessionScript.Text.Identifier
import SessionScript.Text.NormalForm

/-!
# Parts of characters and what has them

The parts of a character have no smaller parts, and what is put together has the parts that it is
put together of. The tables are checked with sets of code points that are kept as the bits of one
number.
-/

namespace SessionScript.Text

/-! ## Sets of code points -/

/-- The code points of some ranges as bits. -/
def bitsOf (rs : List (Nat × Nat)) : Nat :=
  rs.foldr (fun r acc => acc ||| (2 ^ (r.2 + 1 - r.1) - 1) <<< r.1) 0

theorem testBit_bitsOf (rs : List (Nat × Nat)) (n : Nat) :
    (bitsOf rs).testBit n = true ↔ ∃ r ∈ rs, r.1 ≤ n ∧ n ≤ r.2 := by
  induction rs with
  | nil => simp [bitsOf]
  | cons r rs ih =>
    have cons : bitsOf (r :: rs) = bitsOf rs ||| (2 ^ (r.2 + 1 - r.1) - 1) <<< r.1 := rfl
    rw [cons, Nat.testBit_or, Bool.or_eq_true, ih, Nat.testBit_shiftLeft,
      Nat.testBit_two_pow_sub_one, Bool.and_eq_true, decide_eq_true_iff, decide_eq_true_iff]
    constructor
    · rintro (⟨r', among, within⟩ | ⟨above, below⟩)
      · exact ⟨r', List.mem_cons_of_mem _ among, within⟩
      · exact ⟨r, List.mem_cons_self, above, by omega⟩
    · rintro ⟨r', among, above, below⟩
      rcases List.mem_cons.mp among with rfl | among
      · exact .inr ⟨above, by omega⟩
      · exact .inl ⟨r', among, above, below⟩

theorem Ranges.has_iff (table : Ranges) (n : Nat) :
    table.has n = true ↔ ∃ r ∈ table.toList, r.1 ≤ n ∧ n ≤ r.2 := by
  rw [Ranges.has, ← Array.any_toList, List.any_eq_true]
  simp only [Bool.and_eq_true, decide_eq_true_eq]

/-! ## Characters with parts -/

/-- The code points that have parts, but for the Korean syllables. -/
def compounds : List (Nat × Nat) :=
  composites.map (fun e => (e.1, e.1)) ++ ligatures.map (fun e => (e.1, e.1)) ++
    variants.map fun row => (row.1, row.1 + (row.2.length - 1))

/-- The code points that are parts, but for the letters of Korean syllables. -/
def tableParts : List Nat :=
  composites.flatMap Prod.snd ++ ligatures.flatMap Prod.snd ++ variants.flatMap Prod.snd

/-- The code points that have parts, as bits. -/
def compoundBits : Nat := bitsOf compounds

/-- A code point that is a part of itself only. -/
def IsPlain (n : Nat) : Prop := parts n = [n]

theorem lookup_eq_none {es : List (Nat × List Nat)} {n : Nat} (absent : ∀ e ∈ es, n ≠ e.1) :
    es.lookup n = none :=
  List.lookup_eq_none_iff.mpr fun e among => bne_iff_ne.mpr (absent e among)

theorem mem_of_lookup {es : List (Nat × List Nat)} {n : Nat} {ds : List Nat}
    (found : es.lookup n = some ds) : (n, ds) ∈ es := by
  obtain ⟨front, back, rfl, -⟩ := List.lookup_eq_some_iff.mp found
  exact List.mem_append_right _ List.mem_cons_self

/-- A variant is in a row, and so is what it is a variant of. -/
theorem exists_of_variant? {n d : Nat} (found : variant? n = some d) :
    ∃ row ∈ variants, ∃ k, n = row.1 + k ∧ row.2[k]? = some d := by
  obtain ⟨row, among, found⟩ := List.exists_of_findSome?_eq_some found
  split at found
  · exact ⟨row, among, n - row.1, by omega, found⟩
  · cases found

theorem isSyllable_add {k : Nat} (small : k < syllableCount) : isSyllable (firstSyllable + k) := by
  rw [isSyllable, Bool.and_eq_true, decide_eq_true_iff, decide_eq_true_iff]
  omega

theorem exists_of_isSyllable {n : Nat} (syllable : isSyllable n) :
    ∃ k < syllableCount, n = firstSyllable + k := by
  rw [isSyllable, Bool.and_eq_true, decide_eq_true_iff, decide_eq_true_iff] at syllable
  exact ⟨n - firstSyllable, by omega, by omega⟩

theorem bounds_of_isSyllable {n : Nat} (syllable : isSyllable n) : 0xAC00 ≤ n ∧ n ≤ 0xD7A3 := by
  obtain ⟨k, small, rfl⟩ := exists_of_isSyllable syllable
  have count : syllableCount = 11172 := rfl
  simp only [firstSyllable]
  omega

theorem mem_tableParts {n d : Nat} {ds : List Nat} (among : (n, ds) ∈ composites ++ ligatures)
    (part : d ∈ ds) : d ∈ tableParts := by
  refine List.mem_append_left _ ?_
  rw [← List.flatMap_append]
  exact List.mem_flatMap.mpr ⟨_, among, part⟩

theorem mem_tableParts_of_variant {row : Nat × List Nat} {d : Nat} (among : row ∈ variants)
    (part : d ∈ row.2) : d ∈ tableParts :=
  List.mem_append_right _ (List.mem_flatMap.mpr ⟨row, among, part⟩)

/-- A character is a Korean syllable, or it is in a table, or it is its only part. -/
theorem parts_cases (n : Nat) :
    (∃ k < syllableCount, n = firstSyllable + k ∧ parts n = syllableLetters k) ∨
      (∃ ds, (n, ds) ∈ composites ++ ligatures ∧ parts n = ds) ∨
      (∃ row ∈ variants, ∃ k d, n = row.1 + k ∧ row.2[k]? = some d ∧ parts n = [d]) ∨
      parts n = [n] := by
  by_cases syllable : isSyllable n
  · obtain ⟨k, small, rfl⟩ := exists_of_isSyllable syllable
    exact .inl ⟨k, small, rfl, by rw [parts, if_pos syllable, Nat.add_sub_cancel_left]⟩
  · refine .inr ?_
    rw [parts, if_neg syllable]
    cases composite : composites.lookup n with
    | some ds => exact .inl ⟨ds, List.mem_append_left _ (mem_of_lookup composite), rfl⟩
    | none =>
      cases ligature : ligatures.lookup n with
      | some ds => exact .inl ⟨ds, List.mem_append_right _ (mem_of_lookup ligature), rfl⟩
      | none =>
        cases variant : variant? n with
        | some d =>
          obtain ⟨row, among, k, here, there⟩ := exists_of_variant? variant
          exact .inr (.inl ⟨row, among, k, d, here, there, rfl⟩)
        | none => exact .inr (.inr rfl)

/-- A character that is no Korean syllable and in no table is its only part. -/
theorem isPlain_of_not_compound {n : Nat} (single : isSyllable n = false)
    (simple : compoundBits.testBit n = false) : IsPlain n := by
  have outside (r : Nat × Nat) (among : r ∈ compounds) : ¬ (r.1 ≤ n ∧ n ≤ r.2) := by
    intro within
    have inside : compoundBits.testBit n = true :=
      (testBit_bitsOf compounds n).mpr ⟨r, among, within⟩
    rw [simple] at inside
    cases inside
  rcases parts_cases n with ⟨k, small, rfl, -⟩ | ⟨ds, among, -⟩ |
    ⟨row, among, k, d, rfl, there, -⟩ | plain
  · have syllable := isSyllable_add small
    rw [single] at syllable
    cases syllable
  · have known : (n, n) ∈ compounds := by
      rw [compounds, ← List.map_append]
      exact List.mem_append_left _ (List.mem_map_of_mem among)
    exact absurd ⟨Nat.le_refl n, Nat.le_refl n⟩ (outside _ known)
  · have known : (row.1, row.1 + (row.2.length - 1)) ∈ compounds :=
      List.mem_append_right _ (List.mem_map_of_mem among)
    have inside := (List.getElem?_eq_some_iff.mp there).1
    exact absurd ⟨by dsimp only; omega, by dsimp only; omega⟩ (outside _ known)
  · exact plain

/-- The letters of Korean syllables stand together. -/
theorem mem_syllableLetters {k d : Nat} (small : k < syllableCount)
    (letter : d ∈ syllableLetters k) : ∃ j < 0xC3, d = 0x1100 + j := by
  have count : syllableCount = 11172 := rfl
  rw [syllableLetters] at letter
  rcases List.mem_append.mp letter with letter | letter
  · simp only [List.mem_cons, List.not_mem_nil, or_false] at letter
    rcases letter with rfl | rfl
    · exact ⟨k / 588, by omega, rfl⟩
    · exact ⟨0x61 + k / 28 % 21, by omega, by omega⟩
  · split at letter
    · cases letter
    · rw [List.mem_singleton.mp letter]
      exact ⟨0xA7 + k % 28, by omega, by omega⟩

/-- The code points of the letters of Korean syllables. -/
def letters : List Nat := List.range' 0x1100 0xC3

theorem mem_letters {j : Nat} (below : j < 0xC3) : 0x1100 + j ∈ letters := by
  rw [letters, List.mem_range'_1]
  omega

/-- What is a part is in the tables or a letter of a Korean syllable, unless it has no parts. -/
theorem mem_parts_cases {n d : Nat} (part : d ∈ parts n) :
    d ∈ tableParts ∨ d ∈ letters ∨ d = n ∧ IsPlain n := by
  rcases parts_cases n with ⟨k, small, rfl, known⟩ | ⟨ds, among, known⟩ |
    ⟨row, among, k, t, rfl, there, known⟩ | plain
  · rw [known] at part
    obtain ⟨j, below, rfl⟩ := mem_syllableLetters small part
    exact .inr (.inl (mem_letters below))
  · rw [known] at part
    exact .inl (mem_tableParts among part)
  · rw [known, List.mem_singleton] at part
    subst part
    exact .inl (mem_tableParts_of_variant among (List.mem_of_getElem? there))
  · have only : d ∈ [n] := plain ▸ part
    exact .inr (.inr ⟨List.mem_singleton.mp only, plain⟩)

/-! ## Facts of the tables -/

/-- Parts in the tables have no parts, and neither have the letters of Korean syllables. -/
theorem tables_plain :
    (tableParts.all fun n => !isSyllable n && !compoundBits.testBit n) ∧
      letters.all fun n => !isSyllable n && !compoundBits.testBit n := by
  decide +kernel

/-- Characters that are put together are listed once, and no Korean syllable is among them. -/
theorem composites_listed :
    (composites.map Prod.fst).IsChain (· < ·) ∧ composites.all fun e => !isSyllable e.1 := by
  decide +kernel

/-- Parts have no parts. -/
theorem isPlain_of_mem_parts {n d : Nat} (part : d ∈ parts n) : IsPlain d := by
  have checked (plain : (!isSyllable d && !compoundBits.testBit d) = true) : IsPlain d := by
    rw [Bool.and_eq_true, Bool.not_eq_true', Bool.not_eq_true'] at plain
    exact isPlain_of_not_compound plain.1 plain.2
  rcases mem_parts_cases part with listed | letter | ⟨rfl, plain⟩
  · exact checked (List.all_eq_true.mp tables_plain.1 d listed)
  · exact checked (List.all_eq_true.mp tables_plain.2 d letter)
  · exact plain

/-- The parts of a Korean syllable are the letters that it is put together of. -/
theorem parts_of_syllable? {ds : List Nat} {p : Nat} (found : syllable? ds = some p) :
    parts p = ds ∧ isSyllable p := by
  have whole (k : Nat) (small : k < syllableCount) :
      parts (firstSyllable + k) = syllableLetters k ∧ isSyllable (firstSyllable + k) := by
    have syllable := isSyllable_add small
    exact ⟨by rw [parts, if_pos syllable, Nat.add_sub_cancel_left], syllable⟩
  have count : syllableCount = 11172 := rfl
  unfold syllable? at found
  split at found
  · rename_i first vowel
    split at found
    · rename_i within
      simp only [Bool.and_eq_true, decide_eq_true_eq] at within
      obtain ⟨k, index⟩ : ∃ k, k = ((first - 0x1100) * 21 + (vowel - 0x1161)) * 28 := ⟨_, rfl⟩
      obtain ⟨known, syllable⟩ := whole k (by omega)
      have one : 0x1100 + k / 588 = first := by omega
      have two : 0x1161 + k / 28 % 21 = vowel := by omega
      have open' : k % 28 = 0 := by omega
      rw [syllableLetters, one, two, if_pos open', List.append_nil] at known
      rw [← Option.some.inj found, ← index]
      exact ⟨known, syllable⟩
    · cases found
  · rename_i first vowel last
    split at found
    · rename_i within
      simp only [Bool.and_eq_true, decide_eq_true_eq] at within
      obtain ⟨k, index⟩ : ∃ k, k =
        ((first - 0x1100) * 21 + (vowel - 0x1161)) * 28 + (last - 0x11A7) := ⟨_, rfl⟩
      obtain ⟨known, syllable⟩ := whole k (by omega)
      have one : 0x1100 + k / 588 = first := by omega
      have two : 0x1161 + k / 28 % 21 = vowel := by omega
      have three : 0x11A7 + k % 28 = last := by omega
      have closed : ¬ k % 28 = 0 := by omega
      rw [syllableLetters, one, two, if_neg closed, three] at known
      rw [← Option.some.inj found, Nat.add_assoc, ← index]
      exact ⟨known, syllable⟩
    · cases found
  · cases found

/-- What is put together is a Korean syllable or in the table. -/
theorem composite?_cases {ds : List Nat} {p : Nat} (found : composite? ds = some p) :
    (isSyllable p ∧ parts p = ds) ∨ (p, ds) ∈ composites := by
  rw [composite?] at found
  cases syllable : syllable? ds with
  | some q =>
    rw [syllable] at found
    cases found
    exact .inl (parts_of_syllable? syllable).symm
  | none =>
    rw [syllable, Option.none_or] at found
    obtain ⟨e, listed, rfl⟩ := Option.map_eq_some_iff.mp found
    have same := List.find?_some (p := fun e : Nat × List Nat => e.2 == ds) listed
    have among := List.mem_of_find?_eq_some listed
    rw [← eq_of_beq same]
    exact .inr among

/-- The table of what is put together gives the parts, since it lists every character once. -/
theorem parts_of_mem_composites {p : Nat} {ds : List Nat} (among : (p, ds) ∈ composites) :
    parts p = ds := by
  have single := List.all_eq_true.mp composites_listed.2 _ among
  rw [Bool.not_eq_true'] at single
  have known : composites.lookup p = some ds := by
    obtain ⟨front, back, split⟩ := List.append_of_mem among
    refine List.lookup_eq_some_iff.mpr ⟨front, back, split, fun d before => ?_⟩
    have ascending := List.isChain_iff_pairwise.mp composites_listed.1
    rw [split, List.map_append, List.map_cons, List.pairwise_append] at ascending
    have below := ascending.2.2 d.1 (List.mem_map_of_mem before) p List.mem_cons_self
    exact bne_iff_ne.mpr (by omega)
  rw [parts, if_neg (Bool.eq_false_iff.mp single), known]
  rfl

/-- The parts of a character that is put together are those that it is put together of. -/
theorem parts_of_composite? {ds : List Nat} {p : Nat} (found : composite? ds = some p) :
    parts p = ds := by
  rcases composite?_cases found with ⟨-, known⟩ | listed
  · exact known
  · exact parts_of_mem_composites listed

end SessionScript.Text
