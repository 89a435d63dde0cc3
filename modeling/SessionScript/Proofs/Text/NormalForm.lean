import SessionScript.Proofs.Text.IdentifierPoints

/-!
# Normal forms of identifiers

The normal form of an identifier is an identifier in normal form. To take a text in normal form
apart gives the parts that it was put together of, up to the order of marks that do not touch each
other, and so to put the parts together again gives the same text.
-/

namespace SessionScript.Text

/-! ## The order of marks -/

theorem passes_iff {n m : Nat} :
    passes n m = true ↔ 0 < markClass m ∧ markClass m < markClass n := by
  rw [passes, Bool.and_eq_true, decide_eq_true_iff, decide_eq_true_iff]

theorem mem_insertMark {n d : Nat} {ms : List Nat} :
    d ∈ insertMark n ms ↔ d = n ∨ d ∈ ms := by
  induction ms with
  | nil => simp [insertMark]
  | cons m ms ih =>
    rw [insertMark]
    split
    · rw [List.mem_cons, ih, List.mem_cons]
      exact or_left_comm
    · exact List.mem_cons

theorem mem_orderMarks {d : Nat} {ns : List Nat} : d ∈ orderMarks ns ↔ d ∈ ns := by
  induction ns with
  | nil => rfl
  | cons n ns ih =>
    have cons : orderMarks (n :: ns) = insertMark n (orderMarks ns) := rfl
    rw [cons, mem_insertMark, ih, List.mem_cons]

theorem insertMark_pass {n m : Nat} (pass : passes n m = true) (ms : List Nat) :
    insertMark n (m :: ms) = m :: insertMark n ms := if_pos pass

theorem insertMark_stay {n m : Nat} (stay : ¬ passes n m = true) (ms : List Nat) :
    insertMark n (m :: ms) = n :: m :: ms := if_neg stay

/-- Marks that do not touch each other may be put in front in any order. -/
theorem insertMark_comm {n m : Nat} (pass : passes n m = true) (ms : List Nat) :
    insertMark n (insertMark m ms) = insertMark m (insertMark n ms) := by
  have order := passes_iff.mp pass
  have stay : ¬ passes m n = true := by
    rw [passes_iff]
    omega
  induction ms with
  | nil => exact (insertMark_pass pass []).trans (insertMark_stay stay []).symm
  | cons k ks ih =>
    by_cases first : passes m k
    · have both : passes n k = true := by
        have lower := passes_iff.mp first
        rw [passes_iff]
        omega
      rw [insertMark_pass first, insertMark_pass both, insertMark_pass both, insertMark_pass first,
        ih]
    · rw [insertMark_stay first, insertMark_pass pass]
      by_cases second : passes n k
      · rw [insertMark_pass second, insertMark_stay first]
      · rw [insertMark_stay second, insertMark_stay stay]

theorem orderMarks_cons (n : Nat) (ns : List Nat) :
    orderMarks (n :: ns) = insertMark n (orderMarks ns) := rfl

/-- Texts with the same order have the same order behind a text. -/
theorem orderMarks_append (front : List Nat) {ns ms : List Nat}
    (same : orderMarks ns = orderMarks ms) :
    orderMarks (front ++ ns) = orderMarks (front ++ ms) := by
  rw [orderMarks, orderMarks, List.foldr_append, List.foldr_append]
  exact congrArg (front.foldr insertMark) same

/-- A mark may stand in front of marks that it passes as well as behind them. -/
theorem orderMarks_passes {n : Nat} {ms : List Nat} (pass : ∀ m ∈ ms, passes n m = true)
    (rest : List Nat) : orderMarks (n :: (ms ++ rest)) = orderMarks (ms ++ n :: rest) := by
  induction ms with
  | nil => rfl
  | cons m ms ih =>
    obtain ⟨first, others⟩ := List.forall_mem_cons.mp pass
    rw [List.cons_append, orderMarks_cons, orderMarks_cons, insertMark_comm first,
      List.cons_append, orderMarks_cons, ← ih others, orderMarks_cons]

theorem orderMarks_insertMark (n : Nat) (ms : List Nat) :
    orderMarks (insertMark n ms) = insertMark n (orderMarks ms) := by
  induction ms with
  | nil => rfl
  | cons m ms ih =>
    by_cases pass : passes n m
    · rw [insertMark_pass pass, orderMarks_cons, ih, orderMarks_cons, insertMark_comm pass]
    · rw [insertMark_stay pass, orderMarks_cons]

/-- Marks in order stay as they are. -/
theorem orderMarks_orderMarks (ns : List Nat) : orderMarks (orderMarks ns) = orderMarks ns := by
  induction ns with
  | nil => rfl
  | cons n ns ih => rw [orderMarks_cons, orderMarks_insertMark, ih]

/-! ## Texts that are taken apart again -/

theorem flatMap_parts {ns : List Nat} (plain : ∀ n ∈ ns, IsPlain n) : ns.flatMap parts = ns := by
  induction ns with
  | nil => rfl
  | cons n ns ih =>
    obtain ⟨first, others⟩ := List.forall_mem_cons.mp plain
    rw [List.flatMap_cons, first, ih others]
    rfl

theorem flatMap_joined {ds : List Nat} (plain : ∀ d ∈ ds, IsPlain d) :
    (joined ds).flatMap parts = ds := by
  rw [joined]
  cases found : composite? ds with
  | some p => exact (List.flatMap_singleton parts p).trans (parts_of_composite? found)
  | none => exact flatMap_parts plain

/-- What is put together is taken apart to the same parts, up to the order of marks. -/
theorem orderMarks_parts_composeFrom {base marks ns : List Nat}
    (plain : ∀ n ∈ base ++ marks ++ ns, IsPlain n) :
    orderMarks ((composeFrom base marks ns).flatMap parts) = orderMarks (base ++ marks ++ ns) := by
  induction ns generalizing base marks with
  | nil =>
    have known : ∀ n ∈ base ++ marks, IsPlain n := by simpa using plain
    obtain ⟨ofBase, ofMarks⟩ := List.forall_mem_append.mp known
    rw [composeFrom, List.flatMap_append, flatMap_joined ofBase, flatMap_parts ofMarks,
      List.append_nil]
  | cons n ns ih =>
    obtain ⟨known, later⟩ := List.forall_mem_append.mp plain
    obtain ⟨ofBase, ofMarks⟩ := List.forall_mem_append.mp known
    obtain ⟨ofN, ofRest⟩ := List.forall_mem_cons.mp later
    rw [composeFrom]
    split
    · -- The character becomes a part: it passes the marks that it stood behind.
      rename_i taken
      have passing : ∀ m ∈ marks, passes n m = true :=
        List.all_eq_true.mp (Bool.and_eq_true_iff.mp taken).1
      have same : ∀ m, m ∈ base ++ [n] ++ marks ++ ns ↔ m ∈ base ++ marks ++ n :: ns := by
        intro m
        simp only [List.mem_append, List.mem_cons, List.not_mem_nil, or_false]
        tauto
      rw [ih fun m among => plain m ((same m).mp among), List.append_assoc, List.append_assoc,
        List.append_assoc]
      exact orderMarks_append base (orderMarks_passes passing ns)
    split
    · -- The next character is built up.
      rw [List.flatMap_append, List.flatMap_append, flatMap_joined ofBase, flatMap_parts ofMarks]
      refine orderMarks_append (base ++ marks) ?_
      exact ih (by simpa using later)
    · -- The mark stays behind the character.
      have same : base ++ (marks ++ [n]) ++ ns = base ++ marks ++ n :: ns := by simp
      rw [ih (same ▸ plain), same]

theorem orderMarks_parts_compose {ns : List Nat} (plain : ∀ n ∈ ns, IsPlain n) :
    orderMarks ((compose ns).flatMap parts) = orderMarks ns := by
  cases ns with
  | nil => rfl
  | cons n ns => exact orderMarks_parts_composeFrom plain

/-- A text in normal form is its own normal form. -/
theorem normalPoints_normalPoints (ns : List Nat) :
    normalPoints (normalPoints ns) = normalPoints ns := by
  have plain : ∀ n ∈ orderMarks (ns.flatMap parts), IsPlain n := by
    intro n among
    obtain ⟨m, -, part⟩ := List.mem_flatMap.mp (mem_orderMarks.mp among)
    exact isPlain_of_mem_parts part
  rw [normalPoints, normalPoints, orderMarks_parts_compose plain, orderMarks_orderMarks]

/-! ## Identifiers -/

/-- What is put together of characters of identifiers is made of such characters. -/
theorem isPartPoint_of_mem_composeFrom {base marks ns : List Nat}
    (known : ∀ n ∈ base ++ marks ++ ns, IsPartPoint n) :
    ∀ n ∈ composeFrom base marks ns, IsPartPoint n := by
  have ofJoined {ds : List Nat} (all : ∀ d ∈ ds, IsPartPoint d) :
      ∀ n ∈ joined ds, IsPartPoint n := by
    rw [joined]
    cases found : composite? ds with
    | some p => exact List.forall_mem_singleton.mpr (isPartPoint_of_composite? found)
    | none => exact all
  induction ns generalizing base marks with
  | nil =>
    have known : ∀ n ∈ base ++ marks, IsPartPoint n := by simpa using known
    obtain ⟨ofBase, ofMarks⟩ := List.forall_mem_append.mp known
    exact List.forall_mem_append.mpr ⟨ofJoined ofBase, ofMarks⟩
  | cons n ns ih =>
    obtain ⟨before, later⟩ := List.forall_mem_append.mp known
    obtain ⟨ofBase, ofMarks⟩ := List.forall_mem_append.mp before
    rw [composeFrom]
    split
    · refine ih fun m among => known m ?_
      simp only [List.mem_append, List.mem_cons, List.not_mem_nil, or_false] at among ⊢
      tauto
    split
    · refine List.forall_mem_append.mpr ⟨List.forall_mem_append.mpr ⟨ofJoined ofBase, ofMarks⟩, ?_⟩
      exact ih (by simpa using later)
    · have same : base ++ (marks ++ [n]) ++ ns = base ++ marks ++ n :: ns := by simp
      exact ih (same ▸ known)

/-- What is put together from a character on that starts an identifier does so too. -/
theorem isStartPoint_composeFrom {d : Nat} (start : IsStartPoint d) (base marks ns : List Nat) :
    ∃ n rest, composeFrom (d :: base) marks ns = n :: rest ∧ IsStartPoint n := by
  have ofJoined (base : List Nat) : ∃ n rest, joined (d :: base) = n :: rest ∧ IsStartPoint n := by
    rw [joined]
    cases found : composite? (d :: base) with
    | some p => exact ⟨p, [], rfl, isStartPoint_of_composite? found start⟩
    | none => exact ⟨d, base, rfl, start⟩
  induction ns generalizing base marks with
  | nil =>
    obtain ⟨n, rest, whole, first⟩ := ofJoined base
    exact ⟨n, rest ++ marks, by rw [composeFrom, whole, List.cons_append], first⟩
  | cons m ns ih =>
    rw [composeFrom]
    split
    · exact ih (base ++ [m]) marks
    split
    · obtain ⟨n, rest, whole, first⟩ := ofJoined base
      exact ⟨n, _, by rw [whole, List.cons_append, List.cons_append], first⟩
    · exact ih base (marks ++ [m])

/-- The normal form of an identifier is one. -/
theorem normalPoints_identifier {n : Nat} {ns : List Nat} (start : IsStartPoint n)
    (known : ∀ m ∈ n :: ns, IsPartPoint m) :
    (∃ m rest, normalPoints (n :: ns) = m :: rest ∧ IsStartPoint m) ∧
      ∀ m ∈ normalPoints (n :: ns), IsPartPoint m := by
  have ordered : ∀ m ∈ orderMarks ((n :: ns).flatMap parts), IsPartPoint m := by
    intro m among
    obtain ⟨k, there, part⟩ := List.mem_flatMap.mp (mem_orderMarks.mp among)
    exact isPartPoint_of_mem_parts (known k there) part
  -- No mark passes the first part.
  obtain ⟨d, ds, apart, first⟩ := isStartPoint_parts start
  obtain ⟨rest, order⟩ : ∃ rest, orderMarks ((n :: ns).flatMap parts) = d :: rest := by
    rw [List.flatMap_cons, apart, List.cons_append, orderMarks_cons]
    cases orderMarks (ds ++ ns.flatMap parts) with
    | nil => exact ⟨[], rfl⟩
    | cons m ms =>
      have stay : ¬ passes d m = true := by
        rw [passes_iff, markClass_of_isStartPoint first]
        omega
      exact ⟨m :: ms, insertMark_stay stay ms⟩
  rw [normalPoints, order]
  rw [order] at ordered
  exact ⟨isStartPoint_composeFrom first [] [] rest, isPartPoint_of_mem_composeFrom ordered⟩

/-- A text is an identifier. -/
def IsIdentifier (name : String) : Prop :=
  ∃ c cs, name.toList = c :: cs ∧ isIdentifierStart c ∧ ∀ d ∈ c :: cs, isIdentifierPart d

/-- Names of ASCII characters are in normal form. -/
theorem normalForm_of_ascii {name : String} (ascii : ∀ c ∈ name.toList, c.toNat < 128) :
    normalForm name = name := by
  have all : (name.toList.all fun c => decide (c.toNat < 128)) = true :=
    List.all_eq_true.mpr fun c among => decide_eq_true (ascii c among)
  rw [normalForm]
  exact if_pos all

/-- The normal form of other names has the normal form of the code points. -/
theorem normalForm_of_not_ascii {name : String} (other : ¬ ∀ c ∈ name.toList, c.toNat < 128) :
    normalForm name =
      String.ofList ((normalPoints (name.toList.map Char.toNat)).map Char.ofNat) := by
  rw [normalForm]
  refine if_neg fun all => other fun c among => ?_
  exact of_decide_eq_true (List.all_eq_true.mp all c among)

theorem isPartPoint_toNat {c : Char} (part : isIdentifierPart c) : IsPartPoint c.toNat :=
  ⟨c.valid, by rwa [Char.ofNat_toNat]⟩

theorem isStartPoint_toNat {c : Char} (start : isIdentifierStart c) : IsStartPoint c.toNat :=
  ⟨c.valid, by rwa [Char.ofNat_toNat]⟩

theorem map_toNat_map_ofNat {ns : List Nat} (valid : ∀ n ∈ ns, IsPartPoint n) :
    (ns.map Char.ofNat).map Char.toNat = ns := by
  rw [List.map_map]
  refine (List.map_congr_left fun n among => ?_).trans (List.map_id ns)
  exact toNat_ofNat (valid n among).1

section Identifier

variable {name : String} (identifier : IsIdentifier name)
include identifier

/-- The code points of an identifier have a normal form of code points of identifiers. -/
theorem IsIdentifier.normalPoints :
    (∃ m rest, normalPoints (name.toList.map Char.toNat) = m :: rest ∧ IsStartPoint m) ∧
      ∀ m ∈ normalPoints (name.toList.map Char.toNat), IsPartPoint m := by
  obtain ⟨c, cs, text, start, words⟩ := identifier
  rw [text, List.map_cons]
  refine normalPoints_identifier (isStartPoint_toNat start) fun m among => ?_
  rw [← List.map_cons] at among
  obtain ⟨d, there, rfl⟩ := List.mem_map.mp among
  exact isPartPoint_toNat (words d there)

/-- The normal form of an identifier is an identifier. -/
theorem IsIdentifier.normalForm : IsIdentifier (normalForm name) := by
  by_cases ascii : ∀ c ∈ name.toList, c.toNat < 128
  · rwa [normalForm_of_ascii ascii]
  · obtain ⟨⟨m, rest, points, start⟩, known⟩ := identifier.normalPoints
    rw [points] at known
    refine ⟨Char.ofNat m, rest.map Char.ofNat, ?_, start.2, fun d among => ?_⟩
    · rw [normalForm_of_not_ascii ascii, points, String.toList_ofList, List.map_cons]
    · rw [← List.map_cons] at among
      obtain ⟨n, there, rfl⟩ := List.mem_map.mp among
      exact (known n there).2

/-- The normal form of an identifier is its own normal form. -/
theorem IsIdentifier.normalForm_normalForm :
    Text.normalForm (Text.normalForm name) = Text.normalForm name := by
  by_cases ascii : ∀ c ∈ name.toList, c.toNat < 128
  · rw [normalForm_of_ascii ascii, normalForm_of_ascii ascii]
  · by_cases simple : ∀ c ∈ (Text.normalForm name).toList, c.toNat < 128
    · exact normalForm_of_ascii simple
    · rw [normalForm_of_not_ascii simple, normalForm_of_not_ascii ascii, String.toList_ofList,
        map_toNat_map_ofNat identifier.normalPoints.2, normalPoints_normalPoints]

end Identifier

end SessionScript.Text
