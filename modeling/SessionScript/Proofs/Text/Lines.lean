import Mathlib.Data.List.Chain
import Mathlib.Data.List.TakeWhile
import SessionScript.Text.Lines

/-!
# Lines of texts

An indented block has the lines of a text that are not blank, and nothing else is lost: what is
written below some lines is known by these lines of it.
-/

namespace SessionScript.Text

/-! ## Lines that are joined -/

/-- Each line behind a line feed. -/
def below (ls : List String) : List Char := ls.flatMap fun l => '\n' :: l.toList

theorem toList_unlines_cons (l : String) (ls : List String) :
    (unlines (l :: ls)).toList = l.toList ++ below ls := by
  induction ls generalizing l with
  | nil => rw [unlines, String.intercalate_singleton, below, List.flatMap_nil, List.append_nil]
  | cons m ls ih =>
    have rest := ih m
    rw [unlines] at rest ⊢
    rw [String.intercalate_cons_cons, String.toList_append, String.toList_append, rest,
      List.append_assoc]
    rfl

theorem toList_unlines_append {front : List String} (some : front ≠ []) (ls : List String) :
    (unlines (front ++ ls)).toList = (unlines front).toList ++ below ls := by
  cases front with
  | nil => exact absurd rfl some
  | cons l front =>
    rw [List.cons_append, toList_unlines_cons, toList_unlines_cons, below, List.flatMap_append,
      List.append_assoc]
    rfl

/-- What stands in front of the first line feed, or of the end of the text. -/
theorem takeWhile_append_below {l : List Char} (line : '\n' ∉ l) (ls : List String) :
    (l ++ below ls).takeWhile (· != '\n') = l := by
  have inner : ∀ c ∈ l, (c != '\n') = true := by
    intro c among
    exact bne_iff_ne.mpr fun same => line (same ▸ among)
  rw [List.takeWhile_append_of_pos inner]
  cases ls with
  | nil => rw [below, List.flatMap_nil, List.takeWhile_nil, List.append_nil]
  | cons m ls => simp [below]

/-- Lines are known by what they are joined to. -/
theorem below_inj {ls : List String} :
    ∀ {ms : List String}, (∀ l ∈ ls, '\n' ∉ l.toList) → (∀ m ∈ ms, '\n' ∉ m.toList) →
      below ls = below ms → ls = ms := by
  induction ls with
  | nil =>
    intro ms _ _ same
    cases ms with
    | nil => rfl
    | cons m ms => cases same
  | cons l ls ih =>
    intro ms lines lines' same
    cases ms with
    | nil => cases same
    | cons m ms =>
      obtain ⟨first, others⟩ := List.forall_mem_cons.mp lines
      obtain ⟨first', others'⟩ := List.forall_mem_cons.mp lines'
      have same : l.toList ++ below ls = m.toList ++ below ms := (List.cons.inj same).2
      have heads : l.toList = m.toList := by
        rw [← takeWhile_append_below first ls, same, takeWhile_append_below first' ms]
      rw [heads, List.append_right_inj] at same
      rw [String.toList_inj.mp heads, ih others others' same]

/-- Lines below others are known by the whole text. -/
theorem unlines_append_inj {front ls ms : List String} (some : front ≠ [])
    (lines : ∀ l ∈ ls, '\n' ∉ l.toList) (lines' : ∀ m ∈ ms, '\n' ∉ m.toList) :
    unlines (front ++ ls) = unlines (front ++ ms) ↔ ls = ms := by
  constructor
  · intro same
    have same := congrArg String.toList same
    rw [toList_unlines_append some, toList_unlines_append some, List.append_right_inj] at same
    exact below_inj lines lines' same
  · intro same
    rw [same]

/-! ## Lines that are found -/

/-- There are no line feeds in lines. -/
theorem not_mem_linesFrom (current cs : List Char) (inner : '\n' ∉ current) :
    ∀ l ∈ linesFrom current cs, '\n' ∉ l := by
  induction current, cs using linesFrom.induct with
  | case1 => exact List.forall_mem_nil _
  | case2 current some =>
    intro l among
    rw [linesFrom] at among
    · cases List.mem_singleton.mp among
      rwa [List.mem_reverse]
    · exact some
  | case3 current rest ih =>
    rw [linesFrom, List.forall_mem_cons, List.mem_reverse]
    exact ⟨inner, ih List.not_mem_nil⟩
  | case4 current c rest other ends ih =>
    rw [linesFrom, if_pos ends, List.forall_mem_cons, List.mem_reverse]
    · exact ⟨inner, ih List.not_mem_nil⟩
    · exact other
  | case5 current c rest other inside ih =>
    rw [linesFrom, if_neg inside]
    · refine ih ?_
      intro among
      rcases List.mem_cons.mp among with rfl | among
      · exact inside (by decide)
      · exact inner among
    · exact other

/-- Characters that end no line go on with the line at hand. -/
theorem linesFrom_append_inner {a : List Char} (inner : ∀ c ∈ a, isLineEnd c = false) :
    ∀ (current rest : List Char),
      linesFrom current (a ++ rest) = linesFrom (a.reverse ++ current) rest := by
  induction a with
  | nil => exact fun _ _ => rfl
  | cons c a ih =>
    obtain ⟨first, others⟩ := List.forall_mem_cons.mp inner
    intro current rest
    rw [List.cons_append, linesFrom, first, if_neg Bool.false_ne_true, ih others,
      List.reverse_cons, List.append_assoc]
    · rfl
    · rintro rest rfl
      exact absurd first (by decide)

theorem linesFrom_feed (current rest : List Char) :
    linesFrom current ('\n' :: rest) = current.reverse :: linesFrom [] rest := by
  have feed : isLineEnd '\n' := by decide
  rw [linesFrom, if_pos feed]
  exact nofun

/-- The lines of a text that does not end with a line end come first, if it stands above others. -/
theorem linesFrom_append (rest current cs : List Char) :
    (cs = [] → current ≠ []) → (∀ d ∈ cs.getLast?, isLineEnd d = false) →
      linesFrom current (cs ++ '\n' :: rest) = linesFrom current cs ++ linesFrom [] rest := by
  have feed : isLineEnd '\n' := by decide
  have onward {c : Char} {cs : List Char} (ends : isLineEnd c)
      (last : ∀ d ∈ (c :: cs).getLast?, isLineEnd d = false) :
      ∃ e es, cs = e :: es ∧ ∀ d ∈ cs.getLast?, isLineEnd d = false := by
    cases cs with
    | nil =>
      have inner := last c rfl
      rw [ends] at inner
      cases inner
    | cons e es => exact ⟨e, es, rfl, by rwa [List.getLast?_cons_cons] at last⟩
  induction current, cs using linesFrom.induct with
  | case1 => exact fun some => absurd rfl (some rfl)
  | case2 current some =>
    intro _ _
    rw [List.nil_append, linesFrom_feed, linesFrom]
    · rfl
    · exact some
  | case3 current cs ih =>
    intro _ last
    obtain ⟨-, -, -, last⟩ := onward (by decide) last
    obtain ⟨e, es, rfl, last⟩ := onward feed last
    rw [List.cons_append, List.cons_append, linesFrom, linesFrom, ih nofun last]
    rfl
  | case4 current c cs other ends ih =>
    intro _ last
    obtain ⟨e, es, rfl, last⟩ := onward ends last
    rw [List.cons_append, linesFrom, if_pos ends, linesFrom, if_pos ends, ih nofun last]
    · rfl
    · exact other
    · rintro more rfl same
      obtain ⟨rfl, -⟩ := List.cons.inj same
      exact other es rfl rfl
  | case5 current c cs other inside ih =>
    intro _ last
    have last : ∀ d ∈ cs.getLast?, isLineEnd d = false := by
      intro d known
      cases cs with
      | nil => cases known
      | cons e es => exact last d (by rwa [List.getLast?_cons_cons])
    rw [List.cons_append, linesFrom, if_neg inside, linesFrom, if_neg inside,
      ih (fun _ => List.cons_ne_nil _ _) last]
    · exact other
    · rintro more rfl
      exact absurd (by decide) inside

/-- The lines of a text that are not blank. -/
def inkedLines (s : String) : List String := (lines s).filter fun l => !(l.toList.all isBlank)

/-- A line with spaces in front of it. -/
def indented (width : Nat) (l : String) : String := String.ofList (List.replicate width ' ') ++ l

theorem indent_eq (width : Nat) (block : String) :
    indent width block = unlines ((inkedLines block).map (indented width)) := rfl

theorem not_mem_inkedLines {s l : String} (among : l ∈ inkedLines s) : '\n' ∉ l.toList := by
  obtain ⟨line, -⟩ := List.mem_filter.mp among
  obtain ⟨cs, found, rfl⟩ := List.mem_map.mp line
  rw [String.toList_ofList]
  exact not_mem_linesFrom [] s.toList List.not_mem_nil cs found

theorem inkedLines_append {above : String} {d : Char} (last : above.toList.getLast? = some d)
    (inner : isLineEnd d = false) (s : String) :
    inkedLines (above ++ "\n" ++ s) = inkedLines above ++ inkedLines s := by
  have text : (above ++ "\n" ++ s).toList = above.toList ++ '\n' :: s.toList := by
    rw [String.toList_append, String.toList_append, List.append_assoc]
    rfl
  have cut := linesFrom_append s.toList [] above.toList
    (fun empty => by rw [empty] at last; cases last)
    (fun c known => by rw [last] at known; cases known; exact inner)
  rw [inkedLines, lines, text, cut, List.map_append, List.filter_append]
  rfl

/-! ## Texts without blank lines -/

/-- A line that is not blank. -/
structure IsInked (l : List Char) : Prop where
  inner : ∀ c ∈ l, isLineEnd c = false
  ink : ∃ c ∈ l, isBlank c = false

/-- Lines that have ended. -/
def ended (ls : List (List Char)) : List Char := ls.flatMap (· ++ ['\n'])

theorem ended_cons (l : List Char) (ls : List (List Char)) :
    ended (l :: ls) = l ++ '\n' :: ended ls := by
  rw [ended, List.flatMap_cons, List.append_assoc]
  rfl

theorem ended_append_singleton (ls : List (List Char)) (l : List Char) :
    ended (ls ++ [l]) = ended ls ++ (l ++ ['\n']) := by
  rw [ended, List.flatMap_append, List.flatMap_singleton]
  rfl

/-- The lines of a text are found in it. -/
theorem linesFrom_ended {ls : List (List Char)} {l : List Char} (inked : ∀ m ∈ ls, IsInked m)
    (last : IsInked l) : linesFrom [] (ended ls ++ l) = ls ++ [l] := by
  induction ls with
  | nil =>
    obtain ⟨c, among, -⟩ := last.ink
    have whole := linesFrom_append_inner last.inner [] []
    rw [List.append_nil, List.append_nil] at whole
    rw [ended, List.flatMap_nil, List.nil_append, List.nil_append, whole, linesFrom,
      List.reverse_reverse]
    intro empty
    rw [List.reverse_eq_nil_iff.mp empty] at among
    cases among
  | cons m ls ih =>
    obtain ⟨first, others⟩ := List.forall_mem_cons.mp inked
    rw [ended_cons, List.append_assoc, linesFrom_append_inner first.inner, List.append_nil,
      List.cons_append, linesFrom_feed, List.reverse_reverse, ih others]
    rfl

/-- Lines that are joined are the text that they are found in. -/
theorem below_ended (ls : List (List Char)) (l : List Char) :
    below ((ls ++ [l]).map String.ofList) = '\n' :: (ended ls ++ l) := by
  induction ls with
  | nil => simp [below, ended]
  | cons m ls ih =>
    rw [List.cons_append, List.map_cons, below, List.flatMap_cons, ← below, ih,
      String.toList_ofList, ended_cons]
    simp

/-- A text without blank lines is what its lines are joined to. -/
theorem unlines_inkedLines {ls : List (List Char)} {l : List Char} (inked : ∀ m ∈ ls, IsInked m)
    (last : IsInked l) :
    unlines (inkedLines (String.ofList (ended ls ++ l))) = String.ofList (ended ls ++ l) := by
  have kept : inkedLines (String.ofList (ended ls ++ l)) = (ls ++ [l]).map String.ofList := by
    rw [inkedLines, lines, String.toList_ofList, linesFrom_ended inked last,
      List.filter_eq_self]
    intro s among
    obtain ⟨m, inside, rfl⟩ := List.mem_map.mp among
    have ink : ∃ c ∈ m, isBlank c = false := by
      rcases List.mem_append.mp inside with before | here
      · exact (inked m before).ink
      · rw [List.mem_singleton.mp here]
        exact last.ink
    obtain ⟨c, here, inked⟩ := ink
    rw [String.toList_ofList, Bool.not_eq_true', List.all_eq_false]
    exact ⟨c, here, by simp [inked]⟩
  have joined := below_ended ls l
  obtain ⟨m, ms, split⟩ : ∃ m ms, (ls ++ [l]).map String.ofList = m :: ms :=
    List.exists_cons_of_ne_nil (by simp)
  rw [split, below, List.flatMap_cons] at joined
  rw [kept, split, ← String.toList_inj, toList_unlines_cons, String.toList_ofList]
  exact (List.cons.inj joined).2

/-- Lines that are joined have no two line feeds in a row, if none of them is empty. -/
theorem isChain_below {ls : List String} (full : ∀ l ∈ ls, '\n' ∉ l.toList ∧ l.toList ≠ []) :
    (below ls).IsChain fun a b => a ≠ '\n' ∨ b ≠ '\n' := by
  induction ls with
  | nil => exact .nil
  | cons l ls ih =>
    obtain ⟨⟨line, some⟩, others⟩ := List.forall_mem_cons.mp full
    have inner : ∀ c ∈ l.toList, c ≠ '\n' := fun c among same => line (same ▸ among)
    have chain : l.toList.IsChain fun a b => a ≠ '\n' ∨ b ≠ '\n' :=
      (List.pairwise_of_forall_mem_list fun a among _ _ => .inl (inner a among)).isChain
    rw [below, List.flatMap_cons, List.cons_append, List.isChain_cons]
    constructor
    · intro c first
      rw [List.head?_append_of_ne_nil _ some] at first
      exact .inr (inner c (List.mem_of_mem_head? first))
    · refine chain.append (ih others) fun c last _ _ => .inl ?_
      exact inner c (List.mem_of_mem_getLast? last)

/-- The lines of a text that are not blank do not make up a text with two line feeds in a row. -/
theorem unlines_inkedLines_ne {s : String} (twice : ['\n', '\n'] <:+: s.toList) :
    unlines (inkedLines s) ≠ s := by
  intro same
  have full : ∀ l ∈ inkedLines s, '\n' ∉ l.toList ∧ l.toList ≠ [] := by
    intro l among
    refine ⟨not_mem_inkedLines among, fun empty => ?_⟩
    have ink := (List.mem_filter.mp among).2
    rw [empty] at ink
    cases ink
  have chain : s.toList.IsChain fun a b => a ≠ '\n' ∨ b ≠ '\n' := by
    rw [← same]
    cases kept : inkedLines s with
    | nil => exact .nil
    | cons l ls =>
      have chain := isChain_below full
      rw [kept, below, List.flatMap_cons, ← below, List.cons_append, ← toList_unlines_cons] at chain
      exact chain.tail
  have apart := chain.infix twice
  simp at apart

end SessionScript.Text
