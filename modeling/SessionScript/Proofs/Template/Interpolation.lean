import Mathlib.Data.List.DropRight
import SessionScript.Proofs.Template.Sites

/-!
# Interpolation piece by piece

A variable marker is found between its braces and nowhere else: the text in front of it, if it does
not end with a brace, can not take part in it, and neither can the text behind it. So a text with a
marker in it is shown as what is in front of the marker, what its path addresses, and what is behind
it.
-/

namespace SessionScript

/-! ## What a path addresses -/

namespace Text

/-- A trimmed text has nothing left to trim. -/
theorem trimBoth_trimBoth (p : Char → Bool) (cs : List Char) :
    trimBoth p (trimBoth p cs) = trimBoth p cs := by
  -- What is dropped from the end leaves the first character in its place, if any is left.
  have front : (trimBoth p cs).dropWhile p = trimBoth p cs := by
    cases trimmed : trimBoth p cs with
    | nil => rfl
    | cons c ds =>
      obtain ⟨rest, whole⟩ : c :: ds <+: cs.dropWhile p :=
        trimmed ▸ List.rdropWhile_prefix p (cs.dropWhile p)
      have first := List.head?_dropWhile_not p cs
      rw [← whole, List.cons_append, List.head?_cons] at first
      rw [List.dropWhile_cons_of_neg (by simpa using first)]
  rw [trimBoth, front]
  exact List.rdropWhile_idempotent p (cs.dropWhile p)

end Text

namespace Template

/-- Texts are cut at dots as lists are at an element. -/
theorem splitDots_eq_splitOn (cs : List Char) : splitDots cs = cs.splitOn '.' := by
  induction cs with
  | nil => rfl
  | cons c cs ih =>
    rw [splitDots, List.splitOn_cons_eq_if_modifyHead, ih]
    cases segments : cs.splitOn '.' with
    | nil => exact absurd segments (List.splitOn_ne_nil '.' cs)
    | cons s ss => rfl

namespace Path

/-- Segments lead from a value into it: a key into a mapping, a number into a sequence. -/
inductive Leads : List (List Char) → Value → Value → Prop where
  | here (v : Value) : Leads [] v v
  | key {s : List Char} {ss : List (List Char)} {es : Entries} {v w : Value}
    (found : es.get? (.text (String.ofList s)) = some v) (rest : Leads ss v w) :
    Leads (s :: ss) (.dict es) w
  | item {s : List Char} {ss : List (List Char)} {i : Nat} {vs : List Value} {v w : Value}
    (number : Text.number? 10 s = some i) (found : vs[i]? = some v) (rest : Leads ss v w) :
    Leads (s :: ss) (.list vs) w
  | member {s : List Char} {ss : List (List Char)} {i : Nat} {vs : List Value} {v w : Value}
    (number : Text.number? 10 s = some i) (found : vs[i]? = some v) (rest : Leads ss v w) :
    Leads (s :: ss) (.tuple vs) w

/-- A text without its blanks addresses a value if it is a path: if it consists of segments with
    dots between them, which lead from the variables to the value. -/
def Addresses (vars : Entries) (path : List Char) (v : Value) : Prop :=
  ∃ segments, isValid segments ∧
    ['.'].intercalate segments = Text.trimBoth Text.isBlank path ∧
    Leads segments (.dict vars) v

/-- The text of what a path addresses; empty if it addresses nothing. -/
structure Shows (vars : Entries) (path : List Char) (shown : Except Failure (List Char)) :
    Prop where
  addressed : ∀ v, Addresses vars path v → shown = (textOf v).map String.toList
  nothing : (¬ ∃ v, Addresses vars path v) → shown = .ok []

theorem leads_cons {s : List Char} {ss : List (List Char)} {v w : Value} :
    Leads (s :: ss) v w ↔ ∃ u, step s v = some u ∧ Leads ss u w := by
  constructor
  · intro leads
    cases leads with
    | key found rest => exact ⟨_, found, rest⟩
    | item number found rest => exact ⟨_, by rw [step, number]; exact found, rest⟩
    | member number found rest => exact ⟨_, by rw [step, number]; exact found, rest⟩
  · rintro ⟨u, stepped, rest⟩
    rw [step.eq_def] at stepped
    split at stepped
    · exact .key stepped rest
    · obtain ⟨i, number, found⟩ := Option.bind_eq_some_iff.mp stepped
      exact .item number found rest
    · obtain ⟨i, number, found⟩ := Option.bind_eq_some_iff.mp stepped
      exact .member number found rest
    · cases stepped

/-- What segments lead to is found by following them. -/
theorem follow_of_leads : ∀ {ss : List (List Char)} {v w : Value}, Leads ss v w → follow ss v = w
  | [], v, w, leads => by
    cases leads
    rfl
  | s :: ss, v, w, leads => by
    obtain ⟨u, stepped, rest⟩ := leads_cons.mp leads
    have found := follow_of_leads rest
    rw [follow, stepped]
    cases u with
    | null =>
      cases rest with
      | here => rfl
    | _ => exact found

/-- Segments that lead to nothing are followed to null. -/
theorem follow_of_not_leads :
    ∀ {ss : List (List Char)} {v : Value}, (¬ ∃ w, Leads ss v w) → follow ss v = .null
  | [], v, nowhere => absurd ⟨v, .here v⟩ nowhere
  | s :: ss, v, nowhere => by
    rw [follow]
    split
    · rfl
    · rfl
    · rename_i u _ stepped
      refine follow_of_not_leads ?_
      rintro ⟨w, rest⟩
      exact nowhere ⟨w, leads_cons.mpr ⟨u, stepped, rest⟩⟩

/-- There are no dots within the segments of a path. -/
theorem not_mem_of_isValid {segments : List (List Char)} (valid : isValid segments) :
    ∀ s ∈ segments, '.' ∉ s := by
  have dot {s : List Char} (words : ∀ c ∈ s, Text.isAsciiWord c) : '.' ∉ s := fun among =>
    absurd (words _ among) (by decide)
  cases segments with
  | nil => exact List.forall_mem_nil _
  | cons s ss =>
    rw [isValid, Bool.and_eq_true, List.all_eq_true] at valid
    refine List.forall_mem_cons.mpr ⟨dot (isAsciiWord_of_isName valid.1), fun t among => dot ?_⟩
    have word := valid.2 t among
    rw [Bool.and_eq_true, List.all_eq_true] at word
    exact word.2

/-- A text that is joined from valid segments is read as them. -/
theorem parse?_eq_some {path : List Char} {segments : List (List Char)} :
    parse? path = some ⟨segments⟩ ↔
      isValid segments ∧ ['.'].intercalate segments = Text.trimBoth Text.isBlank path := by
  rw [parse?, splitDots_eq_splitOn]
  constructor
  · intro parsed
    simp only [Option.ite_none_right_eq_some, Option.some.injEq, Path.mk.injEq] at parsed
    obtain ⟨valid, rfl⟩ := parsed
    exact ⟨valid, List.intercalate_splitOn '.'⟩
  · rintro ⟨valid, joined⟩
    have some : segments ≠ [] := by
      rintro rfl
      cases valid
    rw [← joined, List.splitOn_intercalate '.' (not_mem_of_isValid valid) some]
    simp [valid]

/-- What a text shows that is looked up is what it shows as a path. -/
theorem shows_lookup (vars : Entries) (path : List Char) :
    Shows vars path ((textOf (lookup vars (Text.trimBoth Text.isBlank path))).map String.toList) := by
  constructor
  · rintro v ⟨segments, valid, joined, leads⟩
    rw [← Text.trimBoth_trimBoth] at joined
    rw [lookup, parse?_eq_some.mpr ⟨valid, joined⟩]
    simp only [resolve, follow_of_leads leads]
  · intro none
    have null : lookup vars (Text.trimBoth Text.isBlank path) = .null := by
      rw [lookup]
      split
      · rename_i p parsed
        obtain ⟨valid, joined⟩ := parse?_eq_some.mp parsed
        rw [Text.trimBoth_trimBoth] at joined
        refine follow_of_not_leads ?_
        rintro ⟨v, leads⟩
        exact none ⟨v, p.segments, valid, joined, leads⟩
      · rfl
    rw [null]
    rfl

end Path

/-! ## Variable markers -/

namespace Piece

/-- Braces that close stand at the start of a text if they stand there without what follows a brace
    that opens. -/
theorem isPrefix_append_brace {t : List Char} (closing : '\x7b' ∉ t) :
    ∀ cs rest : List Char, t <+: cs ++ '\x7b' :: rest ↔ t <+: cs := by
  induction t with
  | nil => simp
  | cons d t ih =>
    obtain ⟨differs, closing⟩ := List.ne_and_not_mem_of_not_mem_cons closing
    intro cs rest
    cases cs with
    | nil => simp [Ne.symm differs]
    | cons c cs => simp [List.cons_prefix_cons, ih closing]

/-- The path of a marker that opens before a text, if the text goes on with a path and then with
    these braces, and the length of the marker with its braces. -/
def pathBefore (close : List Char) (braces : Nat) (cs : List Char) : Option (List Char × Nat) :=
  if close <+: cs.dropWhile isInner then
    some (Text.trimBoth Text.isBlank (cs.takeWhile isInner),
      (cs.takeWhile isInner).length + braces)
  else none

/-- A marker with three braces on either side. -/
theorem markerAt?_three (cs : List Char) :
    markerAt? ('\x7b' :: '\x7b' :: '\x7b' :: cs) = pathBefore ['\x7d', '\x7d', '\x7d'] 6 cs := by
  rw [markerAt?, pathBefore]
  simp only [drop_length_takeWhile]
  split
  · rename_i left
    rw [left]
    exact (if_pos (List.prefix_append ['\x7d', '\x7d', '\x7d'] _)).symm
  · rename_i other
    rw [if_neg]
    rintro ⟨t, left⟩
    exact other t left.symm

/-- A marker with two braces on either side. -/
theorem markerAt?_two {cs : List Char} (other : cs.head? ≠ some '\x7b') :
    markerAt? ('\x7b' :: '\x7b' :: cs) = pathBefore ['\x7d', '\x7d'] 4 cs := by
  rw [markerAt?, pathBefore]
  · simp only [drop_length_takeWhile]
    split
    · rename_i left
      rw [left]
      exact (if_pos (List.prefix_append ['\x7d', '\x7d'] _)).symm
    · rename_i unclosed
      rw [if_neg]
      rintro ⟨t, left⟩
      exact unclosed t left.symm
  · rintro ds starts
    rw [starts] at other
    exact other rfl

/-- A marker opens with two braces. -/
theorem markerAt?_other {cs : List Char} (other : ¬ ['\x7b', '\x7b'] <+: cs) :
    markerAt? cs = none := by
  rw [markerAt?.eq_def]
  split
  · exact absurd (List.prefix_append ['\x7b', '\x7b'] _) other
  · exact absurd (List.prefix_append ['\x7b', '\x7b'] _) other
  · rfl

theorem pathBefore_append_brace {close : List Char} (closing : '\x7b' ∉ close) (braces : Nat)
    (cs rest : List Char) :
    pathBefore close braces (cs ++ '\x7b' :: rest) = pathBefore close braces cs := by
  have stop : isInner '\x7b' = false := by decide
  simp only [pathBefore, dropWhile_append_cons stop, takeWhile_append_cons stop,
    isPrefix_append_brace closing]

/-- A marker ends within the text whose path it has. -/
theorem length_le_of_pathBefore {close : List Char} {braces : Nat} {cs path : List Char}
    {length : Nat} (found : pathBefore close braces cs = some (path, length)) :
    length + close.length ≤ cs.length + braces := by
  rw [pathBefore] at found
  split at found
  · rename_i closed
    cases found
    have parts : (cs.takeWhile isInner ++ cs.dropWhile isInner).length = cs.length := by
      rw [List.takeWhile_append_dropWhile]
    have long := closed.length_le
    rw [List.length_append] at parts
    omega
  · cases found

/-- A text starts with three braces, with two, or with fewer. -/
theorem braces_cases (cs : List Char) :
    (∃ ds, cs = '\x7b' :: '\x7b' :: '\x7b' :: ds) ∨
      (∃ ds, ds.head? ≠ some '\x7b' ∧ cs = '\x7b' :: '\x7b' :: ds) ∨
      ¬ ['\x7b', '\x7b'] <+: cs := by
  by_cases two : ['\x7b', '\x7b'] <+: cs
  · obtain ⟨ds, rfl⟩ := two
    by_cases third : ds.head? = some '\x7b'
    · obtain ⟨es, rfl⟩ := List.head?_eq_some_iff.mp third
      exact .inl ⟨es, rfl⟩
    · exact .inr (.inl ⟨ds, third, rfl⟩)
  · exact .inr (.inr two)

/-- What stands in front of a brace is a marker of its own or none at all, unless it ends with a
    brace itself. -/
theorem markerAt?_append_brace {u : List Char} (nonempty : u ≠ [])
    (ends : u.getLast? ≠ some '\x7b') (rest : List Char) :
    markerAt? (u ++ '\x7b' :: rest) = markerAt? u := by
  rcases braces_cases u with ⟨ds, rfl⟩ | ⟨ds, other, rfl⟩ | fewer
  · rw [markerAt?_three, List.cons_append, List.cons_append, List.cons_append, markerAt?_three,
      pathBefore_append_brace (by decide)]
  · have other' : (ds ++ '\x7b' :: rest).head? ≠ some '\x7b' := by
      cases ds with
      | nil => exact absurd rfl ends
      | cons d ds => exact other
    rw [markerAt?_two other, List.cons_append, List.cons_append, markerAt?_two other',
      pathBefore_append_brace (by decide)]
  · rw [markerAt?_other fewer, markerAt?_other]
    intro two
    rcases u with _ | ⟨c, _ | ⟨d, u⟩⟩
    · exact nonempty rfl
    · obtain rfl : '\x7b' = c := (List.cons_prefix_cons.mp two).1
      exact ends rfl
    · refine fewer ?_
      simpa [List.cons_prefix_cons] using two

/-- A marker is no longer than the text that it starts. -/
theorem length_le_of_markerAt? {u path : List Char} {length : Nat}
    (found : markerAt? u = some (path, length)) : length ≤ u.length := by
  rcases braces_cases u with ⟨ds, rfl⟩ | ⟨ds, other, rfl⟩ | fewer
  · rw [markerAt?_three] at found
    have := length_le_of_pathBefore found
    simp only [List.length_cons, List.length_nil] at this ⊢
    omega
  · rw [markerAt?_two other] at found
    have := length_le_of_pathBefore found
    simp only [List.length_cons, List.length_nil] at this ⊢
    omega
  · rw [markerAt?_other fewer] at found
    cases found

/-! ## Pieces of texts next to each other -/

/-- The pieces in front of a brace and those from the brace on do not depend on each other, unless
    another brace stands in front of it. -/
theorem listFrom_append_brace (rest : List Char) :
    ∀ {a : List Char} {skip : Nat}, skip ≤ a.length → a.getLast? ≠ some '\x7b' →
      listFrom skip (a ++ '\x7b' :: rest) = listFrom skip a ++ listFrom 0 ('\x7b' :: rest) := by
  intro a
  induction a with
  | nil =>
    intro skip few ends
    obtain rfl : skip = 0 := Nat.le_zero.mp few
    rfl
  | cons c a ih =>
    intro skip few ends
    have ends' : a.getLast? ≠ some '\x7b' := by
      cases a with
      | nil => simp
      | cons d a => rwa [List.getLast?_cons_cons] at ends
    cases skip with
    | succ skip => exact ih (Nat.le_of_succ_le_succ few) ends'
    | zero =>
      have same := markerAt?_append_brace (List.cons_ne_nil c a) ends rest
      rw [List.cons_append] at same
      rw [List.cons_append, listFrom, same, listFrom]
      cases found : markerAt? (c :: a) with
      | none =>
        simp only [ih (Nat.zero_le _) ends', List.cons_append]
      | some p =>
        obtain ⟨path, length⟩ := p
        have long : length - 1 ≤ a.length := by
          have := length_le_of_markerAt? found
          rw [List.length_cons] at this
          omega
        simp only [ih long ends', List.cons_append]

/-- Characters that belong to a marker before are no pieces. -/
theorem listFrom_length_append (b : List Char) :
    ∀ cs : List Char, listFrom cs.length (cs ++ b) = listFrom 0 b
  | [] => rfl
  | _ :: cs => listFrom_length_append b cs

/-- A text that starts with a marker has it for its first piece. -/
theorem listFrom_of_marker {c : Char} {u path : List Char} (b : List Char)
    (marked : markerAt? (c :: u ++ b) = some (path, u.length + 1)) :
    listFrom 0 (c :: u ++ b) = .variable path :: listFrom 0 b := by
  rw [List.cons_append] at marked ⊢
  rw [listFrom, marked]
  exact congrArg _ (listFrom_length_append b u)

/-- A path between two braces on either side. -/
def braced (path : List Char) : List Char :=
  '\x7b' :: '\x7b' :: (path ++ ['\x7d', '\x7d'])

/-- A path between three braces on either side. -/
def tripleBraced (path : List Char) : List Char :=
  '\x7b' :: '\x7b' :: '\x7b' :: (path ++ ['\x7d', '\x7d', '\x7d'])

section Braced

variable {path : List Char} (inner : ∀ c ∈ path, isInner c)
include inner

theorem pathBefore_closed (close b : List Char) (braces : Nat) :
    pathBefore ('\x7d' :: close) braces (path ++ ('\x7d' :: close ++ b)) =
      some (Text.trimBoth Text.isBlank path, path.length + braces) := by
  have stop : isInner '\x7d' = false := by decide
  have taken : (path ++ ('\x7d' :: close ++ b)).takeWhile isInner = path := by
    rw [List.cons_append, takeWhile_append_cons stop, List.takeWhile_eq_self_iff.mpr inner]
  have dropped : (path ++ ('\x7d' :: close ++ b)).dropWhile isInner = '\x7d' :: close ++ b := by
    rw [List.cons_append, dropWhile_append_cons stop, List.dropWhile_eq_nil_iff.mpr inner,
      List.nil_append]
  rw [pathBefore, taken, dropped, if_pos (List.prefix_append _ _)]

/-- A path between braces is one piece. -/
theorem listFrom_braced (b : List Char) :
    listFrom 0 (braced path ++ b) =
      .variable (Text.trimBoth Text.isBlank path) :: listFrom 0 b := by
  have other : (path ++ (['\x7d', '\x7d'] ++ b)).head? ≠ some '\x7b' := by
    cases path with
    | nil => simp
    | cons c path =>
      have := inner c List.mem_cons_self
      rintro ⟨⟩
      cases this
  have marked := markerAt?_two other
  rw [pathBefore_closed inner] at marked
  refine listFrom_of_marker b ?_
  simpa using marked

theorem listFrom_tripleBraced (b : List Char) :
    listFrom 0 (tripleBraced path ++ b) =
      .variable (Text.trimBoth Text.isBlank path) :: listFrom 0 b := by
  have marked := markerAt?_three (path ++ (['\x7d', '\x7d', '\x7d'] ++ b))
  rw [pathBefore_closed inner] at marked
  refine listFrom_of_marker b ?_
  simpa using marked

end Braced

/-- A text without two braces next to each other has no markers. -/
theorem ofText_of_single {cs : List Char} (single : ¬ ['\x7b', '\x7b'] <:+: cs) :
    ofText cs = cs.map .char := by
  induction cs with
  | nil => rfl
  | cons c cs ih =>
    have none : markerAt? (c :: cs) = none := markerAt?_other fun two => single two.isInfix
    have rest := ih fun two => single (two.trans (List.suffix_cons c cs).isInfix)
    rw [ofText] at rest ⊢
    rw [listFrom, none, List.map_cons, ← rest]

end Piece

/-! ## Texts next to each other -/

theorem renderPieces_append (vars : Entries) (ps qs : List Piece) :
    renderPieces vars (ps ++ qs) = (do
      let x ← renderPieces vars ps
      let y ← renderPieces vars qs
      return x ++ y) := by
  induction ps with
  | nil =>
    rw [List.nil_append, renderPieces]
    cases renderPieces vars qs <;> rfl
  | cons p ps ih =>
    cases p with
    | char c =>
      rw [List.cons_append, renderPieces, renderPieces, ih]
      cases renderPieces vars ps <;> cases renderPieces vars qs <;> rfl
    | «variable» path =>
      rw [List.cons_append, renderPieces, renderPieces, ih]
      cases textOf (lookup vars path) <;> cases renderPieces vars ps <;>
        cases renderPieces vars qs <;>
        simp [bind, Except.bind, pure, Except.pure]

theorem renderPieces_chars (vars : Entries) (cs : List Char) :
    renderPieces vars (cs.map .char) = .ok cs := by
  induction cs with
  | nil => rfl
  | cons c cs ih =>
    rw [List.map_cons, renderPieces, ih]
    rfl

open Piece

/-- What a text shows with a marker in it is what is in front of the marker, what the path of the
    marker addresses, and what is behind it, each as it is shown alone. It is the same with three
    braces as with two. A text without two braces next to each other is shown as it stands. -/
theorem interpolate_append (vars : Entries) :
    (∀ a path b : List Char, a.getLast? ≠ some '\x7b' → (∀ c ∈ path, isInner c) →
      ∃ shown, Path.Shows vars path shown ∧
        ∀ marker ∈ [braced path, tripleBraced path],
          interpolate vars (a ++ (marker ++ b)) = (do
            let x ← interpolate vars a
            let s ← shown
            let y ← interpolate vars b
            return x ++ (s ++ y))) ∧
    ∀ cs : List Char, ¬ ['\x7b', '\x7b'] <:+: cs → interpolate vars cs = .ok cs := by
  constructor
  · intro a path b ends inner
    refine ⟨_, Path.shows_lookup vars path, ?_⟩
    have shown {marker : List Char} (opens : ∃ rest, marker = '\x7b' :: rest)
        (one : listFrom 0 (marker ++ b) =
          .variable (Text.trimBoth Text.isBlank path) :: listFrom 0 b) :
        interpolate vars (a ++ (marker ++ b)) = (do
          let x ← interpolate vars a
          let s ← (textOf (lookup vars (Text.trimBoth Text.isBlank path))).map String.toList
          let y ← interpolate vars b
          return x ++ (s ++ y)) := by
      obtain ⟨rest, rfl⟩ := opens
      rw [interpolate, ofText, List.cons_append, listFrom_append_brace _ (Nat.zero_le _) ends,
        ← List.cons_append, one, renderPieces_append, renderPieces]
      simp only [interpolate, ofText]
      cases renderPieces vars (listFrom 0 a) <;>
        cases textOf (lookup vars (Text.trimBoth Text.isBlank path)) <;>
        cases renderPieces vars (listFrom 0 b) <;> rfl
    intro marker among
    rcases List.mem_pair.mp among with rfl | rfl
    · exact shown ⟨_, rfl⟩ (listFrom_braced inner b)
    · exact shown ⟨_, rfl⟩ (listFrom_tripleBraced inner b)
  · intro cs single
    rw [interpolate, ofText_of_single single, renderPieces_chars]

/-- Braces that are open in front of a marker do not close behind it. -/
theorem interpolate_append_of_open :
    let vars : Entries := [(.text "x", .text "1")]
    (∀ marker ∈ [braced " x\n".toList, tripleBraced " x\n".toList],
      (interpolate vars ("\x7b\x7b x ".toList ++ (marker ++ "\x7d\x7d".toList))).toOption =
        some "\x7b\x7b x 1\x7d\x7d".toList) ∧
    interpolate vars "\x7b x \x7d\x7d".toList = .ok "\x7b x \x7d\x7d".toList := by
  intro vars
  obtain ⟨together, alone⟩ := interpolate_append vars
  constructor
  · obtain ⟨shown, shows, whole⟩ := together "\x7b\x7b x ".toList " x\n".toList "\x7d\x7d".toList
      (by decide) (List.all_eq_true.mp (by decide))
    have addressed : Path.Addresses vars " x\n".toList (.text "1") :=
      ⟨[['x']], by decide, by decide, .key (Entries.get?_single "x" "x" _) (.here _)⟩
    intro marker among
    rw [whole marker among, shows.addressed _ addressed]
    decide +kernel
  · exact alone _ (by decide)

end Template

end SessionScript
