import SessionScript.Proofs.Json.RoundTrip
import SessionScript.Proofs.Text.Digits
import SessionScript.Proofs.Text.Lines
import SessionScript.Proofs.Yaml.Writing

/-!
# Lines of documents

A document is written in lines that end with ink: a new line is started behind a mark, behind a word
or behind the backslash of a folded text, but never behind a space or at the start of a line. So it
has no blank lines. The exception are texts of several lines in single quotes, of which each line
break is written twice.
-/

namespace SessionScript.Yaml

open Text (ended)

/-! ## Characters -/

/-- Whether a character is printed as it is: a space or ink. -/
def isPrinted (c : Char) : Bool := 0x20 ≤ c.val.toNat && c.val.toNat ≤ 0x7E

/-- Whether a character is visible and within ASCII. -/
def isInk (c : Char) : Bool := 0x21 ≤ c.val.toNat && c.val.toNat ≤ 0x7E

theorem isPrinted_of_isInk {c : Char} (ink : isInk c) : isPrinted c := by
  simp only [isInk, isPrinted, Bool.and_eq_true, decide_eq_true_eq] at ink ⊢
  omega

theorem isInk_of_isPrinted {c : Char} (printed : isPrinted c) (other : c ≠ ' ') : isInk c := by
  have differs : c.val.toNat ≠ 0x20 := by
    intro same
    exact other (Char.ext (UInt32.toNat_inj.mp same))
  simp only [isInk, isPrinted, Bool.and_eq_true, decide_eq_true_eq] at printed ⊢
  omega

theorem isBreak_of_isPrinted {c : Char} (printed : isPrinted c) : isBreak c = false := by
  have other : c ≠ '\n' := by
    rintro rfl
    cases printed
  simp only [isPrinted, Bool.and_eq_true, decide_eq_true_eq] at printed
  simp only [isBreak, Bool.or_eq_false_iff, beq_eq_false_iff_ne]
  refine ⟨⟨⟨other, ?_⟩, ?_⟩, ?_⟩ <;> omega

theorem isLineEnd_of_isPrinted {c : Char} (printed : isPrinted c) : Text.isLineEnd c = false := by
  simp only [isPrinted, Bool.and_eq_true, decide_eq_true_eq] at printed
  simp only [Text.isLineEnd, Bool.or_eq_false_iff, Bool.and_eq_false_iff, decide_eq_false_iff_not,
    beq_eq_false_iff_ne]
  omega

theorem isBlank_of_isInk {c : Char} (ink : isInk c) : Text.isBlank c = false := by
  simp only [isInk, Bool.and_eq_true, decide_eq_true_eq] at ink
  simp only [Text.isBlank, Bool.or_eq_false_iff, Bool.and_eq_false_iff, decide_eq_false_iff_not,
    beq_eq_false_iff_ne]
  omega

/-- Characters of one line. -/
def ArePrinted (cs : List Char) : Prop := ∀ c ∈ cs, isPrinted c

/-- Characters of which the last one is visible. -/
def EndsInk (cs : List Char) : Prop := ∃ front c, cs = front ++ [c] ∧ isInk c

theorem ArePrinted.append {cs ds : List Char} (first : ArePrinted cs) (second : ArePrinted ds) :
    ArePrinted (cs ++ ds) := by
  intro c among
  rcases List.mem_append.mp among with before | behind
  · exact first c before
  · exact second c behind

theorem EndsInk.append {ds : List Char} (ends : EndsInk ds) (cs : List Char) :
    EndsInk (cs ++ ds) := by
  obtain ⟨front, c, rfl, ink⟩ := ends
  exact ⟨cs ++ front, c, (List.append_assoc _ _ _).symm, ink⟩

/-- A printed line that ends with ink is not blank. -/
theorem isInked_of_endsInk {cs : List Char} (printed : ArePrinted cs) (ends : EndsInk cs) :
    Text.IsInked cs := by
  obtain ⟨front, c, rfl, ink⟩ := ends
  refine ⟨fun d among => isLineEnd_of_isPrinted (printed d among), c, ?_, isBlank_of_isInk ink⟩
  exact List.mem_append_right _ List.mem_cons_self

/-! ## Canvases -/

namespace Canvas

theorem text_put (c : Canvas) (cs : List Char) : (c.put cs).text = c.text ++ cs := by
  rw [text, text, put, List.reverse_append, List.reverse_reverse]

theorem text_lineBreak (c : Canvas) : c.lineBreak.text = c.text ++ ['\n'] := List.reverse_cons

theorem text_close (c : Canvas) (s : String) : (c.close s).text = c.text ++ s.toList := c.text_put _

/-- A canvas holds lines that end with ink and below them the line at hand. -/
structure Holds (c : Canvas) (done : List (List Char)) (line : List Char) : Prop where
  text : c.text = ended done ++ line
  done : ∀ l ∈ done, ArePrinted l ∧ EndsInk l
  line : ArePrinted line
  closed : c.openEnded = false

/-- The lines above the one at hand end with ink, and if it is asked for, so does that one. -/
def IsRuled (inked : Bool) (c : Canvas) : Prop :=
  ∃ done line, c.Holds done line ∧ (inked = true → EndsInk line)

variable {c : Canvas} {inked : Bool}

theorem IsRuled.loose (ruled : c.IsRuled inked) : c.IsRuled false := by
  obtain ⟨done, line, holds, -⟩ := ruled
  exact ⟨done, line, holds, nofun⟩

theorem IsRuled.weaken (ruled : c.IsRuled true) (inked : Bool) : c.IsRuled inked := by
  obtain ⟨done, line, holds, ends⟩ := ruled
  exact ⟨done, line, holds, fun _ => ends rfl⟩

/-- What the next piece has to know about the line makes no difference. -/
theorem IsRuled.same {d : Canvas} (ruled : c.IsRuled inked) (written : d.written = c.written)
    (openEnded : d.openEnded = c.openEnded) : d.IsRuled inked := by
  obtain ⟨done, line, ⟨text, lines, printed, closed⟩, ends⟩ := ruled
  refine ⟨done, line, ⟨?_, lines, printed, openEnded.trans closed⟩, ends⟩
  rw [Canvas.text, written]
  exact text

theorem Holds.put {done : List (List Char)} {line cs : List Char} (holds : c.Holds done line)
    (printed : ArePrinted cs) : (c.put cs).Holds done (line ++ cs) := by
  refine ⟨?_, holds.done, holds.line.append printed, holds.closed⟩
  rw [text_put, holds.text, List.append_assoc]

theorem IsRuled.put {cs : List Char} (ruled : c.IsRuled inked) (printed : ArePrinted cs) :
    (c.put cs).IsRuled false := by
  obtain ⟨done, line, holds, -⟩ := ruled
  exact ⟨done, line ++ cs, holds.put printed, nofun⟩

theorem IsRuled.put_ink {cs : List Char} (ruled : c.IsRuled inked) (printed : ArePrinted cs)
    (ends : EndsInk cs) : (c.put cs).IsRuled true := by
  obtain ⟨done, line, holds, -⟩ := ruled
  exact ⟨done, line ++ cs, holds.put printed, fun _ => ends.append line⟩

/-- A line that ends with ink may be ended. -/
theorem IsRuled.lineBreak (ruled : c.IsRuled true) : c.lineBreak.IsRuled false := by
  obtain ⟨done, line, holds, ends⟩ := ruled
  refine ⟨done ++ [line], [], ⟨?_, ?_, List.forall_mem_nil _, holds.closed⟩, nofun⟩
  · rw [text_lineBreak, holds.text, Text.ended_append_singleton, List.append_nil,
      List.append_assoc]
  · intro l among
    rcases List.mem_append.mp among with before | here
    · exact holds.done l before
    · rw [List.mem_singleton.mp here]
      exact ⟨holds.line, ends rfl⟩

theorem arePrinted_replicate (n : Nat) : ArePrinted (List.replicate n ' ') := by
  intro d among
  rw [List.eq_of_mem_replicate among]
  decide

/-- Where the line at hand ends with ink, a new one can be gone to. -/
theorem IsRuled.indentTo (ruled : c.IsRuled true) (depth : Nat) :
    (c.indentTo depth).IsRuled false := by
  have padded {d : Canvas} (ruled : d.IsRuled false) :
      (if d.column < depth then
        { d.put (List.replicate (depth - d.column) ' ') with spaced := true } else d).IsRuled
          false := by
    split
    · exact (ruled.put (arePrinted_replicate _)).same rfl rfl
    · exact ruled
  rw [Canvas.indentTo]
  split
  · exact padded ruled.lineBreak
  · exact padded ruled.loose

/-- A mark is ink. -/
theorem IsRuled.mark (ruled : c.IsRuled inked) {s : String} (printed : ArePrinted s.toList)
    (ends : EndsInk s.toList) (spacedAfter keepsFresh : Bool) :
    (c.mark s spacedAfter keepsFresh).IsRuled true := by
  have space : ArePrinted [' '] := List.forall_mem_singleton.mpr (by decide)
  have written : (c.put (if c.spaced then s.toList else ' ' :: s.toList)).IsRuled true := by
    split
    · exact ruled.put_ink printed ends
    · exact ruled.put_ink (space.append printed) (ends.append [' '])
  obtain ⟨done, line, holds, inked⟩ := written
  exact ⟨done, line, ⟨holds.text, holds.done, holds.line, rfl⟩, inked⟩

theorem IsRuled.close (ruled : c.IsRuled inked) {s : String} (printed : ArePrinted s.toList)
    (ends : EndsInk s.toList) : (c.close s).IsRuled true := by
  obtain ⟨done, line, holds, inked⟩ := ruled.put_ink printed ends
  exact ⟨done, line, ⟨holds.text, holds.done, holds.line, rfl⟩, inked⟩

end Canvas

/-! ## Words and gaps -/

/-- Runs of a text: words of ink and gaps of spaces, of which no two stand next to each other. A gap
    may come first if it is behind ink. What is behind the runs is told likewise. -/
inductive Alternate : Bool → List (List Char) → Bool → Prop where
  | none (inked : Bool) : Alternate inked [] inked
  | word {inked last : Bool} {c : Char} {run : List Char} {rest : List (List Char)}
    (ink : ∀ d ∈ c :: run, isInk d) (others : Alternate true rest last) :
    Alternate inked ((c :: run) :: rest) last
  | gap {last : Bool} {c : Char} {run : List Char} {rest : List (List Char)}
    (space : ∀ d ∈ c :: run, d = ' ') (others : Alternate false rest last) :
    Alternate true ((c :: run) :: rest) last

theorem runs_ne_nil (p : Char → Bool) (c : Char) (cs : List Char) : runs p (c :: cs) ≠ [] := by
  rw [runs]
  split
  · split <;> exact List.cons_ne_nil _ _
  · exact List.cons_ne_nil _ _

/-- The runs of a printed text are words and gaps. The text may start with a space if it is behind
    ink, and what is behind it is told by its last character. -/
theorem runs_alternate {cs : List Char} (printed : ArePrinted cs) :
    ∀ inked : Bool, (cs.head? = some ' ' → inked = true) →
      ∃ last, Alternate inked (runs (· == ' ') cs) last ∧
        ∀ d, cs.getLast? = some d → d ≠ ' ' → last = true := by
  induction cs with
  | nil => exact fun inked _ => ⟨inked, .none inked, nofun⟩
  | cons c cs ih =>
    intro inked start
    obtain ⟨first, others⟩ := List.forall_mem_cons.mp printed
    have single {last : Bool} {rs : List (List Char)}
        (behind : Alternate (c != ' ') rs last) : Alternate inked ([c] :: rs) last := by
      by_cases space : c = ' '
      · rw [start (by rw [space]; rfl)]
        rw [space] at behind
        exact .gap (List.forall_mem_singleton.mpr space) behind
      · have ink : isInk c := isInk_of_isPrinted first space
        rw [bne_iff_ne.mpr space] at behind
        exact .word (List.forall_mem_singleton.mpr ink) behind
    cases cs with
    | nil =>
      refine ⟨c != ' ', single (.none _), fun d known other => ?_⟩
      cases known
      exact bne_iff_ne.mpr other
    | cons e es =>
      obtain ⟨last, alternate, ends⟩ := ih others true fun _ => rfl
      refine ⟨last, ?_, fun d known => ends d (by rwa [List.getLast?_cons_cons] at known)⟩
      rw [runs]
      have some := runs_ne_nil (· == ' ') e es
      generalize runs (· == ' ') (e :: es) = rs at alternate some
      -- The character goes on with the run behind it, or it is a run of its own.
      cases alternate with
      | none => exact absurd rfl some
      | @word _ _ d run rest ink behind =>
        have other : d ≠ ' ' := by
          rintro rfl
          cases ink _ List.mem_cons_self
        by_cases space : c = ' '
        · have differs : ((c == ' ') == (d == ' ')) = false := by simp [space, other]
          simp only [differs, if_neg Bool.false_ne_true]
          refine single ?_
          rw [space]
          exact .word ink behind
        · have same : ((c == ' ') == (d == ' ')) = true := by simp [space, other]
          simp only [same, if_true]
          exact .word (List.forall_mem_cons.mpr ⟨isInk_of_isPrinted first space, ink⟩) behind
      | @gap _ d run rest space behind =>
        have blank : d = ' ' := space d List.mem_cons_self
        by_cases here : c = ' '
        · have same : ((c == ' ') == (d == ' ')) = true := by simp [here, blank]
          simp only [same, if_true]
          rw [start (by rw [here]; rfl)]
          exact .gap (List.forall_mem_cons.mpr ⟨here, space⟩) behind
        · have differs : ((c == ' ') == (d == ' ')) = false := by simp [here, blank]
          simp only [differs, if_neg Bool.false_ne_true]
          refine single ?_
          rw [bne_iff_ne.mpr here]
          exact .gap space behind

theorem arePrinted_of_ink {cs : List Char} (ink : ∀ d ∈ cs, isInk d) : ArePrinted cs :=
  fun d among => isPrinted_of_isInk (ink d among)

theorem arePrinted_of_space {cs : List Char} (space : ∀ d ∈ cs, d = ' ') : ArePrinted cs := by
  intro d among
  rw [space d among]
  decide

theorem beq_space_of_ink {cs : List Char} (ink : ∀ d ∈ cs, isInk d) : (cs == [' ']) = false := by
  rw [beq_eq_false_iff_ne]
  rintro rfl
  exact absurd (ink ' ' List.mem_cons_self) (by decide)

theorem endsInk_of_ink {c : Char} {cs : List Char} (ink : ∀ d ∈ c :: cs, isInk d) :
    EndsInk (c :: cs) := by
  refine ⟨(c :: cs).dropLast, (c :: cs).getLast (List.cons_ne_nil c cs),
    (List.dropLast_append_getLast _).symm, ?_⟩
  exact ink _ (List.getLast_mem _)

/-! ## Scalars -/

/-- A plain scalar is folded at a gap, and there is ink in front of it. -/
theorem plainRuns_ruled {inked last : Bool} {rs : List (List Char)}
    (alternate : Alternate inked rs last) (depth : Nat) (splits : Bool) :
    ∀ {c : Canvas}, c.IsRuled inked → (plainRuns depth splits rs c).IsRuled last := by
  induction alternate with
  | none inked => exact id
  | @word inked last d run rest ink _ ih =>
    intro c ruled
    rw [plainRuns, beq_space_of_ink ink, Bool.false_and, Bool.false_and, if_neg Bool.false_ne_true]
    exact ih (ruled.put_ink (arePrinted_of_ink ink) (endsInk_of_ink ink))
  | gap space _ ih =>
    intro c ruled
    rw [plainRuns]
    split
    · exact ih ((ruled.indentTo depth).same rfl rfl)
    · exact ih (ruled.put (arePrinted_of_space space))

theorem writePlain_ruled {cs : List Char} (printed : ArePrinted cs) (nonempty : cs ≠ [])
    (front : cs.head? ≠ some ' ') (back : cs.getLast? ≠ some ' ') (depth : Nat) (splits : Bool)
    {c : Canvas} {inked : Bool} (ruled : c.IsRuled inked) :
    (writePlain depth splits false cs c).IsRuled true := by
  obtain ⟨last, alternate, ends⟩ := runs_alternate printed false fun start => absurd start front
  have inked : last = true := by
    have known := List.getLast?_eq_some_getLast nonempty
    exact ends _ known fun space => back (by rw [known, space])
  have empty : ¬ cs.isEmpty := by simpa using nonempty
  rw [writePlain, if_neg empty]
  rw [inked] at alternate
  refine plainRuns_ruled alternate depth splits ?_
  have closed : (c.openEnded || false) = c.openEnded := Bool.or_false _
  by_cases spaced : c.spaced
  · rw [if_pos spaced]
    exact ruled.loose.same rfl closed
  · rw [if_neg spaced]
    have space : ArePrinted [' '] := List.forall_mem_singleton.mpr (by decide)
    exact (ruled.put space).same rfl closed

theorem doubleQuotes_printed {cs : List Char} (printed : ArePrinted cs) :
    ArePrinted (doubleQuotes cs) := by
  intro d among
  obtain ⟨c, inside, here⟩ := List.mem_flatMap.mp among
  split at here
  · have quote : ArePrinted ['\'', '\''] := List.all_eq_true.mp (by decide)
    exact quote d here
  · rw [List.mem_singleton.mp here]
    exact printed c inside

theorem doubleQuotes_endsInk {cs : List Char} (ends : EndsInk cs) : EndsInk (doubleQuotes cs) := by
  obtain ⟨front, c, rfl, ink⟩ := ends
  rw [doubleQuotes, List.flatMap_append, List.flatMap_singleton]
  split
  · exact EndsInk.append ⟨['\''], '\'', rfl, by decide⟩ _
  · exact EndsInk.append ⟨[], c, rfl, ink⟩ _

/-- A text in single quotes on one line has the same runs as a plain one. -/
theorem quotedRuns_eq_runs {cs : List Char} (printed : ArePrinted cs) :
    quotedRuns cs = runs (· == ' ') cs := by
  induction cs with
  | nil => rfl
  | cons c cs ih =>
    obtain ⟨first, others⟩ := List.forall_mem_cons.mp printed
    obtain ⟨last, alternate, -⟩ := runs_alternate others true fun _ => rfl
    have kind {d : Char} (printed : isPrinted d) :
        (if d == ' ' then 0 else if isBreak d then 1 else 2) = if d == ' ' then 0 else 2 := by
      rw [isBreak_of_isPrinted printed]
      rfl
    rw [quotedRuns, ih others, runs]
    generalize runs (· == ' ') cs = rs at alternate
    cases alternate with
    | none => rfl
    | @word _ _ d run rest ink _ =>
      have inked := isPrinted_of_isInk (ink d List.mem_cons_self)
      simp only [kind first, kind inked]
      cases c == ' ' <;> cases d == ' ' <;> rfl
    | @gap _ d run rest space _ =>
      have blank := arePrinted_of_space space d List.mem_cons_self
      simp only [kind first, kind blank]
      cases c == ' ' <;> cases d == ' ' <;> rfl

/-- A text in single quotes is folded at a gap, and there is ink in front of it. -/
theorem singleRuns_ruled {inked last : Bool} {rs : List (List Char)}
    (alternate : Alternate inked rs last) (depth : Nat) (splits : Bool) :
    ∀ {first : Bool} {c : Canvas}, c.IsRuled inked →
      (singleRuns depth splits first rs c).IsRuled last := by
  have unbroken {cs : List Char} (printed : ArePrinted cs) : ¬ cs.any isBreak := by
    rw [List.any_eq_true]
    rintro ⟨d, among, breaks⟩
    rw [isBreak_of_isPrinted (printed d among)] at breaks
    cases breaks
  induction alternate with
  | none inked => exact id
  | @word inked last d run rest ink _ ih =>
    intro first c ruled
    rw [singleRuns, beq_space_of_ink ink, Bool.false_and, Bool.false_and, Bool.false_and,
      Bool.false_and, if_neg Bool.false_ne_true, if_neg (unbroken (arePrinted_of_ink ink))]
    exact ih (ruled.put_ink (doubleQuotes_printed (arePrinted_of_ink ink))
      (doubleQuotes_endsInk (endsInk_of_ink ink)))
  | gap space _ ih =>
    intro first c ruled
    rw [singleRuns, if_neg (unbroken (arePrinted_of_space space))]
    refine ih ?_
    split
    · exact ruled.indentTo depth
    · exact ruled.put (doubleQuotes_printed (arePrinted_of_space space))

theorem writeSingle_ruled {cs : List Char} (printed : ArePrinted cs) (depth : Nat) (splits : Bool)
    {c : Canvas} {inked : Bool} (ruled : c.IsRuled inked) :
    (writeSingle depth splits cs c).IsRuled true := by
  have quote : ArePrinted "'".toList ∧ EndsInk "'".toList :=
    ⟨List.all_eq_true.mp (by decide), [], '\'', rfl, by decide⟩
  obtain ⟨last, alternate, -⟩ := runs_alternate printed true fun _ => rfl
  have opened := ruled.mark quote.1 quote.2 false false
  rw [writeSingle, quotedRuns_eq_runs printed]
  exact (singleRuns_ruled alternate depth splits opened).close quote.1 quote.2

/-- Escapes are printed. -/
theorem escape_printed (c : Char) : ArePrinted (escape c) := by
  have backslash : isPrinted '\\' := by decide
  have hex (width n : Nat) : ArePrinted (upperHex width n) := by
    intro d among
    obtain ⟨e, digit, rfl⟩ := List.mem_map.mp among
    obtain ⟨k, small, rfl⟩ := Text.mem_hexPad digit
    have each : ∀ k < 16, isPrinted (Text.digitChar k).toUpper := by decide
    exact each k small
  rw [escape]
  split
  · rename_i l letter
    have printed : isPrinted l := by
      rw [escapeLetter?] at letter
      split at letter <;> cases letter <;> decide
    exact List.forall_mem_cons.mpr ⟨backslash, List.forall_mem_singleton.mpr printed⟩
  · have after (d : Char) (printed : isPrinted d) (width n : Nat) :
        ArePrinted ('\\' :: d :: upperHex width n) :=
      List.forall_mem_cons.mpr ⟨backslash, List.forall_mem_cons.mpr ⟨printed, hex width n⟩⟩
    dsimp only
    split
    · exact after 'x' (by decide) 2 _
    · split
      · exact after 'u' (by decide) 4 _
      · exact after 'U' (by decide) 8 _

/-- A text in double quotes is folded behind a backslash. -/
theorem doubleChars_ruled (depth : Nat) (splits : Bool) {cs : List Char} :
    ∀ {index : Nat} {held : List Char} {c : Canvas}, ArePrinted held → c.IsRuled false →
      (doubleChars depth splits index held cs c).IsRuled false := by
  have backslash : ArePrinted ['\\'] ∧ EndsInk ['\\'] :=
    ⟨List.all_eq_true.mp (by decide), [], '\\', rfl, by decide⟩
  have reversed {cs : List Char} (printed : ArePrinted cs) : ArePrinted cs.reverse :=
    fun d among => printed d (List.mem_reverse.mp among)
  induction cs with
  | nil =>
    intro index held c printed ruled
    rw [doubleChars]
    exact ruled.put (reversed printed)
  | cons d cs ih =>
    intro index held c printed ruled
    -- What is held back until the next fold is printed, and so is what is written by now.
    have step (escapes : Bool) (kept : ArePrinted (if escapes then [] else [d]))
        (pending : List Char) (printed : ArePrinted pending) {v : Canvas} (ruled : v.IsRuled false)
        (longer : ArePrinted (if escapes then [] else d :: held)) (folds : Bool)
        (next : Option Char) :
        (if folds then
          let v := { (v.put (pending.reverse ++ ['\\'])).indentTo depth with
            spaced := false, fresh := false }
          let v := if next == some ' ' then v.put ['\\'] else v
          doubleChars depth splits (index + 1) (if escapes then [] else [d]) cs v
        else doubleChars depth splits (index + 1) (if escapes then [] else d :: held) cs
          v).IsRuled false := by
      split
      · have folded := (ruled.put_ink ((reversed printed).append backslash.1)
          (backslash.2.append _)).indentTo depth
        have reset : Canvas.IsRuled false
            { (v.put (pending.reverse ++ ['\\'])).indentTo depth with
              spaced := false, fresh := false } := folded.same rfl rfl
        refine ih kept ?_
        split
        · exact reset.put backslash.1
        · exact reset
      · exact ih longer ruled
    rw [doubleChars]
    cases escapes : d == '"' || d == '\\' || !(0x20 ≤ d.val.toNat && d.val.toNat ≤ 0x7E) with
    | true =>
      exact step true (List.forall_mem_nil _) [] (List.forall_mem_nil _)
        ((ruled.put (reversed printed)).put (escape_printed d)) (List.forall_mem_nil _) _ _
    | false =>
      have plain : isPrinted d := by
        rw [Bool.or_eq_false_iff, Bool.not_eq_false'] at escapes
        exact escapes.2
      exact step false (List.forall_mem_singleton.mpr plain) held printed ruled
        (List.forall_mem_cons.mpr ⟨plain, printed⟩) _ _

theorem writeDouble_ruled (cs : List Char) (depth : Nat) (splits : Bool) {c : Canvas}
    {inked : Bool} (ruled : c.IsRuled inked) : (writeDouble depth splits cs c).IsRuled true := by
  have quote : ArePrinted "\"".toList ∧ EndsInk "\"".toList :=
    ⟨List.all_eq_true.mp (by decide), [], '"', rfl, by decide⟩
  have opened := ruled.mark quote.1 quote.2 false false
  rw [writeDouble]
  exact (doubleChars_ruled depth splits (List.forall_mem_nil _) opened.loose).close quote.1 quote.2

/-! ## What is added

Writing only adds to a text, and a line break between single quotes adds two of them in a row. -/

namespace Canvas

variable {c d : Canvas}

theorem prefix_put (c : Canvas) (cs : List Char) : c.text <+: (c.put cs).text :=
  ⟨cs, (c.text_put cs).symm⟩

theorem prefix_lineBreak (c : Canvas) : c.text <+: c.lineBreak.text :=
  ⟨['\n'], (text_lineBreak c).symm⟩

theorem prefix_indentTo (c : Canvas) (depth : Nat) : c.text <+: (c.indentTo depth).text := by
  have padded (d : Canvas) : d.text <+: (if d.column < depth then
      { d.put (List.replicate (depth - d.column) ' ') with spaced := true } else d).text := by
    split
    · exact d.prefix_put _
    · exact List.prefix_rfl
  rw [indentTo]
  split
  · exact c.prefix_lineBreak.trans (padded _)
  · exact padded c

theorem prefix_mark (c : Canvas) (s : String) (spacedAfter keepsFresh : Bool) :
    c.text <+: (c.mark s spacedAfter keepsFresh).text := c.prefix_put _

theorem prefix_close (c : Canvas) (s : String) : c.text <+: (c.close s).text := c.prefix_put _

/-- Two line breaks stand next to each other, and behind them something that is not blank. -/
def HasGap (c : Canvas) : Prop :=
  ∃ between e, Text.isBlank e = false ∧ '\n' :: '\n' :: (between ++ [e]) <:+: c.text

/-- A gap stays where it is. -/
theorem HasGap.mono (gap : c.HasGap) (grown : c.text <+: d.text) : d.HasGap := by
  obtain ⟨between, e, ink, inside⟩ := gap
  exact ⟨between, e, ink, inside.trans grown.isInfix⟩

end Canvas

theorem prefix_plainRuns (depth : Nat) (splits : Bool) (rs : List (List Char)) :
    ∀ c : Canvas, c.text <+: (plainRuns depth splits rs c).text := by
  induction rs with
  | nil => exact fun _ => List.prefix_rfl
  | cons run rs ih =>
    intro c
    rw [plainRuns]
    split
    · have folded := ih { c.indentTo depth with spaced := false, fresh := false }
      exact (c.prefix_indentTo depth).trans folded
    · exact (c.prefix_put run).trans (ih _)

theorem prefix_writePlain (depth : Nat) (splits atRoot : Bool) (cs : List Char) (c : Canvas) :
    c.text <+: (writePlain depth splits atRoot cs c).text := by
  rw [writePlain]
  split
  · exact List.prefix_rfl
  · refine List.IsPrefix.trans ?_ (prefix_plainRuns depth splits _ _)
    split
    · exact List.prefix_rfl
    · exact c.prefix_put [' ']

theorem prefix_breaks (run : List Char) :
    ∀ c : Canvas, c.text <+: (run.foldl (fun w _ => w.lineBreak) c).text := by
  induction run with
  | nil => exact fun _ => List.prefix_rfl
  | cons _ run ih => exact fun c => c.prefix_lineBreak.trans (ih _)

theorem prefix_singleRuns (depth : Nat) (splits : Bool) (rs : List (List Char)) :
    ∀ (first : Bool) (c : Canvas), c.text <+: (singleRuns depth splits first rs c).text := by
  induction rs with
  | nil => exact fun _ _ => List.prefix_rfl
  | cons run rs ih =>
    intro first c
    rw [singleRuns]
    refine List.IsPrefix.trans ?_ (ih false _)
    split
    · exact c.prefix_indentTo depth
    · split
      · exact (c.prefix_lineBreak.trans (prefix_breaks run _)).trans
          (Canvas.prefix_indentTo _ depth)
      · exact c.prefix_put _

theorem prefix_doubleChars (depth : Nat) (splits : Bool) (cs : List Char) :
    ∀ (index : Nat) (held : List Char) (c : Canvas),
      c.text <+: (doubleChars depth splits index held cs c).text := by
  induction cs with
  | nil => exact fun _ _ c => c.prefix_put _
  | cons d cs ih =>
    intro index held c
    -- A fold adds to what has been written with the character, and so does what is behind it.
    have step (folds : Bool) (v : Canvas) (pending short long : List Char) (next : Option Char)
        (grown : c.text <+: v.text) :
        c.text <+: (if folds then
          let v := { (v.put (pending.reverse ++ ['\\'])).indentTo depth with
            spaced := false, fresh := false }
          let v := if next == some ' ' then v.put ['\\'] else v
          doubleChars depth splits (index + 1) short cs v
        else doubleChars depth splits (index + 1) long cs v).text := by
      refine grown.trans ?_
      split
      · have folded := (v.prefix_put (pending.reverse ++ ['\\'])).trans
          (Canvas.prefix_indentTo _ depth)
        refine List.IsPrefix.trans ?_ (ih _ _ _)
        split
        · exact folded.trans (Canvas.prefix_put _ ['\\'])
        · exact folded
      · exact ih _ _ v
    rw [doubleChars]
    cases d == '"' || d == '\\' || !(0x20 ≤ d.val.toNat && d.val.toNat ≤ 0x7E) with
    | true => exact step _ _ _ _ _ _ ((c.prefix_put held.reverse).trans (Canvas.prefix_put _ _))
    | false => exact step _ _ _ _ _ _ List.prefix_rfl

/-- The runs of a text in quotes have its characters. -/
theorem flatten_quotedRuns (cs : List Char) : (quotedRuns cs).flatten = cs := by
  induction cs with
  | nil => rfl
  | cons c cs ih =>
    rw [quotedRuns]
    split
    · rename_i known
      rw [known] at ih
      split
      · simpa using ih
      · simpa using ih
    · rw [List.flatten_cons, ih]
      rfl

/-- Runs with a line break in them are written with two line breaks in a row. -/
theorem singleRuns_breaks {rs : List (List Char)} (breaks : ∃ run ∈ rs, run.any isBreak)
    (depth : Nat) (splits : Bool) :
    ∀ (first : Bool) (c : Canvas),
      ['\n', '\n'] <:+: (singleRuns depth splits first rs c).text := by
  induction rs with
  | nil => obtain ⟨_, none, _⟩ := breaks; cases none
  | cons run rs ih =>
    intro first c
    rw [singleRuns]
    obtain ⟨broken, among, breaks⟩ := breaks
    rcases List.mem_cons.mp among with rfl | later
    · have other : (broken == [' ']) = false := by
        rw [beq_eq_false_iff_ne]
        rintro rfl
        exact absurd breaks (by decide)
      refine List.IsInfix.trans ?_ (prefix_singleRuns depth splits rs false _).isInfix
      rw [other, Bool.false_and, Bool.false_and, Bool.false_and, Bool.false_and,
        if_neg Bool.false_ne_true, if_pos breaks]
      refine List.IsInfix.trans ?_ (Canvas.prefix_indentTo _ depth).isInfix
      -- The line is ended once more for each character of the run, of which there is one.
      obtain ⟨d, ds, rfl⟩ : ∃ d ds, broken = d :: ds := by
        refine List.exists_cons_of_ne_nil ?_
        rintro rfl
        cases breaks
      have twice : ['\n', '\n'] <:+: c.lineBreak.lineBreak.text := by
        rw [Canvas.text_lineBreak, Canvas.text_lineBreak, List.append_assoc]
        exact (List.suffix_append _ _).isInfix
      exact twice.trans (prefix_breaks ds _).isInfix
    · exact ih ⟨broken, later, breaks⟩ false _

end SessionScript.Yaml
