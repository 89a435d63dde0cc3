import Mathlib.Data.List.TakeWhile
import SessionScript.Proofs.Template.Progress

/-!
# Call sites

A call site is a call marker as it stands in a text. Around it there may be any other text, with
braces and markers of its own. The first marker of the whole text is then one that ends before the
site, or the site itself, or one that opens before the site and ends together with it: between the
braces of a site nothing can end or begin.
-/

namespace SessionScript.Template

/-! ## Characters up to one that stops them -/

section Stop

variable {p : Char → Bool} {c : Char} (stop : p c = false)
include stop

theorem takeWhile_append_cons (xs ys : List Char) :
    (xs ++ c :: ys).takeWhile p = xs.takeWhile p := by
  induction xs with
  | nil => simp [stop]
  | cons x xs ih => rw [List.cons_append, List.takeWhile_cons, List.takeWhile_cons, ih]

theorem dropWhile_append_cons (xs ys : List Char) :
    (xs ++ c :: ys).dropWhile p = xs.dropWhile p ++ c :: ys := by
  induction xs with
  | nil => simp [stop]
  | cons x xs ih =>
    rw [List.cons_append, List.dropWhile_cons, List.dropWhile_cons, ih]
    split <;> rfl

end Stop

theorem drop_length_takeWhile (p : Char → Bool) (cs : List Char) :
    cs.drop (cs.takeWhile p).length = cs.dropWhile p := by
  have parts : (cs.takeWhile p ++ cs.dropWhile p).drop (cs.takeWhile p).length = cs.dropWhile p :=
    List.drop_left
  rwa [List.takeWhile_append_dropWhile] at parts

/-! ## The ends of arguments -/

/-- A closing before a brace that opens is one of the text up to that brace. -/
theorem closing?_append_brace (u rest : List Char) :
    closing? (u ++ '\x7b' :: rest) = (closing? u).map (· ++ '\x7b' :: rest) := by
  have stop : Text.isBlank '\x7b' = false := by decide
  rw [closing?, closing?, dropWhile_append_cons stop]
  rcases u.dropWhile Text.isBlank with _ | ⟨c, _ | ⟨d, cs⟩⟩
  · rfl
  · by_cases close : c = '\x7d' <;> simp [close]
  · by_cases close : c = '\x7d'
    · by_cases again : d = '\x7d' <;> simp [close, again]
    · simp [close]

/-- The arguments of a call if some characters stand in front of them. -/
def ledBy (u : List Char) (ended : Option (List Char × List Char)) :
    Option (List Char × List Char) :=
  ended.map fun (args, after) => (u ++ args, after)

@[simp] theorem ledBy_none (u : List Char) : ledBy u none = none := rfl

@[simp] theorem ledBy_some (u args after : List Char) :
    ledBy u (some (args, after)) = some (u ++ args, after) := rfl

theorem ledBy_ledBy (u v : List Char) (ended : Option (List Char × List Char)) :
    ledBy u (ledBy v ended) = ledBy (u ++ v) ended := by
  rcases ended with _ | ⟨args, after⟩
  · rfl
  · simp

/-- Arguments go on with every character but a closing bracket, unless it ends the line. -/
theorem argumentsEnd?_cons {c : Char} (cs : List Char) (other : c ≠ ')') :
    argumentsEnd? (c :: cs) = if c = '\n' then none else ledBy [c] (argumentsEnd? cs) := by
  rw [argumentsEnd?]
  · by_cases line : c = '\n' <;> simp [line, ledBy]
  · exact other

/-- Arguments go on behind a closing bracket if no closing braces follow it. -/
theorem argumentsEnd?_bracket (cs : List Char) :
    argumentsEnd? (')' :: cs) =
      match closing? cs with
      | some after => some ([')'], after)
      | none => ledBy [')'] (argumentsEnd? cs) := rfl

/-- Arguments end before a brace that opens, or they go on behind it unless the line ends. -/
theorem argumentsEnd?_append_brace (u rest : List Char) :
    argumentsEnd? (u ++ '\x7b' :: rest) =
      match argumentsEnd? u with
      | some (args, after) => some (args, after ++ '\x7b' :: rest)
      | none => if '\n' ∈ u then none else ledBy u (argumentsEnd? ('\x7b' :: rest)) := by
  induction u with
  | nil =>
    have unled : ledBy [] (argumentsEnd? ('\x7b' :: rest)) = argumentsEnd? ('\x7b' :: rest) := by
      rcases argumentsEnd? ('\x7b' :: rest) with _ | p <;> rfl
    exact unled.symm
  | cons c u ih =>
    by_cases bracket : c = ')'
    · subst bracket
      rw [List.cons_append, argumentsEnd?_bracket, argumentsEnd?_bracket, closing?_append_brace]
      cases closing? u with
      | some after => rfl
      | none =>
        simp only [Option.map_none, ih]
        cases argumentsEnd? u with
        | some p => rfl
        | none => by_cases line : '\n' ∈ u <;> simp [line, ledBy_ledBy]
    · rw [List.cons_append, argumentsEnd?_cons _ bracket, argumentsEnd?_cons _ bracket, ih]
      by_cases line : c = '\n'
      · simp [line]
      · rw [if_neg line, if_neg line]
        cases argumentsEnd? u with
        | some p => rfl
        | none => by_cases later : '\n' ∈ u <;> simp [later, ledBy_ledBy, Ne.symm line]

theorem closing?_blanks {trail : List Char} (blank : ∀ c ∈ trail, Text.isBlank c)
    (rest : List Char) : closing? (trail ++ '\x7d' :: '\x7d' :: rest) = some rest := by
  have stop : Text.isBlank '\x7d' = false := by decide
  rw [closing?, List.dropWhile_append_of_pos blank, List.dropWhile_cons_of_neg (by simp [stop])]
  rfl

/-- No closing stands before a bracket that no closing brace precedes. -/
theorem closing?_append_bracket {u : List Char} (inner : '\x7d' ∉ u) (rest : List Char) :
    closing? (u ++ ')' :: rest) = none := by
  have stop : Text.isBlank ')' = false := by decide
  rw [closing?, dropWhile_append_cons stop]
  cases left : u.dropWhile Text.isBlank with
  | nil => rfl
  | cons c cs =>
    have among : c ∈ u := (List.dropWhile_sublist _).subset (left ▸ List.mem_cons_self)
    have other : c ≠ '\x7d' := fun same => inner (same ▸ among)
    simp [other]

/-- Without closing braces in them, arguments end at the last bracket if they are on one line. -/
theorem argumentsEnd?_append_closing {u trail : List Char} (inner : '\x7d' ∉ u)
    (blank : ∀ c ∈ trail, Text.isBlank c) (rest : List Char) :
    argumentsEnd? (u ++ ')' :: (trail ++ '\x7d' :: '\x7d' :: rest)) =
      if '\n' ∈ u then none else some (u ++ [')'], rest) := by
  induction u with
  | nil =>
    rw [List.nil_append, argumentsEnd?_bracket, closing?_blanks blank]
    rfl
  | cons c u ih =>
    replace inner := List.not_mem_of_not_mem_cons inner
    by_cases bracket : c = ')'
    · subst bracket
      rw [List.cons_append, argumentsEnd?_bracket, closing?_append_bracket inner, ih inner]
      by_cases line : '\n' ∈ u <;> simp [line]
    · rw [List.cons_append, argumentsEnd?_cons _ bracket, ih inner]
      by_cases line : c = '\n'
      · simp [line]
      · rw [if_neg line]
        by_cases later : '\n' ∈ u <;> simp [later, Ne.symm line]

/-! ## Openings -/

/-- What opens a call marker: braces, a dollar sign and a name with a bracket behind it. -/
structure Opening where
  lead : List Char
  name : List Char
  gap : List Char

namespace Opening

/-- The part of an opening that belongs to the call. -/
def head (o : Opening) : List Char := o.name ++ (o.gap ++ ['('])

def text (o : Opening) : List Char := '\x7b' :: '\x7b' :: (o.lead ++ '$' :: o.head)

structure IsWritten (o : Opening) : Prop where
  lead : ∀ c ∈ o.lead, Text.isBlank c
  name : o.name ≠ []
  words : ∀ c ∈ o.name, Text.isAsciiWord c
  gap : ∀ c ∈ o.gap, Text.isBlank c

/-- Behind its two braces an opening has blanks, word characters, a dollar sign and a bracket. -/
theorem IsWritten.not_mem {o : Opening} (written : o.IsWritten) {c : Char}
    (blank : Text.isBlank c = false) (word : Text.isAsciiWord c = false)
    (other : c ∉ ['$', '(']) : c ∉ o.lead ++ '$' :: o.head := by
  have outside {cs : List Char} (blanks : ∀ d ∈ cs, Text.isBlank d) : c ∉ cs := fun among =>
    absurd (blanks c among) (Bool.eq_false_iff.mp blank)
  have name : c ∉ o.name := fun among =>
    absurd (written.words c among) (Bool.eq_false_iff.mp word)
  simpa [head, outside written.lead, outside written.gap, name] using other

theorem IsWritten.braceless {o : Opening} (written : o.IsWritten) :
    '\x7b' ∉ o.lead ++ '$' :: o.head :=
  written.not_mem (by decide) (by decide) (by decide)

theorem IsWritten.closeless {o : Opening} (written : o.IsWritten) : '\x7d' ∉ o.text := by
  have inside : '\x7d' ∉ o.lead ++ '$' :: o.head :=
    written.not_mem (by decide) (by decide) (by decide)
  simpa [text] using inside

end Opening

namespace CallMarker

/-- Behind an opening a marker goes on with the arguments of its call. -/
theorem atStart?_opening {o : Opening} (written : o.IsWritten) (rest : List Char) :
    atStart? (o.text ++ rest) = ledBy o.head (argumentsEnd? rest) := by
  have dropped : (o.lead ++ '$' :: (o.name ++ (o.gap ++ '(' :: rest))).dropWhile Text.isBlank =
      '$' :: (o.name ++ (o.gap ++ '(' :: rest)) := by
    have dollar : Text.isBlank '$' = false := by decide
    rw [dropWhile_append_cons dollar, List.dropWhile_eq_nil_iff.mpr written.lead, List.nil_append]
  have gapless : (o.gap ++ '(' :: rest).takeWhile Text.isAsciiWord = [] := by
    have bracket : Text.isAsciiWord '(' = false := by decide
    rw [takeWhile_append_cons bracket, List.takeWhile_eq_nil_iff]
    intro some word
    have blank := written.gap _ (List.get_mem o.gap ⟨0, some⟩)
    rw [Text.isBlank_of_isAsciiWord word] at blank
    cases blank
  have name : (o.name ++ (o.gap ++ '(' :: rest)).takeWhile Text.isAsciiWord = o.name := by
    rw [List.takeWhile_append_of_pos written.words, gapless, List.append_nil]
  have gap : (o.gap ++ '(' :: rest).takeWhile Text.isBlank = o.gap := by
    have bracket : Text.isBlank '(' = false := by decide
    rw [takeWhile_append_cons bracket, List.takeWhile_eq_self_iff.mpr written.gap]
  have whole : o.text ++ rest =
      '\x7b' :: '\x7b' :: (o.lead ++ '$' :: (o.name ++ (o.gap ++ '(' :: rest))) := by
    simp [Opening.text, Opening.head]
  rw [whole, atStart?, body?, dropped]
  simp [name, gap, ← List.drop_drop, written.name, Opening.head, ledBy]

/-- A marker starts with an opening. -/
theorem exists_opening {cs call after : List Char} (starts : atStart? cs = some (call, after)) :
    ∃ (o : Opening) (rest args : List Char), o.IsWritten ∧ cs = o.text ++ rest ∧
      argumentsEnd? rest = some (args, after) ∧ call = o.head ++ args := by
  rw [atStart?.eq_def] at starts
  split at starts
  · rename_i cs
    rw [body?] at starts
    split at starts
    · rename_i rest dollar
      simp only [drop_length_takeWhile, ← List.drop_drop] at starts
      split at starts
      · rename_i arguments bracket
        split at starts
        · cases starts
        · rename_i named
          obtain ⟨⟨args, after⟩, ended, same⟩ := Option.map_eq_some_iff.mp starts
          cases same
          refine ⟨⟨cs.takeWhile Text.isBlank, rest.takeWhile Text.isAsciiWord,
            (rest.dropWhile Text.isAsciiWord).takeWhile Text.isBlank⟩, arguments, args,
            ⟨?_, ?_, ?_, ?_⟩, ?_, ended, ?_⟩
          · exact fun c among => List.mem_takeWhile_imp among
          · simpa using named
          · exact fun c among => List.mem_takeWhile_imp among
          · exact fun c among => List.mem_takeWhile_imp among
          · have inner : rest = rest.takeWhile Text.isAsciiWord ++
                ((rest.dropWhile Text.isAsciiWord).takeWhile Text.isBlank ++ '(' :: arguments) := by
              rw [← bracket, List.takeWhile_append_dropWhile, List.takeWhile_append_dropWhile]
            have outer : cs = cs.takeWhile Text.isBlank ++ '$' :: rest := by
              rw [← dollar, List.takeWhile_append_dropWhile]
            simp [Opening.text, Opening.head, ← inner, ← outer]
          · simp [Opening.head]
      · cases starts
    · cases starts
  · cases starts

/-- A marker that starts before two braces ends before them, or it opens before them and goes on
    behind them. -/
theorem atStart?_append_braces {u rest call after : List Char} (nonempty : u ≠ [])
    (starts : atStart? (u ++ '\x7b' :: '\x7b' :: rest) = some (call, after)) :
    (∃ behind, atStart? u = some (call, behind) ∧ after = behind ++ '\x7b' :: '\x7b' :: rest) ∨
      '$' ∈ u ∧ ∃ args, argumentsEnd? ('\x7b' :: '\x7b' :: rest) = some (args, after) := by
  obtain ⟨o, rest', args, written, whole, ended, rfl⟩ := exists_opening starts
  -- The two braces are not part of the opening, which has braces at its start only.
  obtain ⟨u', rfl, rfl⟩ : ∃ u', u = o.text ++ u' ∧ rest' = u' ++ '\x7b' :: '\x7b' :: rest := by
    rcases List.append_eq_append_iff.mp whole with ⟨t, opened, behind⟩ | ⟨u', opened, behind⟩
    · cases t with
      | nil => exact ⟨[], by simpa using opened.symm, by simpa using behind.symm⟩
      | cons c t =>
        obtain ⟨rfl, onward⟩ := List.cons.inj behind
        rw [Opening.text] at opened
        refine absurd ?_ written.braceless
        rcases u with _ | ⟨d, _ | ⟨e, u⟩⟩
        · exact absurd rfl nonempty
        · obtain rfl : o.lead ++ '$' :: o.head = t := by simpa using (List.cons.inj opened).2
          cases tail : o.lead ++ '$' :: o.head with
          | nil => simp at tail
          | cons f t =>
            rw [tail] at onward
            obtain ⟨rfl, -⟩ := List.cons.inj onward
            exact List.mem_cons_self
        · have tail : o.lead ++ '$' :: o.head = u ++ '\x7b' :: t := by
            simpa using (List.cons.inj (List.cons.inj opened).2).2
          simp [tail]
    · exact ⟨u', opened, behind⟩
  rw [argumentsEnd?_append_brace] at ended
  cases before : argumentsEnd? u' with
  | some p =>
    rw [before] at ended
    cases ended
    exact .inl ⟨p.2, by rw [atStart?_opening written, before]; rfl, rfl⟩
  | none =>
    rw [before] at ended
    by_cases line : '\n' ∈ u'
    · simp [line] at ended
    · simp only [line, if_false] at ended
      obtain ⟨⟨args', after'⟩, ended, same⟩ := Option.map_eq_some_iff.mp ended
      cases same
      exact .inr ⟨by simp [Opening.text], args', ended⟩

/-- A marker that starts a text starts it also if more text follows that opens a brace. -/
theorem atStart?_append_of_some {u call behind : List Char} (rest : List Char)
    (starts : atStart? u = some (call, behind)) :
    atStart? (u ++ '\x7b' :: rest) = some (call, behind ++ '\x7b' :: rest) := by
  obtain ⟨o, rest', args, written, rfl, ended, rfl⟩ := exists_opening starts
  rw [List.append_assoc, atStart?_opening written, argumentsEnd?_append_brace, ended]
  rfl

/-- The first marker starts behind what is before it. -/
theorem find?_eq_some {cs : List Char} :
    ∀ {marker : CallMarker}, find? cs = some marker →
      ∃ rest, cs = marker.before ++ rest ∧ atStart? rest = some (marker.call, marker.after) := by
  induction cs with
  | nil => intro marker found; cases found
  | cons c cs ih =>
    intro marker found
    rw [find?] at found
    split at found
    · rename_i starts
      cases found
      exact ⟨c :: cs, rfl, starts⟩
    · obtain ⟨later, found', rfl⟩ := Option.map_eq_some_iff.mp found
      obtain ⟨rest, rfl, starts⟩ := ih found'
      exact ⟨rest, rfl, starts⟩

end CallMarker

/-! ## Sites -/

/-- Whether a text is an identifier of ASCII characters. -/
def isIdentifier : List Char → Bool
  | [] => false
  | c :: cs => (Text.isAsciiLetter c || c == '_') && cs.all Text.isAsciiWord

theorem isAsciiWord_of_isIdentifier {cs : List Char} (named : isIdentifier cs) :
    ∀ c ∈ cs, Text.isAsciiWord c := by
  cases cs with
  | nil => cases named
  | cons c cs =>
    rw [isIdentifier, Bool.and_eq_true, List.all_eq_true] at named
    refine List.forall_mem_cons.mpr ⟨?_, named.2⟩
    rcases Bool.or_eq_true_iff.mp named.1 with letter | low
    · exact Text.isAsciiWord_of_isAsciiLetter letter
    · simp [Text.isAsciiWord, low]

/-- A call as it is written between its braces: a dollar sign and a name with arguments in brackets
    behind it, and white space around them. -/
structure CallSite where
  lead : List Char
  name : String
  args : List Char
  trail : List Char
  deriving DecidableEq, Repr

namespace CallSite

/-- The call without its dollar sign. -/
def expression (site : CallSite) : List Char := site.name.toList ++ '(' :: (site.args ++ [')'])

/-- The text of a site with its braces. -/
def text (site : CallSite) : List Char :=
  '\x7b' :: '\x7b' ::
    (site.lead ++ '$' :: (site.expression ++ (site.trail ++ ['\x7d', '\x7d'])))

/-- A site has an identifier for a name and no braces in its arguments. -/
structure IsWritten (site : CallSite) : Prop where
  lead : ∀ c ∈ site.lead, Text.isBlank c
  name : isIdentifier site.name.toList
  args : ∀ c ∈ site.args, isInner c
  trail : ∀ c ∈ site.trail, Text.isBlank c

/-- What opens a site. -/
def opening (site : CallSite) : Opening := ⟨site.lead, site.name.toList, []⟩

theorem IsWritten.opening {site : CallSite} (written : site.IsWritten) :
    site.opening.IsWritten := by
  have nonempty : site.name.toList ≠ [] := by
    intro nothing
    have named := written.name
    rw [nothing] at named
    cases named
  exact ⟨written.lead, nonempty, isAsciiWord_of_isIdentifier written.name, List.forall_mem_nil _⟩

/-- There is no closing brace before the end of a site. -/
theorem IsWritten.closeless {site : CallSite} (written : site.IsWritten) : '\x7d' ∉ site.args := by
  intro among
  have inner := written.args _ among
  simp [isInner] at inner

theorem text_eq (site : CallSite) (b : List Char) :
    site.text ++ b =
      site.opening.text ++ (site.args ++ ')' :: (site.trail ++ '\x7d' :: '\x7d' :: b)) := by
  simp [text, expression, opening, Opening.text, Opening.head]

/-- The call of a site that starts a text ends with it, if its arguments are on one line. -/
theorem atStart?_text {site : CallSite} (written : site.IsWritten) (b : List Char) :
    CallMarker.atStart? (site.text ++ b) =
      if '\n' ∈ site.args then none else some (site.expression, b) := by
  rw [text_eq, CallMarker.atStart?_opening written.opening,
    argumentsEnd?_append_closing written.closeless written.trail]
  by_cases line : '\n' ∈ site.args <;>
    simp [line, expression, opening, Opening.head]

/-- Arguments that go on into a site end together with it. -/
theorem argumentsEnd?_text {site : CallSite} (written : site.IsWritten) {b args after : List Char}
    (ended : argumentsEnd? (site.text ++ b) = some (args, after)) : after = b := by
  have inner : '\x7d' ∉ site.opening.text ++ site.args := by
    simp [written.opening.closeless, written.closeless]
  rw [text_eq, ← List.append_assoc, argumentsEnd?_append_closing inner written.trail] at ended
  split at ended
  · cases ended
  · cases ended
    rfl

/-- The first marker of a text with a site in it ends before the site, or it is the site, or it
    opens before the site and ends together with it. -/
theorem find?_cases {site : CallSite} (written : site.IsWritten) (line : '\n' ∉ site.args)
    (a b : List Char) :
    (∃ marker, CallMarker.find? a = some marker ∧
      CallMarker.find? (a ++ (site.text ++ b)) =
        some { marker with after := marker.after ++ (site.text ++ b) }) ∨
    CallMarker.find? (a ++ (site.text ++ b)) = some ⟨a, site.expression, b⟩ ∨
    ∃ x y call, a = x ++ y ∧ '$' ∈ y ∧
      CallMarker.find? (a ++ (site.text ++ b)) = some ⟨x, call, b⟩ := by
  have braces : site.text ++ b = '\x7b' :: '\x7b' :: ((site.text ++ b).drop 2) := rfl
  induction a with
  | nil =>
    refine .inr (.inl ?_)
    have here := atStart?_text written b
    rw [if_neg line] at here
    rw [List.nil_append, braces, CallMarker.find?, ← braces, here]
  | cons c a ih =>
    cases starts : CallMarker.atStart? (c :: (a ++ (site.text ++ b))) with
    | some p =>
      obtain ⟨call, after⟩ := p
      have found : CallMarker.find? (c :: (a ++ (site.text ++ b))) = some ⟨[], call, after⟩ := by
        rw [CallMarker.find?, starts]
      have opens := starts
      rw [braces, ← List.cons_append] at opens
      rcases CallMarker.atStart?_append_braces (List.cons_ne_nil c a) opens with
        ⟨behind, ends, rfl⟩ | ⟨dollar, args, ended⟩
      · refine .inl ⟨⟨[], call, behind⟩, ?_, found⟩
        rw [CallMarker.find?, ends]
      · obtain rfl : after = b := argumentsEnd?_text written ended
        exact .inr (.inr ⟨[], c :: a, call, rfl, dollar, found⟩)
    | none =>
      have later {marker : CallMarker}
          (found : CallMarker.find? (a ++ (site.text ++ b)) = some marker) :
          CallMarker.find? (c :: (a ++ (site.text ++ b))) =
            some { marker with before := c :: marker.before } := by
        rw [CallMarker.find?, starts, found]
        rfl
      rcases ih with ⟨marker, alone, found⟩ | found | ⟨x, y, call, rfl, dollar, found⟩
      · refine .inl ⟨{ marker with before := c :: marker.before }, ?_, later found⟩
        have none : CallMarker.atStart? (c :: a) = none := by
          by_contra some
          obtain ⟨p, ends⟩ := Option.ne_none_iff_exists'.mp some
          have ends := CallMarker.atStart?_append_of_some ('\x7b' :: ((site.text ++ b).drop 2)) ends
          rw [← braces, List.cons_append, starts] at ends
          cases ends
        rw [CallMarker.find?, none, alone]
        rfl
      · exact .inr (.inl (later found))
      · exact .inr (.inr ⟨c :: x, y, call, rfl, dollar, later found⟩)

end CallSite

end SessionScript.Template
