import SessionScript.Proofs.Report
import SessionScript.Proofs.Yaml.Lines

/-!
# Elements in reports

The text of a report has a block with the failing element. Of the document of the element the block
has every line that is not blank, and the document of a mapping of plain data has no blank lines,
unless a text in it stands on several lines in single quotes. So the element is known by the text of
the report as far as it is known by its document.
-/

namespace SessionScript

namespace Value

/-- A mapping of plain data with something in it. -/
def IsElement (v : Value) : Prop := v.IsPlainData ∧ ∃ e es, v = .dict (e :: es)

/-- Nothing in plain data is masked. -/
theorem IsPlainData.mask {v : Value} (data : v.IsPlainData) :
    v.mapLeaves Place.maskLeaf = v := by
  induction data with
  | null | bool _ | int _ | text _ => exact mapLeaves_leaf _ rfl
  | @list xs _ ih =>
    have same : xs.map (mapLeaves Place.maskLeaf) = xs.map id := List.map_congr_left ih
    rw [mapLeaves_list, same, List.map_id]
  | @dict es keys _ ih =>
    have same : es.map (fun e => (e.1, e.2.mapLeaves Place.maskLeaf)) = es.map id := by
      refine List.map_congr_left fun e among => ?_
      rw [ih e among]
      rfl
    rw [mapLeaves_dict, same, List.map_id]

end Value

open Value

namespace Text

theorem below_singleton (s : String) : below [s] = '\n' :: s.toList := List.append_nil _

/-- Lines below others may be joined first, if there are any. -/
theorem unlines_append_unlines {front ls : List String} (some : front ≠ []) (more : ls ≠ []) :
    unlines (front ++ [unlines ls]) = unlines (front ++ ls) := by
  obtain ⟨l, ls, rfl⟩ := List.exists_cons_of_ne_nil more
  rw [← String.toList_inj, toList_unlines_append some, toList_unlines_append some,
    below_singleton, toList_unlines_cons]
  rfl

theorem unlines_append_singleton {front : List String} (some : front ≠ []) (s : String) :
    unlines (front ++ [s]) = unlines front ++ "\n" ++ s := by
  rw [← String.toList_inj, toList_unlines_append some, below_singleton, String.toList_append,
    String.toList_append, List.append_assoc]
  rfl

end Text

namespace Place

open Text

/-- What stands above an element has lines that are not blank, and it ends within one. -/
structure IsAbove (top : String) : Prop where
  inked : inkedLines top ≠ []
  last : ∃ d, top.toList.getLast? = some d ∧ isLineEnd d = false

theorem isAbove_dots : IsAbove "..." := ⟨by decide, '.', rfl, by decide⟩

theorem isAbove_rule (t : String) : IsAbove ("..." ++ "\n" ++ (t ++ "\n" ++ "---")) := by
  constructor
  · rw [inkedLines_append (d := '.') rfl (by decide)]
    intro none
    exact isAbove_dots.inked (List.append_eq_nil_iff.mp none).1
  · refine ⟨'-', ?_, by decide⟩
    have behind : (t ++ "\n" ++ "---").toList = (t ++ "\n").toList ++ "---".toList :=
      String.toList_append
    rw [String.toList_append, behind, ← List.append_assoc,
      List.getLast?_append_of_ne_nil _ (by decide)]
    rfl

/-- The element stands below a title, and below the variables if there are any. -/
theorem exists_above {vars : Option Value} (shown : ∀ vs, vars = some vs → vs.HasMaskedForm) :
    ∃ top, IsAbove top ∧ ∀ element, elementText vars element =
      (document element).map fun body => top ++ "\n" ++ body := by
  have alone (element : Value) :
      (do
        let body ← document element
        return String.intercalate "\n" (["..."] ++ [] ++ [body])) =
        (document element).map fun body => "..." ++ "\n" ++ body := by
    cases document element with
    | error e => rfl
    | ok body =>
      have joined := unlines_append_singleton (List.cons_ne_nil "..." []) body
      exact congrArg Except.ok joined
  cases vars with
  | none => exact ⟨"...", isAbove_dots, fun element => alone element⟩
  | some vs =>
    cases empty : vs.isFalsy with
    | true =>
      refine ⟨"...", isAbove_dots, fun element => ?_⟩
      simpa only [elementText, empty, if_true, pure_bind] using alone element
    | false =>
      obtain ⟨t, titled⟩ : ∃ t, document (.dict [(.text "vars", vs)]) = .ok t := by
        rw [← Yaml.errorOf?_eq_none, errorOf?_document_vars, Yaml.errorOf?_eq_none]
        exact (document_isOk_iff vs).mpr (shown vs rfl)
      refine ⟨"..." ++ "\n" ++ (t ++ "\n" ++ "---"), isAbove_rule t, fun element => ?_⟩
      have above : elementText (some vs) element = (do
          let body ← document element
          return String.intercalate "\n" (["..."] ++ [t, "---"] ++ [body])) := by
        simp only [elementText, empty, Bool.false_eq_true, if_false, titled]
        rfl
      rw [above]
      cases document element with
      | error e => rfl
      | ok body =>
        have joined := unlines_append_singleton (List.cons_ne_nil "..." [t, "---"]) body
        have top : unlines ["...", t, "---"] = "..." ++ "\n" ++ (t ++ "\n" ++ "---") := by
          rw [unlines, String.intercalate_cons_cons, String.intercalate_cons_cons,
            String.intercalate_singleton]
        rw [top] at joined
        exact congrArg Except.ok joined

end Place

namespace Report

open Text

variable {α : Type}

/-- A report that shows an element at some place. -/
def showing (r : Report α) (p : Place) (v : Value) : Report α :=
  { r with place := some { p with element := some v } }

/-- The text of a report ends with the lines of the document of its element that are not blank,
    behind eight spaces. What is in front of them does not depend on the element. -/
theorem exists_front (r : Report α) {p : Place} (excerpt : p.excerpt = none)
    (vars : ∀ vs, p.vars = some vs → vs.HasMaskedForm) :
    ∃ front : List String, front ≠ [] ∧ ∀ v d, v.isFalsy = false → Place.document v = .ok d →
      (r.showing p v).text = .ok (unlines (front ++ (inkedLines d).map (indented 8))) := by
  obtain ⟨top, above, written⟩ := Place.exists_above vars
  obtain ⟨c, last, inner⟩ := above.last
  refine ⟨[r.message, indent 4 p.location] ++ (inkedLines top).map (indented 8),
    List.cons_ne_nil _ _, fun v d truthy document => ?_⟩
  have snippet : Place.snippet { p with element := some v } = .ok (top ++ "\n" ++ d) := by
    simp only [Place.snippet, excerpt, truthy, Bool.false_eq_true, if_false, written, document]
    rfl
  have some : (top ++ "\n" ++ d).isEmpty = false := by
    rw [Bool.eq_false_iff, Ne, String.isEmpty_iff]
    intro none
    have none := congrArg String.toList none
    rw [String.toList_append, String.toList_append] at none
    simp at none
  have kept : inkedLines (top ++ "\n" ++ d) ≠ [] := by
    rw [inkedLines_append last inner]
    intro none
    exact above.inked (List.append_eq_nil_iff.mp none).1
  have text : (r.showing p v).text = .ok (unlines ([r.message, indent 4 p.location] ++
      [indent 8 (top ++ "\n" ++ d)])) := by
    simp only [Report.text, showing, snippet]
    change Except.ok (String.intercalate "\n" (r.message :: ([indent 4 p.location] ++
      if (top ++ "\n" ++ d).isEmpty then [] else [indent 8 (top ++ "\n" ++ d)]))) = _
    rw [some, if_neg Bool.false_ne_true]
    rfl
  rw [text, indent_eq 8, unlines_append_unlines (List.cons_ne_nil _ _) (by simpa using kept),
    inkedLines_append last inner, List.map_append, List.append_assoc]

/-- Indented lines are known by what they were before. -/
theorem indented_inj {width : Nat} {ls ms : List String} :
    ls.map (indented width) = ms.map (indented width) ↔ ls = ms := by
  constructor
  · intro same
    refine List.map_injective_iff.mpr (fun l m same => ?_) same
    have same := congrArg String.toList same
    rw [indented, indented, String.toList_append, String.toList_append,
      List.append_right_inj] at same
    exact String.toList_inj.mp same
  · intro same
    rw [same]

theorem not_mem_indented {width : Nat} {s : String} :
    ∀ l ∈ (inkedLines s).map (indented width), '\n' ∉ l.toList := by
  intro l among
  obtain ⟨m, inside, rfl⟩ := List.mem_map.mp among
  rw [indented, String.toList_append, String.toList_ofList]
  intro feed
  rcases List.mem_append.mp feed with space | behind
  · cases List.eq_of_mem_replicate space
  · exact not_mem_inkedLines inside behind

/-- Plain data is shown as it is. Its document is without blank lines if no text in it stands on
    several lines in single quotes, and only then. -/
theorem document_isElement {v : Value} (element : v.IsElement) :
    v.isFalsy = false ∧
      ∃ d, Place.document v = .ok d ∧ (unlines (inkedLines d) = d ↔ v.IsCompact) := by
  obtain ⟨data, e, es, rfl⟩ := element
  obtain ⟨d, written⟩ := Yaml.write_isOk data
  refine ⟨rfl, d, by rw [Place.document, data.mask, written], ?_, fun compact => ?_⟩
  · intro whole
    by_contra spread
    exact unlines_inkedLines_ne (Yaml.write_breaks data spread written) whole
  · obtain ⟨done, line, written', inked, last⟩ := Yaml.write_lines data compact
    rw [written] at written'
    cases written'
    exact unlines_inkedLines inked last

/-- The text of a report ends with the lines of the document of its element that are not blank,
    behind eight spaces, and the rest of it does not depend on the element. So elements are told
    apart by such a line of their documents, and by nothing else. Of a mapping of plain data nothing
    is lost but the blank lines of texts on several lines in single quotes: two of them without such
    texts have different texts if they have different documents. -/
theorem text_showing (r : Report α) {p : Place} (excerpt : p.excerpt = none)
    (vars : ∀ vs, p.vars = some vs → vs.HasMaskedForm) :
    (∃ front : List String, ∀ v d, v.isFalsy = false → Place.document v = .ok d →
      (r.showing p v).text = .ok (unlines (front ++ (inkedLines d).map (indented 8)))) ∧
    (∀ v w d e, v.isFalsy = false → w.isFalsy = false →
      Place.document v = .ok d → Place.document w = .ok e →
      ((r.showing p v).text = (r.showing p w).text ↔ inkedLines d = inkedLines e)) ∧
    (∀ v : Value, v.IsElement →
      ∃ d, Place.document v = .ok d ∧ (unlines (inkedLines d) = d ↔ v.IsCompact)) ∧
    ∀ v w : Value, v.IsElement → w.IsElement → v.IsCompact → w.IsCompact →
      (Place.document v = Place.document w → v = w) → v ≠ w →
      (r.showing p v).text ≠ (r.showing p w).text := by
  obtain ⟨front, some, shows⟩ := exists_front r excerpt vars
  have apart : ∀ v w d e, v.isFalsy = false → w.isFalsy = false →
      Place.document v = .ok d → Place.document w = .ok e →
      ((r.showing p v).text = (r.showing p w).text ↔ inkedLines d = inkedLines e) := by
    intro v w d e truthy truthy' document document'
    rw [shows v d truthy document, shows w e truthy' document', Except.ok.injEq,
      unlines_append_inj some not_mem_indented not_mem_indented, indented_inj]
  refine ⟨⟨front, shows⟩, apart, fun v element => (document_isElement element).2, ?_⟩
  intro v w element element' compact compact' faithful different same
  obtain ⟨truthy, d, document, whole⟩ := document_isElement element
  obtain ⟨truthy', e, document', whole'⟩ := document_isElement element'
  have lines := (apart v w d e truthy truthy' document document').mp same
  refine different (faithful ?_)
  rw [document, document', ← whole.mpr compact, ← whole'.mpr compact', lines]

/-- A step that failed, without anything to show yet. -/
def failedStep : Report Empty where
  kind := .session
  message := "Step failed"
  place := none

/-- The second step of a scenario. -/
def secondStep : Place :=
  { filename := some "session.yml", line := some 4, column := some 2, step := some 1 }

/-- A step that sends a text. -/
def sending (s : String) : Value := .dict [(.text "send", .text s)]

theorem sending_isElement (s : String) : (sending s).IsElement := by
  refine ⟨.dict ?_ ?_, _, _, rfl⟩
  · exact List.forall_mem_singleton.mpr ⟨"send", rfl⟩
  · exact List.forall_mem_singleton.mpr (.text s)

theorem sending_isCompact {s : String} (together : ¬ Yaml.IsSpread s.toList) :
    (sending s).IsCompact := by
  refine isCompact_dict.mpr (List.forall_mem_singleton.mpr ⟨fun t part => ?_, fun t part => ?_⟩)
  · cases List.mem_singleton.mp part
    decide
  · cases List.mem_singleton.mp part
    exact together

theorem sending_inj {s t : String} : sending s = sending t ↔ s = t := by
  simp [sending]

/-- Texts with a space beside a line feed are in double quotes on one line. -/
theorem text_showing_of_folded :
    (failedStep.showing { secondStep with vars := some (.dict [(.text "x", .int 1)]) }
        (sending "a \nb")).text ≠
      (failedStep.showing { secondStep with vars := some (.dict [(.text "x", .int 1)]) }
        (sending "a \n\nb")).text := by
  have shown : ∀ vs, some (Value.dict [(.text "x", .int 1)]) = some vs → vs.HasMaskedForm := by
    intro vs known
    cases known
    constructor <;> decide
  have different : sending "a \nb" ≠ sending "a \n\nb" := by
    rw [Ne, sending_inj]
    decide
  refine (text_showing failedStep rfl shown).2.2.2 _ _ (sending_isElement _) (sending_isElement _)
    (sending_isCompact (by decide)) (sending_isCompact (by decide)) ?_ different
  intro same
  have known : (Place.document (sending "a \nb")).toOption ≠
      (Place.document (sending "a \n\nb")).toOption := by decide +kernel
  exact absurd (congrArg Except.toOption same) known

theorem text_fails_of_long {i : Int} (long : Text.Numeral.isLong i) :
    (failedStep.showing secondStep (.dict [(.text "id", .int i)])).text = .error .longInteger := by
  have parts : (Value.dict [(.text "id", .int i)]).parts = [.text "id", .int i] := rfl
  have fault : (Value.int i).leafFault? = some .longInteger := by
    simp [leafFault?, isOpaque, isShort, long]
  rw [← Yaml.errorOf?_eq_some, errorOf?_text]
  change List.findSome? _ [Value.dict [(.text "id", .int i)]] = _
  have masked : (Value.dict [(.text "id", .int i)]).mapLeaves Place.maskLeaf =
      .dict [(.text "id", .int i)] := rfl
  rw [List.findSome?_singleton, Place.document, Yaml.write_fault, masked, parts,
    List.findSome?_cons_of_isNone rfl, List.findSome?_singleton, fault]

/-- Two elements have one text if they differ in the number of line feeds of a text in single
    quotes. So have any two below an excerpt, or below variables that can not be shown, and any two
    with integers that are too long. -/
theorem text_showing_of_spread :
    (¬ ∀ v w : Value, v.IsElement → w.IsElement → v ≠ w →
      (failedStep.showing secondStep v).text ≠ (failedStep.showing secondStep w).text) ∧
    (¬ ∀ v w : Value, v.IsElement → w.IsElement → v ≠ w →
      (failedStep.showing { secondStep with excerpt := some "send: [" } v).text ≠
        (failedStep.showing { secondStep with excerpt := some "send: [" } w).text) ∧
    (¬ ∀ v w : Value, v.IsElement → w.IsElement → v ≠ w →
      (failedStep.showing { secondStep with vars := some (.dict [(.object "x", .null)]) } v).text ≠
        (failedStep.showing { secondStep with vars := some (.dict [(.object "x", .null)]) }
          w).text) ∧
    ¬ ∀ i j : Int, i ≠ j →
      (failedStep.showing secondStep (.dict [(.text "id", .int i)])).text ≠
        (failedStep.showing secondStep (.dict [(.text "id", .int j)])).text := by
  have collide {p : Place} (s t : String) (different : s ≠ t)
      (same : (failedStep.showing p (sending s)).text = (failedStep.showing p (sending t)).text) :
      ¬ ∀ v w : Value, v.IsElement → w.IsElement → v ≠ w →
        (failedStep.showing p v).text ≠ (failedStep.showing p w).text := by
    intro apart
    exact apart _ _ (sending_isElement s) (sending_isElement t) (mt sending_inj.mp different) same
  refine ⟨?_, collide "a" "b" (by decide) rfl, collide "a" "b" (by decide) rfl, fun apart => ?_⟩
  · have single : (failedStep.showing secondStep (sending "a\nb")).text =
        .ok (unlines ["Step failed", "    in \"session.yml\", line 5, column 3", "    on step 2",
          "        ...", "        send: 'a", "          b'"]) := rfl
    have double : (failedStep.showing secondStep (sending "a\n\nb")).text =
        .ok (unlines ["Step failed", "    in \"session.yml\", line 5, column 3", "    on step 2",
          "        ...", "        send: 'a", "          b'"]) := rfl
    exact collide _ _ (by decide) (single.trans double.symm)
  · refine apart (10 ^ 4300) (-10 ^ 4300) (by decide +kernel) ?_
    rw [text_fails_of_long (by decide +kernel), text_fails_of_long (by decide +kernel)]

end Report

end SessionScript
