import SessionScript.Proofs.Template.Interpolation
import SessionScript.Proofs.Template.Rendering
import SessionScript.Proofs.Template.Termination

/-!
# Texts with their variables filled in

A value is braceless if it is shown without braces in a template, and so is anything that a path
leads to among braceless variables. Where variables are braceless, a text is shown as what stands
outside of its markers, with other characters than braces filled in. Nothing is filled in between
the braces of a new marker that were not next to each other before. So a new marker can come up only
around text that two braces enclose on either side already.
-/

namespace SessionScript.Template

open Value

/-! ## Values without braces -/

/-- A value has a text, and there are no braces in it. -/
def IsBraceless (v : Value) : Prop :=
  ∃ s, textOf v = .ok s ∧ ∀ c ∈ s.toList, isInner c

theorem textOf_eq_ok {v : Value} {s : String} : textOf v = .ok s ↔ v.stringify = .ok s := by
  rw [textOf]
  cases v.stringify <;> simp

theorem brace_of_not_isInner {c : Char} (brace : ¬ isInner c) : c = '\x7b' ∨ c = '\x7d' := by
  simpa [isInner, ← or_iff_not_imp_left] using brace

theorem isBraceless_null : IsBraceless .null := ⟨"", rfl, List.forall_mem_nil _⟩

/-- A mapping is shown between braces. -/
theorem not_isBraceless_dict (es : Entries) : ¬ IsBraceless (.dict es) := by
  rintro ⟨s, shown, inner⟩
  rw [textOf_eq_ok, stringify, mapLeaves_dict, Json.write] at shown
  obtain ⟨texts, -, ended⟩ := bind_ok shown
  cases ended
  have brace : '\x7b' ∈ ("\x7b" ++ commaSeparated texts ++ "\x7d").toList := by
    rw [String.toList_append, String.toList_append]
    exact List.mem_cons_self
  exact absurd (inner _ brace) (by decide)

/-! ## Braces within JSON -/

/-- A finite number is written alike in templates and in JSON. -/
theorem render_plain {x : Binary64} (finite : x.isFinite) :
    NumberLayout.plain.render x = NumberLayout.json.render x := by
  rw [Binary64.isFinite, bne_iff_ne] at finite
  have number : ¬ x.isNaN := by simp [Binary64.isNaN, finite]
  have bounded : ¬ x.isInfinite := by simp [Binary64.isInfinite, finite]
  rw [NumberLayout.render, NumberLayout.render, if_neg number, if_neg number, if_neg bounded,
    if_neg bounded]
  rfl

/-- There are no braces in the text of a number. -/
theorem isInner_render (x : Binary64) :
    ∀ c ∈ (NumberLayout.plain.render x).toList, isInner c := by
  by_cases finite : x.isFinite
  · intro c among
    rw [render_plain finite] at among
    have part := List.all_eq_true.mp (Json.render_parts x).1 c among
    by_contra brace
    rcases brace_of_not_isInner brace with rfl | rfl <;> exact absurd part (by decide)
  · have names : ∀ s ∈ ["nan", "inf", "-inf"], s.toList.all isInner := by decide
    refine List.all_eq_true.mp (names _ ?_)
    rw [Binary64.isFinite, bne_iff_ne, not_not] at finite
    rw [NumberLayout.render]
    split
    · exact List.mem_cons_self
    · rename_i number
      have bounded : x.isInfinite := by
        simpa [Binary64.isNaN, Binary64.isInfinite, finite] using number
      rw [if_pos bounded]
      split <;> decide

/-- A brace stands for itself in a JSON string. -/
theorem mem_quote {s : String} {c : Char} (among : c ∈ s.toList) (brace : ¬ isInner c) :
    c ∈ (Json.quote s).toList := by
  have kept : c ∈ Json.escapeChar c := by
    rcases brace_of_not_isInner brace with rfl | rfl <;> decide
  rw [Json.quote, String.toList_ofList, List.cons_append]
  exact List.mem_cons_of_mem _ (List.mem_append_left _ (List.mem_flatMap.mpr ⟨c, among, kept⟩))

/-- The braces of a value are also there where it is an item. -/
theorem mem_write {v : Value} {s t : String} (shown : v.stringify = .ok s)
    (written : Json.write (mapLeaves jsonLeaf v) = .ok t) {c : Char} (among : c ∈ s.toList)
    (brace : ¬ isInner c) : c ∈ t.toList := by
  cases container : v.isContainer with
  | true =>
    rw [← stringify_container container, shown] at written
    cases written
    exact among
  | false =>
    rw [mapLeaves_leaf _ container] at written
    cases v with
    | null =>
      cases shown
      cases among
    | bool b =>
      cases shown
      have word : ∀ b, (leafText (.bool b)).toList.all isInner := by decide
      exact absurd (List.all_eq_true.mp (word b) c among) brace
    | int i =>
      rw [stringify] at shown
      rw [jsonLeaf, Json.write, shown] at written
      cases written
      exact among
    | float x =>
      have text : (Value.float x).stringify = .ok (NumberLayout.plain.render x) := rfl
      rw [text] at shown
      rw [← Except.ok.inj shown] at among
      exact absurd (isInner_render x c among) brace
    | list _ | tuple _ | set _ | dict _ => cases container
    | _ =>
      simp only [stringify, Except.ok.injEq] at shown
      simp only [jsonLeaf, Json.write, Except.ok.injEq] at written
      rw [← written]
      rw [← shown] at among
      exact mem_quote among brace

theorem mem_commaSeparated {part : String} {parts : List String} (inside : part ∈ parts) {c : Char}
    (among : c ∈ part.toList) : c ∈ (commaSeparated parts).toList := by
  induction parts with
  | nil => cases inside
  | cons first parts ih =>
    cases parts with
    | nil =>
      cases List.mem_singleton.mp inside
      rw [commaSeparated, String.intercalate_singleton]
      exact among
    | cons next parts =>
      rw [commaSeparated, String.intercalate_cons_cons, String.toList_append, String.toList_append]
      rcases List.mem_cons.mp inside with rfl | later
      · exact List.mem_append_left _ (List.mem_append_left _ among)
      · exact List.mem_append_right _ (ih later)

/-- The texts of items are among those that are written. -/
theorem exists_writeItems {vs : List Value} {v : Value} (inside : v ∈ vs) :
    ∀ {texts : List String}, Json.writeItems vs = .ok texts →
      ∃ t ∈ texts, Json.write v = .ok t := by
  induction vs with
  | nil => cases inside
  | cons w vs ih =>
    intro texts written
    rw [Json.writeItems] at written
    obtain ⟨t, first, written⟩ := bind_ok written
    obtain ⟨rest, others, ended⟩ := bind_ok written
    cases ended
    rcases List.mem_cons.mp inside with rfl | later
    · exact ⟨t, List.mem_cons_self, first⟩
    · obtain ⟨t', among, known⟩ := ih later others
      exact ⟨t', List.mem_cons_of_mem _ among, known⟩

/-! ## What a path leads to -/

/-- The items of a sequence that is shown as JSON are braceless if it is. -/
theorem IsBraceless.item {v : Value} {xs : List Value} (braceless : IsBraceless v)
    (container : v.isContainer) (mapped : ∀ f, mapLeaves f v = .list (xs.map (mapLeaves f)) ∨
      mapLeaves f v = .tuple (xs.map (mapLeaves f)))
    (each : v.IsShowable → ∀ x ∈ xs, x.IsShowable) : ∀ x ∈ xs, IsBraceless x := by
  intro x inside
  obtain ⟨s, shown, inner⟩ := braceless
  rw [textOf_eq_ok] at shown
  obtain ⟨t, known⟩ := (stringify_isOk_iff x).mpr
    (each ((stringify_isOk_iff v).mp ⟨s, shown⟩) x inside)
  have written : Json.write (.list (xs.map (mapLeaves jsonLeaf))) = .ok s := by
    rw [stringify_container container] at shown
    rcases mapped jsonLeaf with list | tuple
    · rwa [list] at shown
    · rw [tuple, Json.write] at shown
      rwa [Json.write]
  rw [Json.write] at written
  obtain ⟨texts, items, ended⟩ := bind_ok written
  cases ended
  obtain ⟨part, among, own⟩ := exists_writeItems (List.mem_map_of_mem inside) items
  refine ⟨t, textOf_eq_ok.mpr known, fun c here => ?_⟩
  by_contra brace
  have there := mem_commaSeparated among (mem_write known own here brace)
  have whole : c ∈ ("[" ++ commaSeparated texts ++ "]").toList := by
    rw [String.toList_append, String.toList_append]
    exact List.mem_append_left _ (List.mem_append_right _ there)
  exact brace (inner c whole)

theorem Path.step_isBraceless {segment : List Char} {v w : Value} (braceless : IsBraceless v)
    (stepped : Path.step segment v = some w) : IsBraceless w := by
  cases v with
  | dict es => exact absurd braceless (not_isBraceless_dict es)
  | list xs =>
    obtain ⟨i, -, found⟩ := Option.bind_eq_some_iff.mp stepped
    exact braceless.item rfl (fun f => .inl (mapLeaves_list f xs)) (isShowable_list xs).mp w
      (List.mem_of_getElem? found)
  | tuple xs =>
    obtain ⟨i, -, found⟩ := Option.bind_eq_some_iff.mp stepped
    exact braceless.item rfl (fun f => .inr (mapLeaves_tuple f xs)) (isShowable_tuple xs).mp w
      (List.mem_of_getElem? found)
  | _ => cases stepped

/-- Where all variables are braceless, so is whatever a path leads to. -/
theorem lookup_isBraceless {vars : Entries} (each : ∀ e ∈ vars, IsBraceless e.2)
    (path : List Char) : IsBraceless (lookup vars path) := by
  rw [lookup]
  split
  · rename_i p parsed
    obtain ⟨segments⟩ := p
    obtain ⟨valid, -⟩ := Path.parse?_eq_some.mp parsed
    rw [Path.resolve]
    -- The variables themselves are a mapping, but a path goes at least one step into them.
    cases segments with
    | nil => cases valid
    | cons name segments =>
      rw [Path.follow]
      split
      · exact isBraceless_null
      · exact isBraceless_null
      · rename_i v _ stepped
        obtain ⟨k, among⟩ := Entries.mem_of_get? stepped
        exact Path.follow_keeps isBraceless_null Path.step_isBraceless segments (each _ among)
  · exact isBraceless_null

/-! ## What stands outside of markers -/

/-- The characters of pieces that belong to no marker. -/
def outside : List Piece → List Char
  | [] => []
  | .char c :: ps => c :: outside ps
  | .variable _ :: ps => outside ps

/-- A text is filled up to another one by other characters than braces. -/
inductive Fills : List Char → List Char → Prop where
  | nil : Fills [] []
  | keep (c : Char) {o r : List Char} (rest : Fills o r) : Fills (c :: o) (c :: r)
  | add {c : Char} {o r : List Char} (inner : isInner c) (rest : Fills o r) : Fills o (c :: r)

namespace Fills

theorem append {o r t : List Char} (inner : ∀ c ∈ t, isInner c) (rest : Fills o r) :
    Fills o (t ++ r) := by
  induction t with
  | nil => exact rest
  | cons c t ih =>
    obtain ⟨first, others⟩ := List.forall_mem_cons.mp inner
    exact .add first (ih others)

/-- A text that is filled up to two texts next to each other consists of two such texts. -/
theorem split {b : List Char} :
    ∀ {a o : List Char}, Fills o (a ++ b) → ∃ oa ob, o = oa ++ ob ∧ Fills oa a ∧ Fills ob b
  | [], o, fills => ⟨[], o, rfl, .nil, fills⟩
  | c :: a, o, fills => by
    cases fills with
    | keep _ rest =>
      obtain ⟨oa, ob, rfl, front, back⟩ := split rest
      exact ⟨c :: oa, ob, rfl, .keep c front, back⟩
    | add inner rest =>
      obtain ⟨oa, ob, rfl, front, back⟩ := split rest
      exact ⟨oa, ob, rfl, .add inner front, back⟩

/-- A brace is not filled in. -/
theorem brace {c : Char} {o r : List Char} (fills : Fills o (c :: r)) (brace : ¬ isInner c) :
    ∃ o', o = c :: o' ∧ Fills o' r := by
  cases fills with
  | keep _ rest => exact ⟨_, rfl, rest⟩
  | add inner _ => exact absurd inner brace

theorem count_brace {o r : List Char} (fills : Fills o r) : r.count '\x7b' = o.count '\x7b' := by
  induction fills with
  | nil => rfl
  | keep c _ ih => rw [List.count_cons, List.count_cons, ih]
  | @add c o r inner _ ih =>
    have other : c ≠ '\x7b' := by
      rintro rfl
      cases inner
    rw [List.count_cons_of_ne other, ih]

end Fills

/-- Two braces open somewhere in a text, and two close somewhere behind them. -/
def Encloses (cs : List Char) : Prop :=
  ∃ before inner after,
    cs = before ++ '\x7b' :: '\x7b' :: (inner ++ '\x7d' :: '\x7d' :: after)

/-- Text is enclosed only by braces that were next to each other before. -/
theorem Fills.encloses {o r : List Char} (fills : Fills o r) (encloses : Encloses r) :
    Encloses o := by
  obtain ⟨before, inner, after, rfl⟩ := encloses
  obtain ⟨before', o₁, rfl, -, fills₁⟩ := fills.split
  obtain ⟨o₂, rfl, fills₂⟩ := fills₁.brace (by decide)
  obtain ⟨o₃, rfl, fills₃⟩ := fills₂.brace (by decide)
  obtain ⟨inner', o₄, rfl, -, fills₄⟩ := fills₃.split
  obtain ⟨o₅, rfl, fills₅⟩ := fills₄.brace (by decide)
  obtain ⟨after', rfl, -⟩ := fills₅.brace (by decide)
  exact ⟨before', inner', after', rfl⟩

/-- Where every path leads to a braceless value, pieces are shown, and they are shown as what is
    outside of their markers, filled up. -/
theorem renderPieces_fills {vars : Entries} (braceless : ∀ path, IsBraceless (lookup vars path)) :
    ∀ ps : List Piece, ∃ r, renderPieces vars ps = .ok r ∧ Fills (outside ps) r
  | [] => ⟨[], rfl, .nil⟩
  | .char c :: ps => by
    obtain ⟨r, rendered, fills⟩ := renderPieces_fills braceless ps
    exact ⟨c :: r, by rw [renderPieces, rendered]; rfl, .keep c fills⟩
  | .variable path :: ps => by
    obtain ⟨r, rendered, fills⟩ := renderPieces_fills braceless ps
    obtain ⟨s, shown, inner⟩ := braceless path
    exact ⟨s.toList ++ r, by rw [renderPieces, shown, rendered]; rfl, fills.append inner⟩

/-! ## Markers enclose text -/

namespace Piece

/-- A variable marker starts with two braces, and there are two closing ones behind them. -/
theorem braces_of_markerAt? {cs : List Char} {p : List Char × Nat}
    (found : markerAt? cs = some p) :
    ∃ inner after, cs = '\x7b' :: '\x7b' :: (inner ++ '\x7d' :: '\x7d' :: after) := by
  have closed {close ds : List Char} {braces : Nat}
      (before : pathBefore ('\x7d' :: '\x7d' :: close) braces ds = some p) :
      ∃ inner after, ds = inner ++ '\x7d' :: '\x7d' :: after := by
    rw [pathBefore] at before
    split at before
    · rename_i follows
      obtain ⟨after, rest⟩ := follows
      refine ⟨ds.takeWhile isInner, close ++ after, ?_⟩
      calc ds = ds.takeWhile isInner ++ ds.dropWhile isInner := List.takeWhile_append_dropWhile.symm
        _ = _ := by rw [← rest]; rfl
    · cases before
  rcases braces_cases cs with ⟨ds, rfl⟩ | ⟨ds, other, rfl⟩ | fewer
  · rw [markerAt?_three] at found
    obtain ⟨inner, after, rfl⟩ := closed found
    exact ⟨'\x7b' :: inner, after, rfl⟩
  · rw [markerAt?_two other] at found
    obtain ⟨inner, after, rfl⟩ := closed found
    exact ⟨inner, after, rfl⟩
  · rw [markerAt?_other fewer] at found
    cases found

theorem encloses_of_mem {path : List Char} :
    ∀ {cs : List Char} {skip : Nat}, .variable path ∈ listFrom skip cs → Encloses cs := by
  intro cs
  induction cs with
  | nil =>
    intro skip among
    cases skip <;> cases among
  | cons c cs ih =>
    have later {skip : Nat} (among : .variable path ∈ listFrom skip cs) : Encloses (c :: cs) := by
      obtain ⟨before, inner, after, rfl⟩ := ih among
      exact ⟨c :: before, inner, after, rfl⟩
    intro skip among
    cases skip with
    | succ skip => exact later among
    | zero =>
      rw [listFrom] at among
      split at among
      · rename_i found
        obtain ⟨inner, after, whole⟩ := braces_of_markerAt? found
        exact ⟨[], inner, after, whole⟩
      · rcases List.mem_cons.mp among with other | among
        · cases other
        · exact later among

/-- A text without variable markers consists of its characters. -/
theorem ofText_of_no_variable {cs : List Char} (none : ∀ path, .variable path ∉ ofText cs) :
    ofText cs = cs.map .char := by
  induction cs with
  | nil => rfl
  | cons c cs ih =>
    rw [ofText, listFrom] at none ⊢
    split at none
    · rename_i path _ _
      exact absurd List.mem_cons_self (none path)
    · have rest := ih fun path among => none path (List.mem_cons_of_mem _ among)
      rw [ofText] at rest
      rw [rest, List.map_cons]

/-- There are no more braces outside of markers than in the text. -/
theorem count_outside_le : ∀ (cs : List Char) (skip : Nat),
    (outside (listFrom skip cs)).count '\x7b' ≤ cs.count '\x7b' := by
  intro cs
  induction cs with
  | nil =>
    intro skip
    cases skip <;> exact Nat.le_refl _
  | cons c cs ih =>
    intro skip
    cases skip with
    | succ skip => exact (ih skip).trans (List.count_le_count_cons)
    | zero =>
      rw [listFrom]
      split
      · exact (ih _).trans List.count_le_count_cons
      · rw [outside, List.count_cons, List.count_cons]
        have := ih 0
        omega

/-- A marker has braces of its own. -/
theorem count_outside_lt {path : List Char} :
    ∀ {cs : List Char} {skip : Nat}, .variable path ∈ listFrom skip cs →
      (outside (listFrom skip cs)).count '\x7b' < cs.count '\x7b' := by
  intro cs
  induction cs with
  | nil =>
    intro skip among
    cases skip <;> cases among
  | cons c cs ih =>
    intro skip among
    cases skip with
    | succ skip => exact (ih among).trans_le List.count_le_count_cons
    | zero =>
      rw [listFrom] at among ⊢
      cases found : markerAt? (c :: cs) with
      | some p =>
        obtain ⟨inner, after, whole⟩ := braces_of_markerAt? found
        obtain ⟨rfl, -⟩ := List.cons.inj whole
        rw [outside, List.count_cons_self]
        exact Nat.lt_succ_of_le (count_outside_le cs _)
      | none =>
        rw [found] at among
        rcases List.mem_cons.mp among with other | among
        · cases other
        · rw [outside, List.count_cons, List.count_cons]
          have := ih among
          omega

end Piece

theorem encloses_of_find? {cs : List Char} {marker : CallMarker}
    (found : CallMarker.find? cs = some marker) : Encloses cs := by
  obtain ⟨rest, whole, starts⟩ := CallMarker.find?_eq_some found
  obtain ⟨o, ds, args, -, rfl, ended, -⟩ := CallMarker.exists_opening starts
  obtain ⟨trail, rfl⟩ := argumentsEnd?_eq_some ended
  refine ⟨marker.before, o.lead ++ '$' :: (o.head ++ (args ++ trail)), marker.after, ?_⟩
  rw [whole]
  simp [Opening.text]

/-- A text shows itself if there are no variable markers in it, and only then: the braces of a
    marker are not shown. -/
theorem interpolate_eq_self_iff {vars : Entries}
    (braceless : ∀ path, IsBraceless (lookup vars path)) {cs : List Char} :
    interpolate vars cs = .ok cs ↔ ∀ path, .variable path ∉ Piece.ofText cs := by
  constructor
  · intro same path among
    obtain ⟨r, rendered, fills⟩ := renderPieces_fills braceless (Piece.ofText cs)
    rw [interpolate, rendered] at same
    cases same
    have fewer := Piece.count_outside_lt among
    rw [← Piece.ofText, ← fills.count_brace] at fewer
    exact lt_irrefl _ fewer
  · intro none
    rw [interpolate, Piece.ofText_of_no_variable none, renderPieces_chars]

/-- If what is outside of the markers of a text encloses nothing, then there are no markers in what
    is shown. -/
theorem markerless_of_filled {vars : Entries}
    (braceless : ∀ path, IsBraceless (lookup vars path)) {cs r : List Char}
    (bare : ¬ Encloses (outside (Piece.ofText cs))) (shown : interpolate vars cs = .ok r) :
    CallMarker.find? r = none ∧ ∀ path, .variable path ∉ Piece.ofText r := by
  obtain ⟨r', rendered, fills⟩ := renderPieces_fills braceless (Piece.ofText cs)
  rw [interpolate, rendered] at shown
  cases shown
  constructor
  · rw [Option.eq_none_iff_forall_ne_some]
    intro marker found
    exact bare (fills.encloses (encloses_of_find? found))
  · intro path among
    exact bare (fills.encloses (Piece.encloses_of_mem among))

end SessionScript.Template
