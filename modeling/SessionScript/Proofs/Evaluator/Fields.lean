import SessionScript.Evaluator.Format.Fields
import SessionScript.Proofs.Evaluator.Formats
import SessionScript.Proofs.Evaluator.Methods

/-!
# Fields at other places

A text with fields takes the same values from its arguments wherever cells stand.
-/

namespace SessionScript.Evaluator.Field

variable {m : Move}

/-! ## Reading fields -/

theorem readName_agree : (n : Nat) → (acc cs : List Char) →
    Agree m (readName n acc cs) (readName n acc cs)
  | 0, _, _ => .pure (by simp)
  | _ + 1, _, [] => .pure (by simp)
  | n + 1, acc, c :: cs => by
    refine .ite Iff.rfl (fun _ => .valueError) fun _ => ?_
    refine .ite Iff.rfl (fun _ => .pure (by simp)) fun _ => ?_
    exact .ite Iff.rfl (fun _ => readName_agree n _ _) fun _ => readName_agree n _ _

theorem readSpec_agree : (depth : Nat) → (acc cs : List Char) →
    Agree m (readSpec depth acc cs) (readSpec depth acc cs)
  | _, _, [] => .valueError
  | depth, acc, c :: cs => by
    refine .ite Iff.rfl (fun _ => ?_) fun _ => readSpec_agree _ _ cs
    cases depth with
    | zero => exact .pure rfl
    | succ d => exact readSpec_agree d _ cs

theorem read_agree (cs : List Char) : Agree m (read cs) (read cs) := by
  refine (readName_agree _ [] cs).bind fun p => ?_
  obtain ⟨name, ending, cs⟩ := p
  simp only [moved_pair, moved_constant, moved_constant?]
  split
  · exact .valueError
  · split
    · exact .valueError
    · exact (readSpec_agree 0 [] _).bind fun _ => .pure rfl
    · refine .ite Iff.rfl (fun _ => .pure rfl) fun _ => ?_
      exact .ite Iff.rfl (fun _ => .valueError) fun _ => .valueError
  · exact (readSpec_agree 0 [] cs).bind fun _ => .pure rfl
  · exact .pure rfl

/-! ## Replacing fields -/

theorem follow_agree : (n : Nat) → (d : Datum) → (cs : List Char) →
    Agree m (follow n d cs) (follow n (moved m.put d) cs)
  | 0, _, _ => .pure rfl
  | _ + 1, _, [] => .pure rfl
  | n + 1, d, c :: cs => by
    by_cases dot : c = '.'
    · subst dot
      refine .guard ?_
      exact (Method.memberOf_agree d _).bind fun d => follow_agree n d _
    by_cases bracket : c = '['
    · subst bracket
      simp only [follow]
      split
      · exact .valueError
      · refine .guard ?_
        split
        · exact (Datum.item_agree d (.int _)).bind fun d => follow_agree n d _
        · exact (Datum.item_agree d (.ofChars _)).bind fun d => follow_agree n d _
    · have ending (d : Datum) : follow (n + 1) d (c :: cs) =
          Work.valueError "Only '.' or '[' may follow ']' in format field specifier" := by
        rw [follow.eq_5] <;> grind
      rw [ending, ending]
      exact .valueError

theorem first_agree (args : Args) (mapping : Option Datum) (name : List Char)
    (numbering : Numbering) :
    Agree m (first args mapping name numbering)
      (first (moved m.put args) (moved m.put mapping) name numbering) := by
  unfold first
  extract_lets place place'
  have same (i : Nat) : Agree m (place i) (place' i) := by
    simp only [place, place', moved_option, Option.isSome_map, Args.moved_positional,
      List.getElem?_map]
    refine .guard ?_
    cases args.positional[i]? with
    | some d => exact .pure rfl
    | none => exact .raise
  split
  · exact .valueError
  · exact (same 0).bind fun _ => .pure rfl
  · exact (same _).bind fun _ => .pure rfl
  · split
    · exact .valueError
    · exact (same _).bind fun _ => .pure rfl
    · cases mapping with
      | some d => exact (Datum.item_agree d (.text _)).bind fun _ => .pure rfl
      | none =>
        simp only [moved_option, Option.map_none, Args.moved_named, lookup_moved]
        cases args.named.lookup (String.ofList name) with
        | some d => exact .pure rfl
        | none => exact .throw rfl

theorem value_agree (f : Field) (args : Args) (mapping : Option Datum) (numbering : Numbering) :
    Agree m (f.value args mapping numbering)
      (f.value (moved m.put args) (moved m.put mapping) numbering) := by
  refine (first_agree args mapping _ numbering).bind fun p => ?_
  exact (follow_agree _ p.1 _).bind fun _ => .pure rfl

theorem convert_agree (conversion : Option Char) (d : Datum) :
    Agree m (convert conversion d) (convert conversion (moved m.put d)) := by
  unfold convert
  split
  · exact .pure rfl
  · exact (Datum.plainText_agree d).bind fun _ => .pure rfl
  · exact (Datum.shown_agree d).bind fun _ => .pure rfl
  · exact (Datum.asciiText_agree d).bind fun _ => .pure rfl
  · exact .valueError

theorem fill_agree (args : Args) (mapping : Option Datum) :
    (depth n : Nat) → (numbering : Numbering) → (cs : List Char) →
    Agree m (fill args mapping depth n numbering cs)
      (fill (moved m.put args) (moved m.put mapping) depth n numbering cs)
  | _, 0, _, _ => .pure rfl
  | _, _ + 1, _, [] => .pure rfl
  | depth, n + 1, numbering, c :: cs => by
    simp only [fill]
    refine .ite Iff.rfl (fun _ => ?_) fun _ => ?_
    · refine .ite Iff.rfl (fun _ => ?_) fun _ => ?_
      · exact (fill_agree args mapping depth n numbering _).bind fun _ => .pure rfl
      refine .ite Iff.rfl (fun _ => .valueError) fun _ => ?_
      refine .ite Iff.rfl (fun _ => .valueError) fun _ => ?_
      cases depth with
      | zero => exact .valueError
      | succ d =>
        refine (read_agree cs).bind fun p => ?_
        refine (value_agree p.1 args mapping numbering).bind fun v => ?_
        refine (convert_agree p.1.conversion v.1).bind fun w => ?_
        refine (fill_agree args mapping d n v.2 p.1.spec).bind fun s => ?_
        refine (Datum.format_agree w _).bind fun here => ?_
        exact (fill_agree args mapping (d + 1) n s.2 p.2).bind fun _ => .pure rfl
    · exact (fill_agree args mapping depth n numbering cs).bind fun _ => .pure rfl
termination_by _ n => n

theorem format_agree (text : String) (args : Args) (mapping : Option Datum) :
    Agree m (format text args mapping) (format text (moved m.put args) (moved m.put mapping)) :=
  (fill_agree args mapping 2 _ .open _).bind fun _ => .pure rfl

end SessionScript.Evaluator.Field
