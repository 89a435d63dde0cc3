import SessionScript.Evaluator.Format.Percent
import SessionScript.Proofs.Evaluator.Operators

/-!
# Laying out at other places

Specifications and conversions lay out values in the same way wherever cells stand.
-/

namespace SessionScript.Evaluator

variable {m : Move}

/-! ## Specifications -/

namespace FormatSpec

theorem layText_agree (sp : FormatSpec) (text : String) :
    Agree m (sp.layText text) (sp.layText text) := by
  simp only [layText]
  refine .guard (.guard (.guard ?_))
  split
  · exact .raise
  split
  · exact .pure rfl
  · exact .pure rfl
  · exact .raise

theorem layInteger_agree (sp : FormatSpec) (kind : Char) (base : Nat) (mark : List Char)
    (size : Nat) (i : Int) :
    Agree m (sp.layInteger kind base mark size i) (sp.layInteger kind base mark size i) := by
  simp only [layInteger]
  refine .guard (.guard (.guard ?_))
  exact .ite Iff.rfl (fun _ => (Datum.decimalText_agree i).bind fun _ => .pure rfl) fun _ =>
    .pure rfl

theorem layFloat_agree (sp : FormatSpec) (x : Binary64) :
    Agree m (sp.layFloat x) (sp.layFloat x) := by
  simp only [layFloat]
  split
  · exact .guard (.pure rfl)
  split
  · exact .guard (.pure rfl)
  · exact .bind .valueError fun _ => .guard (.pure rfl)

theorem layInt_agree (sp : FormatSpec) (i : Int) : Agree m (sp.layInt i) (sp.layInt i) := by
  simp only [layInt]
  split
  · exact layInteger_agree _ _ _ _ _ i
  split
  · exact .guard (.guard (.guard (.guard (.pure rfl))))
  split
  · exact (toFloat_agree i).bind fun x => layFloat_agree sp x
  · exact .valueError

end FormatSpec

theorem Datum.format_agree (d : Datum) (spec : String) :
    Agree m (d.format spec) ((moved m.put d).format spec) := by
  unfold format
  refine .ite Iff.rfl (fun _ => plainText_agree d) fun _ => ?_
  refine (typeName_agree d).bind fun typeName => ?_
  extract_lets read
  have same : Agree m read read := by
    dsimp only [read]
    split
    · exact .pure rfl
    · exact .valueError
  cases d with
  | text t => exact same.bind fun _ => FormatSpec.layText_agree _ t
  | float x => exact same.bind fun _ => FormatSpec.layFloat_agree _ x
  | int | bool => exact same.bind fun _ => FormatSpec.layInt_agree _ _
  | _ => exact .typeError

/-! ## Conversions -/

instance : Movable Arguments where
  places args := places args.left ++ places args.mapping
  moved f args := ⟨moved f args.left, moved f args.mapping⟩
  moved_eq_self {f args} h := by
    simp only [List.mem_append] at h
    rw [Movable.moved_eq_self fun a ha => h a (.inl ha),
      Movable.moved_eq_self fun a ha => h a (.inr ha)]
  moved_moved f g args := by simp only [Movable.moved_moved]

theorem Arguments.moved_left (args : Arguments) :
    (moved m.put args).left = args.left.map (moved m.put) := rfl

theorem Arguments.moved_mapping (args : Arguments) :
    (moved m.put args).mapping = args.mapping.map (moved m.put) := rfl

namespace Conversion

theorem next_agree (args : Arguments) : Agree m (next args) (next (moved m.put args)) := by
  obtain ⟨left, mapping⟩ := args
  cases left with
  | nil => exact .typeError
  | cons d ds => exact .pure rfl

theorem starOrNumber_agree (args : Arguments) (cs : List Char) :
    Agree m (starOrNumber args cs) (starOrNumber (moved m.put args) cs) := by
  unfold starOrNumber
  split
  · refine (next_agree args).bind fun p => ?_
    simp only [moved_pair, Datum.integer?_moved]
    cases p.1.integer? with
    | some i => exact .pure rfl
    | none => exact .typeError
  · exact .pure (by simp)

theorem cutInteger_agree (kind : Char) (d : Datum) :
    Agree m (cutInteger kind d) (cutInteger kind (moved m.put d)) := by
  cases d with
  | float x => exact .guard (.guard (.guard (.pure rfl)))
  | int | bool => exact .pure rfl
  | _ => exact (Datum.typeName_agree _).bind fun _ => .typeError

theorem apply_agree (c : Conversion) (kind : Char) (d : Datum) (position : Nat) :
    Agree m (c.apply kind d position) (c.apply kind (moved m.put d) position) := by
  simp only [apply]
  split
  · exact (Datum.plainText_agree d).bind fun _ => .pure rfl
  · exact (Datum.shown_agree d).bind fun _ => .pure rfl
  · exact (Datum.asciiText_agree d).bind fun _ => .pure rfl
  · cases d with
    | text s => exact .ite Iff.rfl (fun _ => .pure rfl) fun _ => .typeError
    | bool | int => exact .guard (.pure rfl)
    | _ => exact .typeError
  iterate 6
    · refine (cutInteger_agree _ d).bind fun i => ?_
      exact .ite Iff.rfl (fun _ => (Datum.decimalText_agree i).bind fun _ => .pure rfl) fun _ =>
        .pure rfl
  iterate 6
    · refine (Datum.toFloat?_agree d).bind fun x => ?_
      cases x with
      | some x => exact .pure rfl
      | none => exact (Datum.typeName_agree d).bind fun _ => .typeError
  · exact .valueError

end Conversion

namespace Percent

theorem isMapping_agree (d : Datum) : Agree m (isMapping d) (isMapping (moved m.put d)) := by
  cases d with
  | cell a => exact (Agree.read a).bind fun c => by cases c <;> exact .pure rfl
  | _ => exact .pure rfl

theorem named_agree (args : Arguments) (cs : List Char) :
    Agree m (named args cs) (named (moved m.put args) cs) := by
  obtain ⟨left, mapping⟩ := args
  cases mapping with
  | none => exact .typeError
  | some d =>
    have other : Agree m
        (do Work.typeError ((← d.typeName) ++ " indices must be integers or slices, not str") :
          Work (Arguments × List Char))
        (do Work.typeError
              ((← (moved m.put d).typeName) ++ " indices must be integers or slices, not str")) :=
      (Datum.typeName_agree d).bind fun _ => .typeError
    simp only [named, Arguments.moved_mapping, Option.map_some]
    split
    · exact .valueError
    next key rest _ =>
    cases d with
    | cell a =>
      refine (Work.entriesOf_agree a).bind fun es => ?_
      have found := Pairs.get?_moved (m := m) es (Datum.ofChars key)
      simp only [moved_list, Datum.ofChars, Datum.moved_text] at found ⊢
      rw [found]
      cases Pairs.get? es (.text (String.ofList key)) with
      | some d => exact .pure rfl
      | none =>
        refine (Agree.read a).bind fun c => ?_
        cases c with
        | list => exact .typeError
        | _ => exact .throw rfl
    | _ => exact other

theorem conversions_agree : (n total : Nat) → (args : Arguments) → (cs : List Char) →
    Agree m (conversions n total args cs) (conversions n total (moved m.put args) cs)
  | 0, _, _, _ => .pure rfl
  | n + 1, _, _, [] => .pure rfl
  | n + 1, total, args, c :: cs => by
    by_cases percent : c = '%'
    case neg =>
      rw [conversions.eq_5 _ _ _ _ _ percent, conversions.eq_5 _ _ _ _ _ percent]
      exact (conversions_agree n total args cs).bind fun _ => .pure rfl
    subst percent
    -- The rest of a conversion is the same whether or not a name in brackets comes first.
    obtain ⟨rest, rfl⟩ | bare := Classical.em (∃ rest, cs = '(' :: rest)
    case' inl =>
      rw [conversions.eq_3, conversions.eq_3]
      refine (named_agree args rest).bind fun p => ?_
    case' inr =>
      have bare : ∀ rest, cs = '(' :: rest → False := fun rest h => bare ⟨rest, h⟩
      rw [conversions.eq_4 _ _ _ _ bare, conversions.eq_4 _ _ _ _ bare]
      refine Agree.bind (.pure rfl : Agree m (pure (args, cs)) _) fun p => ?_
    all_goals
      obtain ⟨args, cs⟩ := p
      refine (Conversion.starOrNumber_agree args _).bind fun p => ?_
      obtain ⟨width, args, cs⟩ := p
      simp only [moved_pair, moved_constant, moved_option, moved_constant_eq_id, Option.map_id, id_eq]
      split
    any_goals refine (Conversion.starOrNumber_agree args _).bind fun p => ?_
    all_goals
      refine Agree.bind (.pure (by simp)) fun p => ?_
      obtain ⟨precision, args, cs⟩ := p
      simp only [moved_pair, moved_constant, moved_option, moved_constant_eq_id, Option.map_id, id_eq]
      split
      · exact .valueError
      · exact (conversions_agree n total args _).bind fun _ => .pure rfl
      · refine (Conversion.next_agree args).bind fun p => ?_
        refine (Conversion.apply_agree _ _ p.1 _).bind fun here => ?_
        exact (conversions_agree n total p.2 _).bind fun _ => .pure rfl

/-- All arguments are to be used, unless they are a mapping. -/
theorem converted_agree (text : String) (args : Arguments) : Agree m
    (do
      let (out, args) ← conversions (text.toList.length + 1) text.toList.length args text.toList
      if !args.left.isEmpty && args.mapping.isNone then
        Work.typeError "not all arguments converted during string formatting"
      return Datum.ofChars out)
    (do
      let (out, args) ←
        conversions (text.toList.length + 1) text.toList.length (moved m.put args) text.toList
      if !args.left.isEmpty && args.mapping.isNone then
        Work.typeError "not all arguments converted during string formatting"
      return Datum.ofChars out) := by
  refine (conversions_agree _ _ args _).bind fun p => ?_
  simp only [moved_pair, moved_constant, Arguments.moved_left, Arguments.moved_mapping,
    List.isEmpty_map, Option.isNone_map]
  exact .guard (.pure rfl)

theorem apply_agree (text : String) (d : Datum) :
    Agree m (apply text d) (apply text (moved m.put d)) := by
  refine (isMapping_agree d).bind fun mapping => ?_
  cases d with
  | tuple xs =>
    rw [Datum.moved_tuple]
    exact converted_agree text ⟨xs, none⟩
  | _ => cases mapping <;> exact converted_agree text ⟨[_], _⟩

end Percent

theorem Datum.binary_agree (op : Code.BinaryOp) (augmented : Bool) (a b : Datum) :
    Agree m (Datum.binary op augmented a b)
      (Datum.binary op augmented (moved m.put a) (moved m.put b)) := by
  have other := Datum.operate_agree (m := m) op augmented a b
  cases op with
  | mod =>
    cases a with
    | text s => exact Percent.apply_agree s b
    | _ => exact other
  | _ => exact other

end SessionScript.Evaluator
