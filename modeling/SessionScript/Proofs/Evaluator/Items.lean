import SessionScript.Evaluator.Item
import SessionScript.Proofs.Evaluator.Texts

/-!
# Items at other places

Taking arguments, and reading, replacing and removing the items of containers, is the same wherever
cells stand.
-/

namespace SessionScript.Evaluator

variable {m : Move}

namespace Args

theorem none_agree (owner : String) (args : Args) :
    Agree m (args.none owner) ((moved m.put args).none owner) := by
  simp only [none, moved_positional, moved_named, List.isEmpty_map, List.length_map]
  exact .guard (.ite Iff.rfl (fun _ => .typeError) fun _ => .pure rfl)

theorem one_agree (owner : String) (args : Args) :
    Agree m (args.one owner) ((moved m.put args).one owner) := by
  simp only [one, moved_positional, moved_named, List.isEmpty_map]
  refine .guard ?_
  rcases args.positional with _ | ⟨d, _ | ⟨d', ds⟩⟩
  case cons.nil => exact .pure rfl
  all_goals
    simp only [List.map_nil, List.map_cons, List.length_nil, List.length_cons, List.length_map]
    exact .typeError

theorem between_agree (name : String) (least most : Nat) (args : Args) :
    Agree m (args.between name least most) ((moved m.put args).between name least most) := by
  simp only [between, moved_positional, moved_named, List.isEmpty_map, List.length_map]
  exact .guard (.guard (.pure rfl))

theorem byName_agree (name : String) (names : List String) (args : Args) :
    Agree m (args.byName name names) ((moved m.put args).byName name names) := by
  simp only [byName, moved_positional, moved_named, List.length_map, List.find?_map,
    Function.comp_def, moved_pair, moved_constant]
  refine .guard ?_
  split
  · next wrong =>
    simp only [wrong]
    exact .raise
  next right =>
  simp only [right]
  split
  · next twice =>
    simp only [twice]
    exact .raise
  next once =>
  simp only [once]
  refine .pure ?_
  simp only [moved_list, List.map_map, Function.comp_def, List.getElem?_map, lookup_moved]
  refine List.map_congr_left fun p _ => ?_
  cases args.positional[p.2]? <;> rfl

theorem integer_agree (d : Datum) : Agree m (integer d) (integer (moved m.put d)) := by
  simp only [integer, Datum.integer?_moved]
  cases d.integer? with
  | some i => exact .pure rfl
  | none => exact (Datum.typeName_agree d).bind fun _ => .typeError

end Args

namespace Datum

theorem sliceBound_agree (d : Datum) : Agree m d.sliceBound (moved m.put d).sliceBound := by
  cases d <;> first | exact .pure rfl | exact .typeError

theorem stretch_agree (length : Nat) (low high step : Datum) :
    Agree m (stretch length low high step)
      (stretch length (moved m.put low) (moved m.put high) (moved m.put step)) := by
  refine (sliceBound_agree step).bind fun s => ?_
  simp only [moved_option, moved_constant_eq_id, Option.map_id, id]
  have rest : Agree m
      (do let l ← sliceBound low
          let h ← sliceBound high
          return Stretch.of length l h (s.getD 1))
      (do let l ← sliceBound (moved m.put low)
          let h ← sliceBound (moved m.put high)
          return Stretch.of length l h (s.getD 1)) :=
    (sliceBound_agree low).bind fun l => (sliceBound_agree high).bind fun h =>
      .pure (by simp)
  exact .guard rest

theorem pick_moved {α : Type} [Movable α] (s : Stretch) (xs : List α) :
    s.pick (xs.map (moved m.put)) = (s.pick xs).map (moved m.put) := by
  unfold Stretch.pick
  split
  · rw [List.map_take, List.map_drop]
  · simp only [List.getElem?_toArray, List.getElem?_map, List.map_filterMap]

theorem pickFrom_agree {α : Type} [Movable α] (kind outOfRange : String) (xs : List α)
    {one one' : α → Work Datum} {many many' : List α → Work Datum} (key : Datum)
    (hone : ∀ x, Agree m (one x) (one' (moved m.put x)))
    (hmany : ∀ xs, Agree m (many xs) (many' (xs.map (moved m.put)))) :
    Agree m (pickFrom kind outOfRange xs one many key)
      (pickFrom kind outOfRange (xs.map (moved m.put)) one' many' (moved m.put key)) := by
  cases key with
  | slice low high step =>
    simp only [moved_slice, pickFrom, List.length_map]
    refine (stretch_agree xs.length low high step).bind fun s => ?_
    rw [moved_constant, pick_moved]
    exact hmany _
  | int | bool =>
    simp only [pickFrom, moved_int, moved_bool, integer?, List.length_map]
    cases position? xs.length _ with
    | none => exact .raise
    | some k =>
      simp only [Option.bind_some, List.getElem?_map]
      cases xs[k]? with
      | none => exact .raise
      | some x => exact hone x
  | _ =>
    exact .ite Iff.rfl (fun _ => (typeName_agree _).bind fun _ => .typeError) fun _ =>
      (typeName_agree _).bind fun _ => .typeError

/-- Items that mention no cells. -/
theorem pickFrom_agree_plain {α : Type} (kind outOfRange : String) (xs : List α)
    {one : α → Work Datum} {many : List α → Work Datum} (key : Datum)
    (hone : ∀ x, Agree m (one x) (one x)) (hmany : ∀ xs, Agree m (many xs) (many xs)) :
    Agree m (pickFrom kind outOfRange xs one many key)
      (pickFrom kind outOfRange xs one many (moved m.put key)) := by
  have same (xs : List α) : xs.map (@moved α Movable.constant m.put) = xs := by simp
  have picks := @pickFrom_agree m α Movable.constant kind outOfRange xs one one many many key hone
    fun xs => by rw [same]; exact hmany xs
  rwa [same] at picks

theorem rangeItem_agree (a b c : Int) (key : Datum) :
    Agree m (rangeItem a b c key) (rangeItem a b c (moved m.put key)) := by
  cases key with
  | slice low high step =>
    exact (stretch_agree _ low high step).bind fun _ => .pure rfl
  | int | bool =>
    simp only [rangeItem, moved_int, moved_bool, integer?]
    split
    · exact .pure rfl
    · exact .raise
  | _ => exact (typeName_agree _).bind fun _ => .typeError

theorem item_agree (d key : Datum) :
    Agree m (d.item key) ((moved m.put d).item (moved m.put key)) := by
  cases d with
  | text s => exact pickFrom_agree_plain _ _ _ key (fun _ => .pure rfl) fun _ => .pure rfl
  | bytes b => exact pickFrom_agree_plain _ _ _ key (fun _ => .pure rfl) fun _ => .pure rfl
  | tuple xs =>
    simp only [moved_tuple, item]
    exact pickFrom_agree _ _ xs key (fun _ => .pure rfl) fun xs => .pure (moved_tuple xs).symm
  | range a b c => exact rangeItem_agree a b c key
  | type name =>
    exact .ite Iff.rfl (fun _ => (shown_agree key).bind fun _ => .pure rfl) fun _ => .typeError
  | cell a =>
    refine (Agree.read a).bind fun c => ?_
    cases c with
    | list xs =>
      simp only [Cell.moved_list, integer?_moved, Array.size_map, Array.toList_map]
      cases key.integer? with
      | none => exact pickFrom_agree _ _ _ key (fun _ => .pure rfl) .newList
      | some i =>
        dsimp only
        cases position? xs.size i with
        | none => exact .raise
        | some k =>
          simp only [Option.bind_some, Array.getElem?_map]
          cases xs[k]? with
          | none => exact .raise
          | some x => exact .pure rfl
    | dict es =>
      refine (needKey_agree key).bind fun _ => ?_
      rw [moved_list, Pairs.get?_moved]
      cases Pairs.get? es key with
      | none => exact .throw rfl
      | some v => exact .pure rfl
    | _ => exact (typeName_agree (.cell a)).bind fun _ => .typeError
  | _ => exact (typeName_agree _).bind fun _ => .typeError

theorem foldl_setIfInBounds_moved (xs : Array Datum) (changes : List (Nat × Datum)) :
    (changes.map fun p => (p.1, moved m.put p.2)).foldl (fun acc p => acc.setIfInBounds p.1 p.2)
        (xs.map (moved m.put)) =
      (changes.foldl (fun acc p => acc.setIfInBounds p.1 p.2) xs).map (moved m.put) := by
  induction changes generalizing xs with
  | nil => rfl
  | cons p changes ih =>
    simp only [List.map_cons, List.foldl_cons]
    rw [← Array.map_setIfInBounds, ih]

theorem replaceSlice_agree (sl : Stretch) (xs : Array Datum) (news : List Datum) :
    Agree m (replaceSlice sl xs news)
      (replaceSlice sl (xs.map (moved m.put)) (news.map (moved m.put))) := by
  simp only [replaceSlice, Array.toList_map, List.length_map]
  refine .ite Iff.rfl (fun _ => .pure (by simp)) fun _ =>
    .ite Iff.rfl (fun _ => .valueError) fun _ => .pure ?_
  rw [List.zip_map_right]
  exact foldl_setIfInBounds_moved xs _

theorem setItem_agree (d key value : Datum) :
    Agree m (d.setItem key value)
      ((moved m.put d).setItem (moved m.put key) (moved m.put value)) := by
  cases d with
  | cell a =>
    refine (Agree.read a).bind fun c => ?_
    cases c with
    | list xs =>
      cases key with
      | int | bool =>
        simp only [Cell.moved_list, moved_int, moved_bool, integer?, Array.size_map]
        split
        · rw [← Array.map_setIfInBounds]
          exact .write a (.list _)
        · exact .raise
      | slice low high step =>
        simp only [moved_slice, Cell.moved_list, Array.size_map]
        refine (stretch_agree xs.size low high step).bind fun s => ?_
        cases value with
        | tuple news =>
          rw [moved_tuple]
          exact (replaceSlice_agree s xs news).bind fun ys => .write a (.list ys)
        | _ => exact .typeError
      | _ => exact (typeName_agree _).bind fun _ => .typeError
    | dict es =>
      refine (needKey_agree key).bind fun _ => ?_
      have := Agree.write (m := m) a (.dict (Pairs.put es key value))
      rwa [Cell.moved_dict, ← Pairs.put_moved] at this
    | _ => exact (typeName_agree (.cell a)).bind fun _ => .typeError
  | _ => exact (typeName_agree _).bind fun _ => .typeError

theorem withoutPositions_moved (gone : List Nat) (xs : List Datum) :
    withoutPositions gone (xs.map (moved m.put)) = (withoutPositions gone xs).map (moved m.put) := by
  simp only [withoutPositions, List.zipIdx_map, List.filter_map, List.map_map]
  rfl

theorem deleteItem_agree (d key : Datum) :
    Agree m (d.deleteItem key) ((moved m.put d).deleteItem (moved m.put key)) := by
  cases d with
  | cell a =>
    refine (Agree.read a).bind fun c => ?_
    cases c with
    | list xs =>
      have cut (gone : List Nat) : Agree m
          (Work.write a (.list (withoutPositions gone xs.toList).toArray))
          (Work.write (m.put a)
            (.list (withoutPositions gone (xs.map (moved m.put)).toList).toArray)) := by
        rw [Array.toList_map, withoutPositions_moved, ← List.map_toArray]
        exact .write a (.list _)
      cases key with
      | int | bool =>
        simp only [Cell.moved_list, moved_int, moved_bool, integer?, Array.size_map]
        split
        · exact cut _
        · exact .raise
      | slice low high step =>
        simp only [moved_slice, Cell.moved_list, Array.size_map]
        refine (stretch_agree xs.size low high step).bind fun s => ?_
        exact cut s.positions
      | _ => exact (typeName_agree _).bind fun _ => .typeError
    | dict es =>
      refine (needKey_agree key).bind fun _ => ?_
      rw [moved_list, Pairs.get?_moved, Pairs.erase_moved]
      cases Pairs.get? es key with
      | none => exact .throw rfl
      | some v => exact .write a (.dict _)
    | _ => exact (typeName_agree (.cell a)).bind fun _ => .typeError
  | _ => exact (typeName_agree _).bind fun _ => .typeError

theorem anyCoincides_agree (d : Datum) (ds : List Datum) :
    Agree m (anyCoincides d ds) (anyCoincides (moved m.put d) (ds.map (moved m.put))) := by
  induction ds with
  | nil => exact .pure rfl
  | cons x xs ih =>
    refine (coincides_agree x d).bind fun b => ?_
    cases b with
    | true => exact .pure rfl
    | false => exact ih

theorem has?_agree (container d : Datum) :
    Agree m (container.has? d) ((moved m.put container).has? (moved m.put d)) := by
  have among (xs : List Datum) : Agree m (do return some (← anyCoincides d xs) : Work (Option Bool))
      (do return some (← anyCoincides (moved m.put d) (xs.map (moved m.put)))) :=
    (anyCoincides_agree d xs).bind fun _ => .pure rfl
  have keyIn (es : Pairs) : Agree m
      (do d.needKey; return some (Pairs.get? es d).isSome : Work (Option Bool))
      (do (moved m.put d).needKey
          return some (Pairs.get? (es.map (moved m.put)) (moved m.put d)).isSome) := by
    refine (needKey_agree d).bind fun _ => ?_
    rw [Pairs.get?_moved, Option.isSome_map]
    exact .pure rfl
  cases container with
  | text s =>
    cases d with
    | text t => exact .pure rfl
    | _ => exact (typeName_agree _).bind fun _ => .typeError
  | bytes b =>
    cases d with
    | bytes part => exact .pure rfl
    | int | bool => exact .guard (.pure rfl)
    | _ => exact (typeName_agree _).bind fun _ => .typeError
  | tuple xs =>
    rw [moved_tuple]
    exact among xs
  | range a b c =>
    simp only [moved_range, has?, quantity?_moved]
    rcases d.quantity? with _ | _ | _ | _
    case some.ratio => exact .ite Iff.rfl (fun _ => .pure rfl) fun _ => .pure rfl
    all_goals exact .pure rfl
  | view kind a =>
    cases kind with
    | keys =>
      refine (needKey_agree d).bind fun _ => (Work.entriesOf_agree a).bind fun es => ?_
      rw [moved_list, Pairs.get?_moved, Option.isSome_map]
      exact .pure rfl
    | _ =>
      refine (Work.viewItems_agree _ a).bind fun xs => ?_
      exact among xs
  | cell a =>
    refine (Agree.read a).bind fun c => ?_
    cases c with
    | list xs =>
      have inside := among xs.toList
      rw [← Array.toList_map] at inside
      exact inside
    | dict es => exact keyIn es
    | set ms frozen =>
      have found : Agree m (return some (Members.has ms d) : Work (Option Bool))
          (return some (Members.has (ms.map (moved m.put)) (moved m.put d))) :=
        .pure (by rw [Members.has_moved]; rfl)
      refine (typeName_agree d).bind fun t => ?_
      exact .ite Iff.rfl (fun _ => (needKey_agree d).bind fun _ => found) fun _ => found
    | _ => exact .pure rfl
  | _ => exact .pure rfl

end Datum

end SessionScript.Evaluator
