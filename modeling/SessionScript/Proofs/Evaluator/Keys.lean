import SessionScript.Proofs.Evaluator.Agreement

/-!
# Keys at other places

Whether two values are the same key does not depend on where cells stand, as long as different cells
stand at different places. So mappings and sets stay the same mappings and sets.
-/

namespace SessionScript.Evaluator

variable {m : Move} {s t : Store}

namespace Datum

mutual

theorem sameKey_moved : (a b : Datum) →
    (moved m.put a).sameKey (moved m.put b) = a.sameKey b
  | .tuple xs, b => by
    cases b <;> simp only [moved_tuple, sameKey, sameKeys_moved xs] <;> rfl
  | .slice x y z, b => by
    cases b <;> simp only [moved_slice, sameKey, sameKey_moved x, sameKey_moved y,
      sameKey_moved z] <;> rfl
  | .cell x, b => by
    cases b <;> simp only [moved_cell, sameKey, m.put_beq] <;> rfl
  | .view k x, b => by
    cases b <;> simp only [moved_view, sameKey, m.put_beq] <;> rfl
  | .method o name, b => by
    cases b <;> simp only [moved_method, sameKey, sameKey_moved o] <;> rfl
  | .error k xs, b => by
    cases b <;> simp only [moved_error, sameKey, sameKeys_moved xs] <;> rfl
  | .none, b | .bool _, b | .int _, b | .float _, b | .complex _ _, b | .text _, b | .bytes _, b
  | .ellipsis, b | .range _ _ _, b | .type _, b | .builtin _, b | .unbound _ _, b => by
    cases b <;> rfl
  | .host v, b => by cases b <;> cases v <;> rfl

theorem sameKeys_moved : (xs ys : List Datum) →
    sameKeys (xs.map (moved m.put)) (ys.map (moved m.put)) = sameKeys xs ys
  | [], ys => by cases ys <;> rfl
  | x :: xs, [] => rfl
  | x :: xs, y :: ys => by
    simp only [List.map_cons, sameKeys, sameKey_moved x, sameKeys_moved xs]

end

theorem isSame_moved (a b : Datum) : (moved m.put a).isSame (moved m.put b) = a.isSame b := by
  have same := sameKey_moved (m := m) a b
  cases a <;> cases b <;> first | exact same | rfl

theorem integer?_moved (d : Datum) : (moved m.put d).integer? = d.integer? := by cases d <;> rfl

theorem cellType_moved (c : Cell) : cellType (moved m.put c) = cellType c := by
  cases c with
  | iterator it =>
    cases it with
    | dict kind => cases kind <;> rfl
    | _ => rfl
  | _ => rfl

theorem typeIn_moved (h : m.Shows s t) (d : Datum) : (moved m.put d).typeIn t = d.typeIn s := by
  cases d with
  | cell a => simp only [moved_cell, typeIn, h.getD, cellType_moved]
  | _ => rfl

theorem typeName_agree (d : Datum) : Agree m d.typeName (moved m.put d).typeName :=
  Agree.get_bind fun _ _ st => .pure (typeIn_moved st d)

mutual

theorem unhashable?_moved (h : m.Shows s t) :
    (d : Datum) → (moved m.put d).unhashable? t = d.unhashable? s
  | .cell a => by
    simp only [moved_cell, unhashable?, h.getD]
    cases s.cells.getD a (.names []) with
    | set ms frozen => cases frozen <;> rfl
    | _ => rfl
  | .tuple xs => by rw [moved_tuple, unhashable?, anyUnhashable?_moved h xs, unhashable?]
  | .view kind _ => by cases kind <;> rfl
  | .none | .bool _ | .int _ | .float _ | .complex _ _ | .text _ | .bytes _ | .ellipsis
  | .range _ _ _ | .slice _ _ _ | .type _ | .builtin _ | .method _ _ | .unbound _ _ | .error _ _
  | .host _ => rfl

theorem anyUnhashable?_moved (h : m.Shows s t) :
    (ds : List Datum) → anyUnhashable? t (ds.map (moved m.put)) = anyUnhashable? s ds
  | [] => rfl
  | d :: ds => by
    simp only [List.map_cons, anyUnhashable?, unhashable?_moved h d, anyUnhashable?_moved h ds]

end

theorem needKey_agree (d : Datum) : Agree m d.needKey (moved m.put d).needKey := by
  refine Agree.get_bind fun s t st => ?_
  rw [unhashable?_moved st]
  cases d.unhashable? s with
  | some name => exact .typeError
  | none => exact .pure rfl

end Datum

/-! ## Mappings -/

namespace Pairs

theorem get?_moved (es : Pairs) (key : Datum) :
    Pairs.get? (es.map (moved m.put)) (moved m.put key) = (es.get? key).map (moved m.put) := by
  induction es with
  | nil => rfl
  | cons e es ih =>
    simp only [List.map_cons, moved_pair, get?, Datum.sameKey_moved, ih]
    split <;> rfl

theorem put_moved (es : Pairs) (key value : Datum) :
    Pairs.put (es.map (moved m.put)) (moved m.put key) (moved m.put value) =
      (es.put key value).map (moved m.put) := by
  induction es with
  | nil => rfl
  | cons e es ih =>
    simp only [List.map_cons, moved_pair, put, Datum.sameKey_moved, ih]
    split <;> rfl

theorem erase_moved (es : Pairs) (key : Datum) :
    Pairs.erase (es.map (moved m.put)) (moved m.put key) = (es.erase key).map (moved m.put) := by
  induction es with
  | nil => rfl
  | cons e es ih =>
    simp only [List.map_cons, moved_pair, erase, Datum.sameKey_moved, ih]
    split <;> rfl

end Pairs

/-! ## Sets -/

namespace Members

theorem has_moved (ms : Members) (d : Datum) :
    Members.has (ms.map (moved m.put)) (moved m.put d) = ms.has d := by
  simp only [has, List.any_map, Function.comp_def, Datum.sameKey_moved]

theorem add_moved (ms : Members) (d : Datum) :
    Members.add (ms.map (moved m.put)) (moved m.put d) = (ms.add d).map (moved m.put) := by
  simp only [add, has_moved]
  split
  · rfl
  · rw [List.map_append, List.map_singleton]

theorem foldl_add_moved (ms ns : Members) :
    (ns.map (moved m.put)).foldl Members.add (ms.map (moved m.put)) =
      (ns.foldl Members.add ms).map (moved m.put) := by
  induction ns generalizing ms with
  | nil => rfl
  | cons n ns ih => rw [List.map_cons, List.foldl_cons, List.foldl_cons, add_moved, ih]

theorem erase_moved (ms : Members) (d : Datum) :
    Members.erase (ms.map (moved m.put)) (moved m.put d) = (ms.erase d).map (moved m.put) := by
  induction ms with
  | nil => rfl
  | cons n ms ih =>
    simp only [List.map_cons, erase, Datum.sameKey_moved, ih]
    split <;> rfl

theorem ofList_moved (ds : List Datum) :
    ofList (ds.map (moved m.put)) = (ofList ds).map (moved m.put) := foldl_add_moved [] ds

theorem filter_has_moved (ms ns : Members) :
    (ms.map (moved m.put)).filter (Members.has (ns.map (moved m.put))) =
      (ms.filter ns.has).map (moved m.put) := by
  rw [List.filter_map]
  exact congrArg _ (List.filter_congr fun d _ => has_moved ns d)

theorem filter_not_has_moved (ms ns : Members) :
    ((ms.map (moved m.put)).filter fun d => !Members.has (ns.map (moved m.put)) d) =
      (ms.filter fun d => !ns.has d).map (moved m.put) := by
  rw [List.filter_map]
  exact congrArg _ (List.filter_congr fun d _ => congrArg _ (has_moved ns d))

theorem subset_moved (ms ns : Members) :
    Members.subset (ms.map (moved m.put)) (ns.map (moved m.put)) = ms.subset ns := by
  simp only [subset, List.all_map, Function.comp_def, has_moved]

theorem inOrder_moved (ms : Members) :
    Members.inOrder (ms.map (moved m.put)) = (ms.inOrder).map (moved m.put) := by
  refine (List.map_mergeSort fun a _ b _ => ?_).symm
  simp only [comesBefore, Datum.integer?_moved]

end Members

end SessionScript.Evaluator
