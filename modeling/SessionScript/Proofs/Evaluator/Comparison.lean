import SessionScript.Proofs.Evaluator.Keys

/-!
# Comparing at other places

Truth, equality and order of values do not depend on where cells stand.
-/

namespace SessionScript.Evaluator

variable {m : Move}

namespace Work

theorem tooDeep_agree {α : Type} [Movable α] (activity : String) :
    Agree m (tooDeep activity : Work α) (tooDeep activity) := .raise

theorem entriesOf_agree (a : Nat) : Agree m (entriesOf a) (entriesOf (m.put a)) := by
  refine (Agree.read a).bind fun c => ?_
  cases c with
  | names bound => exact .pure (by simp [Function.comp_def])
  | _ => exact .pure rfl

theorem viewItems_agree (kind : ViewKind) (a : Nat) :
    Agree m (viewItems kind a) (viewItems kind (m.put a)) := by
  refine (entriesOf_agree a).bind fun es => ?_
  cases kind <;> exact .pure (by simp [Function.comp_def])

end Work

namespace Datum

theorem quantity?_moved (d : Datum) : (moved m.put d).quantity? = d.quantity? := by
  cases d <;> rfl

theorem length?_agree (d : Datum) : Agree m d.length? (moved m.put d).length? := by
  cases d with
  | tuple xs =>
    rw [moved_tuple]
    exact .pure (by simp)
  | view kind a => exact (Work.entriesOf_agree a).bind fun es => .pure (by simp)
  | cell a =>
    refine (Agree.read a).bind fun c => ?_
    cases c with
    | list | dict | set | names => exact .pure (by simp)
    | _ => exact .pure rfl
  | _ => exact .pure rfl

theorem truth_agree (d : Datum) : Agree m d.truth (moved m.put d).truth := by
  cases d with
  | none | bool | int | float | complex => exact .pure rfl
  | _ =>
    refine (length?_agree _).bind fun n => ?_
    cases n <;> exact .pure rfl

theorem members?_agree (d : Datum) : Agree m d.members? (moved m.put d).members? := by
  cases d with
  | view kind a =>
    cases kind with
    | values => exact .pure rfl
    | _ => exact (Work.viewItems_agree _ a).bind fun xs => .pure rfl
  | cell a =>
    refine (Agree.read a).bind fun c => ?_
    cases c <;> exact .pure rfl
  | _ => exact .pure rfl

theorem sequence?_agree (d : Datum) : Agree m d.sequence? (moved m.put d).sequence? := by
  cases d with
  | tuple xs =>
    rw [moved_tuple]
    exact .pure (by simp)
  | cell a =>
    refine (Agree.read a).bind fun c => ?_
    cases c with
    | list xs => exact .pure (by simp)
    | _ => exact .pure rfl
  | _ => exact .pure rfl

/-! ## Equality -/

theorem allEqual_agree {same same' : Datum → Datum → Work Bool}
    (h : ∀ a b, Agree m (same a b) (same' (moved m.put a) (moved m.put b))) :
    (xs ys : List Datum) →
      Agree m (allEqual same xs ys) (allEqual same' (xs.map (moved m.put)) (ys.map (moved m.put)))
  | x :: xs, y :: ys => by
    refine (h x y).bind fun b => ?_
    cases b with
    | true => exact allEqual_agree h xs ys
    | false => exact .pure rfl
  | [], _ => .pure rfl
  | _ :: _, [] => .pure rfl

theorem entriesEqual_agree {same same' : Datum → Datum → Work Bool}
    (h : ∀ a b, Agree m (same a b) (same' (moved m.put a) (moved m.put b))) (others : Pairs) :
    (es : Pairs) →
      Agree m (entriesEqual same es others)
        (entriesEqual same' (es.map (moved m.put)) (others.map (moved m.put)))
  | [] => .pure rfl
  | (k, v) :: es => by
    simp only [List.map_cons, moved_pair, entriesEqual, Pairs.get?_moved]
    cases others.get? k with
    | none => exact .pure rfl
    | some w =>
      refine (h v w).bind fun b => ?_
      cases b with
      | true => exact entriesEqual_agree h others es
      | false => exact .pure rfl

theorem sameOr_agree {equals equals' : Datum → Datum → Work Bool}
    (h : ∀ a b, Agree m (equals a b) (equals' (moved m.put a) (moved m.put b))) (a b : Datum) :
    Agree m (sameOr equals a b) (sameOr equals' (moved m.put a) (moved m.put b)) := by
  unfold sameOr
  rw [isSame_moved]
  exact .ite Iff.rfl (fun _ => .pure rfl) fun _ => h a b

theorem equalsWithin_agree : (n : Nat) → (a b : Datum) →
    Agree m (equalsWithin n a b) (equalsWithin n (moved m.put a) (moved m.put b))
  | 0, _, _ => Work.tooDeep_agree _
  | n + 1, a, b => by
    have inner := sameOr_agree (m := m) (equalsWithin_agree n)
    simp only [equalsWithin]
    split
    · exact .pure rfl
    · next xs ys =>
      simp only [moved_tuple, List.length_map]
      exact .ite Iff.rfl (fun _ => .pure rfl) fun _ => allEqual_agree inner xs ys
    · next x y =>
      simp only [moved_cell, m.put_beq]
      refine .ite Iff.rfl (fun _ => .pure rfl) fun _ => ?_
      refine (Agree.read x).bind fun c => (Agree.read y).bind fun c' => ?_
      cases c <;> cases c' <;>
        simp only [Cell.moved_list, Cell.moved_dict, Cell.moved_set, Cell.moved_names,
          Cell.moved_function, Cell.moved_iterator, Cell.moved_coroutine, Array.size_map,
          List.length_map, Members.subset_moved, Array.toList_map]
      all_goals first
        | exact .pure rfl
        | exact .ite Iff.rfl (fun _ => .pure rfl) fun _ => allEqual_agree inner _ _
        | exact .ite Iff.rfl (fun _ => .pure rfl) fun _ => entriesEqual_agree inner _ _
    · split
      iterate 3 grind
      refine (members?_agree a).bind fun xs => (members?_agree b).bind fun ys => ?_
      cases xs <;> cases ys <;>
        exact .pure (by simp [Members.subset_moved, sameKey_moved])

theorem equals_agree (a b : Datum) : Agree m (a.equals b) ((moved m.put a).equals (moved m.put b)) :=
  equalsWithin_agree _ a b

theorem coincides_agree (a b : Datum) :
    Agree m (a.coincides b) ((moved m.put a).coincides (moved m.put b)) :=
  sameOr_agree equals_agree a b

/-! ## Order -/

theorem orderMembers_moved (op : Code.CompareOp) (xs ys : Members) :
    orderMembers op (xs.map (moved m.put)) (ys.map (moved m.put)) = orderMembers op xs ys := by
  cases op <;> simp only [orderMembers, Members.subset_moved, List.length_map]

theorem orderLists_agree (op : Code.CompareOp) {order order' : Datum → Datum → Work Bool}
    (h : ∀ a b, Agree m (order a b) (order' (moved m.put a) (moved m.put b))) :
    (xs ys : List Datum) →
      Agree m (orderLists op order xs ys)
        (orderLists op order' (xs.map (moved m.put)) (ys.map (moved m.put)))
  | x :: xs, y :: ys => by
    refine (coincides_agree x y).bind fun b => ?_
    cases b with
    | true => exact orderLists_agree op h xs ys
    | false => exact h x y
  | [], ys => .pure (by simp)
  | x :: xs, [] => .pure (by simp)

theorem unordered_agree (op : Code.CompareOp) (a b : Datum) :
    Agree m (unordered op a b) (unordered op (moved m.put a) (moved m.put b)) :=
  (typeName_agree a).bind fun _ => (typeName_agree b).bind fun _ => .typeError

theorem orderWithin_agree (op : Code.CompareOp) : (n : Nat) → (a b : Datum) →
    Agree m (orderWithin op n a b) (orderWithin op n (moved m.put a) (moved m.put b))
  | 0, _, _ => Work.tooDeep_agree _
  | n + 1, a, b => by
    have inner := orderWithin_agree op n
    simp only [orderWithin, quantity?_moved]
    split
    · exact .pure rfl
    split
    iterate 3 exact .pure rfl
    split
    iterate 3 grind
    refine (sequence?_agree a).bind fun xs => (sequence?_agree b).bind fun ys => ?_
    rcases xs with _ | xs <;> rcases ys with _ | ys
    case some.some =>
      exact .ite Iff.rfl (fun _ => orderLists_agree op inner xs.2 ys.2) fun _ =>
        unordered_agree op a b
    all_goals
      refine (members?_agree a).bind fun xs => (members?_agree b).bind fun ys => ?_
      rcases xs with _ | xs <;> rcases ys with _ | ys
      case some.some => exact .pure (orderMembers_moved op xs ys)
      all_goals exact unordered_agree op a b

theorem order_agree (op : Code.CompareOp) (a b : Datum) :
    Agree m (a.order op b) ((moved m.put a).order op (moved m.put b)) :=
  orderWithin_agree op _ a b

end Datum

end SessionScript.Evaluator
