import SessionScript.Evaluator.Arithmetic
import SessionScript.Proofs.Evaluator.Items

/-!
# Operators at other places

Operators do the same with values wherever cells stand.
-/

namespace SessionScript.Evaluator

variable {m : Move}

theorem unsupported_agree {α : Type} [Movable α] (sign : String) (a b : Datum) :
    Agree m (Work.unsupported sign a b : Work α)
      (Work.unsupported sign (moved m.put a) (moved m.put b)) :=
  (Datum.typeName_agree a).bind fun _ => (Datum.typeName_agree b).bind fun _ => .typeError

theorem toFloat_agree (i : Int) : Agree m (Work.toFloat i) (Work.toFloat i) := by
  unfold Work.toFloat
  split
  · exact .pure rfl
  · exact .raise

namespace Datum

theorem toFloat?_agree (d : Datum) : Agree m d.toFloat? (moved m.put d).toFloat? := by
  cases d with
  | int | bool => exact (toFloat_agree _).bind fun _ => .pure rfl
  | _ => exact .pure rfl

theorem parts?_agree (d : Datum) : Agree m d.parts? (moved m.put d).parts? := by
  cases d with
  | complex => exact .pure rfl
  | _ => exact (toFloat?_agree _).bind fun x => .pure (by cases x <;> rfl)

theorem numbers?_agree (a b : Datum) :
    Agree m (a.numbers? b) ((moved m.put a).numbers? (moved m.put b)) := by
  have complexes {k : Option (Binary64 × Binary64) → Option (Binary64 × Binary64) →
      Work (Option Numbers)} (hk : ∀ p q, Agree m (k p q) (k p q)) :
      Agree m (do k (← a.parts?) (← b.parts?))
        (do k (← (moved m.put a).parts?) (← (moved m.put b).parts?)) :=
    (parts?_agree a).bind fun p => (parts?_agree b).bind fun q => by
      rw [moved_constant?, moved_constant?]
      exact hk p q
  have floats {k : Option Binary64 → Option Binary64 → Work (Option Numbers)}
      (hk : ∀ x y, Agree m (k x y) (k x y)) :
      Agree m (do k (← a.toFloat?) (← b.toFloat?))
        (do k (← (moved m.put a).toFloat?) (← (moved m.put b).toFloat?)) :=
    (toFloat?_agree a).bind fun x => (toFloat?_agree b).bind fun y => by
      rw [moved_constant?, moved_constant?]
      exact hk x y
  simp only [numbers?, integer?_moved]
  split
  · exact .pure rfl
  · cases a <;> cases b <;> first
      | exact .pure rfl
      | exact complexes fun p q => by cases p <;> cases q <;> exact .pure rfl
      | exact floats fun x y => by cases x <;> cases y <;> exact .pure rfl

end Datum

namespace Numbers

theorem powInts_agree (a b : Int) : Agree m (powInts a b) (powInts a b) := by
  unfold powInts
  refine .ite Iff.rfl (fun _ => .pure rfl) fun _ => .ite Iff.rfl (fun _ => .raise) fun _ => ?_
  exact (toFloat_agree a).bind fun x => (toFloat_agree b).bind fun y => .pure rfl

theorem powFloats_agree (x y : Binary64) : Agree m (powFloats x y) (powFloats x y) := by
  unfold powFloats
  refine .ite Iff.rfl (fun _ => .raise) fun _ => .ite Iff.rfl (fun _ => .pure rfl) fun _ => ?_
  exact .ite Iff.rfl (fun _ => .throw rfl) fun _ => .pure rfl

theorem onInts_agree (op : Code.BinaryOp) (a b : Int) : Agree m (onInts op a b) (onInts op a b) := by
  cases op with
  | div => exact .guard (.guard (.pure rfl))
  | floorDiv | mod | shiftLeft | shiftRight => exact .guard (.pure rfl)
  | pow => exact (powInts_agree a b).bind fun _ => .pure rfl
  | _ => exact .pure rfl

theorem onFloats_agree (op : Code.BinaryOp) (x y : Binary64) :
    Agree m (onFloats op x y) (onFloats op x y) := by
  cases op with
  | div | floorDiv | mod => exact .guard (.pure rfl)
  | pow => exact (powFloats_agree x y).bind fun _ => .pure rfl
  | _ => exact .pure rfl

theorem onComplexes_agree (op : Code.BinaryOp) (a b c d : Binary64) :
    Agree m (onComplexes op a b c d) (onComplexes op a b c d) := by
  cases op with
  | div => exact .guard (.pure rfl)
  | pow =>
    simp only [onComplexes]
    split
    · exact .ite Iff.rfl (fun _ => .pure rfl) fun _ => .pure rfl
    · exact .pure rfl
  | _ => exact .pure rfl

end Numbers

namespace Datum

theorem onBools?_moved (op : Code.BinaryOp) (a b : Datum) :
    onBools? op (moved m.put a) (moved m.put b) = (onBools? op a b).map (moved m.put) := by
  cases a <;> first | (cases op <;> rfl) | skip
  cases b <;> cases op <;> rfl

theorem onNumbers_agree (op : Code.BinaryOp) (a b : Datum) :
    Agree m (a.onNumbers op b) ((moved m.put a).onNumbers op (moved m.put b)) := by
  simp only [onNumbers, onBools?_moved]
  cases onBools? op a b with
  | some d => exact .pure rfl
  | none =>
    refine (numbers?_agree a b).bind fun n => ?_
    rcases n with _ | _ | _ | _
    · exact .pure rfl
    · exact Numbers.onInts_agree op _ _
    · exact Numbers.onFloats_agree op _ _
    · exact Numbers.onComplexes_agree op _ _ _ _

theorem repeated_moved (n : Int) (xs : List Datum) :
    repeated n (xs.map (moved m.put)) = (repeated n xs).map (moved m.put) := by
  simp only [repeated, List.map_flatten, List.map_replicate]

theorem repeat?_agree (d : Datum) (n : Int) :
    Agree m (d.repeat? n) ((moved m.put d).repeat? n) := by
  cases d with
  | text | bytes => exact .pure rfl
  | tuple xs =>
    rw [moved_tuple]
    exact .pure (by simp [repeated_moved])
  | _ =>
    refine (sequence?_agree _).bind fun s => ?_
    rcases s with _ | ⟨_, xs⟩
    · exact .pure rfl
    · simp only [moved_option, moved_pair, Option.map_some, moved_list, repeated_moved]
      exact (Agree.newList _).bind fun _ => .pure rfl

theorem isSequence_agree (d : Datum) : Agree m d.isSequence (moved m.put d).isSequence := by
  cases d with
  | text | bytes | tuple => exact .pure rfl
  | _ => exact (sequence?_agree _).bind fun s => .pure (by cases s <;> rfl)

theorem repeatBy_agree (sign : String) (a b : Datum) :
    Agree m (a.repeatBy sign b) ((moved m.put a).repeatBy sign (moved m.put b)) := by
  simp only [repeatBy, integer?_moved]
  refine (isSequence_agree a).bind fun p => .ite Iff.rfl (fun _ => ?_) fun _ => ?_
  · cases b.integer? with
    | some n => exact (repeat?_agree a n).bind fun d => .pure (by cases d <;> rfl)
    | none => exact (typeName_agree b).bind fun _ => .typeError
  refine (isSequence_agree b).bind fun q => .ite Iff.rfl (fun _ => ?_) fun _ => ?_
  · cases a.integer? with
    | some n => exact (repeat?_agree b n).bind fun d => .pure (by cases d <;> rfl)
    | none => exact (typeName_agree a).bind fun _ => .typeError
  · exact unsupported_agree sign a b

theorem join_agree (sign : String) (a b : Datum) :
    Agree m (join sign a b) (join sign (moved m.put a) (moved m.put b)) := by
  fun_cases join sign a b with
  | case1 s t => exact .pure rfl
  | case2 s t => exact .pure rfl
  | case3 xs ys =>
    simp only [join, moved_tuple]
    exact .pure (by simp)
  | case4 a b texts bytes tuples =>
    rw [join.eq_4 sign (moved m.put a) (moved m.put b) (by grind) (by grind) (by grind)]
    refine (sequence?_agree a).bind fun p => (sequence?_agree b).bind fun q => ?_
    rcases p with _ | ⟨_ | _, xs⟩ <;> rcases q with _ | ⟨_ | _, ys⟩
    case some.true.some.true =>
      simp only [moved_option, Option.map_some, moved_pair, moved_constant, moved_list,
        ← List.map_append]
      exact .newList _
    all_goals
      cases a with
      | text | bytes | tuple => exact (typeName_agree b).bind fun _ => .typeError
      | _ =>
        refine (sequence?_agree _).bind fun s => ?_
        rw [moved_option, Option.isSome_map]
        exact .ite Iff.rfl (fun _ => (typeName_agree b).bind fun _ => .typeError) fun _ =>
          unsupported_agree sign _ b

/-! ## Sets and mappings -/

theorem combineMembers_moved (op : Code.BinaryOp) (xs ys : Members) :
    combineMembers op (xs.map (moved m.put)) (ys.map (moved m.put)) =
      (combineMembers op xs ys).map (moved m.put) := by
  cases op with
  | sub => exact congrArg some (Members.filter_not_has_moved xs ys)
  | bitAnd => exact congrArg some (Members.filter_has_moved xs ys)
  | bitOr => exact congrArg some (Members.foldl_add_moved xs ys)
  | bitXor =>
    simp only [combineMembers, Members.filter_not_has_moved, ← List.map_append]
    rfl
  | _ => rfl

theorem isFrozen_agree (d : Datum) : Agree m d.isFrozen (moved m.put d).isFrozen :=
  (typeName_agree d).bind fun _ => .pure rfl

theorem onSets_agree (op : Code.BinaryOp) (a b : Datum) :
    Agree m (onSets op a b) (onSets op (moved m.put a) (moved m.put b)) := by
  refine (members?_agree a).bind fun xs => (members?_agree b).bind fun ys => ?_
  cases xs with
  | none => exact .pure rfl
  | some xs =>
    cases ys with
    | none => exact .pure rfl
    | some ys =>
      simp only [moved_option, Option.map_some, moved_list, combineMembers_moved]
      cases combineMembers op xs ys with
      | none => exact .pure rfl
      | some ms =>
        refine (isFrozen_agree a).bind fun frozen => ?_
        exact (Agree.new (.set ms frozen)).bind fun _ => .pure rfl

theorem foldl_put_moved (es more : Pairs) :
    (more.map (moved m.put)).foldl (fun acc e => Pairs.put acc e.1 e.2) (es.map (moved m.put)) =
      (more.foldl (fun acc e => Pairs.put acc e.1 e.2) es).map (moved m.put) := by
  induction more generalizing es with
  | nil => rfl
  | cons e more ih =>
    simp only [List.map_cons, List.foldl_cons, moved_pair, Pairs.put_moved]
    exact ih _

theorem onMembers_agree (op : Code.BinaryOp) (a b : Datum) :
    Agree m (onMembers op a b) (onMembers op (moved m.put a) (moved m.put b)) := by
  have sets := onSets_agree (m := m) op a b
  cases a with
  | cell x =>
    cases b with
    | cell y =>
      refine (Agree.read x).bind fun c => (Agree.read y).bind fun c' => ?_
      cases op <;> first | exact sets | skip
      cases c <;> first | exact sets | skip
      cases c' <;> first | exact sets | skip
      next xs ys =>
      simp only [Cell.moved_dict, foldl_put_moved]
      exact (Agree.new (.dict _)).bind fun _ => .pure rfl
    | _ => exact sets
  | _ => exact sets

theorem operate_agree (op : Code.BinaryOp) (augmented : Bool) (a b : Datum) :
    Agree m (a.operate op augmented b)
      ((moved m.put a).operate op augmented (moved m.put b)) := by
  refine (onNumbers_agree op a b).bind fun d => ?_
  cases d with
  | some d => exact .pure rfl
  | none =>
    refine (onMembers_agree op a b).bind fun d => ?_
    cases d with
    | some d => exact .pure rfl
    | none =>
      cases op with
      | add => exact join_agree _ a b
      | mul => exact repeatBy_agree _ a b
      | _ => exact unsupported_agree _ a b

theorem operateUnary_agree (op : Code.UnaryOp) (d : Datum) :
    Agree m (operateUnary op d) (operateUnary op (moved m.put d)) := by
  have wrong (sign : String) (d : Datum) :
      Agree m (badOperand sign d) (badOperand sign (moved m.put d)) :=
    (typeName_agree d).bind fun _ => .typeError
  cases op with
  | not => exact (truth_agree d).bind fun _ => .pure rfl
  | _ => cases d <;> first | exact .pure rfl | exact wrong _ _

end Datum

end SessionScript.Evaluator
