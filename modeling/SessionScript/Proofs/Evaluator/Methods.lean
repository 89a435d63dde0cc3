import SessionScript.Evaluator.Method.Scalar
import SessionScript.Proofs.Evaluator.Operators
import SessionScript.Proofs.Evaluator.TextMethods

/-!
# Methods at other places

A method does the same with a value wherever cells stand: it reads and changes the cells that the
value and its arguments mention.
-/

namespace SessionScript.Evaluator.Method

variable {m : Move}

theorem array_getD_moved (xs : Array Datum) (i : Nat) :
    (xs.map (moved m.put)).getD i .none = moved m.put (xs.getD i .none) := by
  rw [Array.getD_eq_getD_getElem?, Array.getElem?_map, Array.getD_eq_getD_getElem?]
  cases xs[i]? <;> rfl

/-! ## Lists and tuples -/

theorem walked_moved (d : Datum) : walked (moved m.put d) = (walked d).map (moved m.put) := by
  cases d with
  | tuple xs => rw [Datum.moved_tuple]; rfl
  | _ => rfl

theorem positionFrom_agree (d : Datum) : (n : Nat) → (xs : List Datum) →
    Agree m (positionFrom d n xs) (positionFrom (moved m.put d) n (xs.map (moved m.put)))
  | _, [] => .pure rfl
  | n, x :: xs => by
    refine (Datum.coincides_agree x d).bind fun same => ?_
    exact .ite Iff.rfl (fun _ => .pure rfl) fun _ => positionFrom_agree d (n + 1) xs

theorem countOf_agree (d : Datum) (xs : List Datum) :
    Agree m (countOf d xs) (countOf (moved m.put d) (xs.map (moved m.put))) :=
  (Agree.filterM fun x _ => Datum.coincides_agree x d).bind fun found =>
    .pure (by simp)

/-- The end of a stretch, or where it is if none is given. -/
theorem limit_agree (b : Option Datum) (standard : Int) : Agree m
    (match b with
      | some b => do return (← b.sliceBound).getD standard
      | none => return standard)
    (match b.map (moved m.put) with
      | some b => do return (← b.sliceBound).getD standard
      | none => return standard) := by
  cases b with
  | some b => exact (Datum.sliceBound_agree b).bind fun i => .pure (by simp)
  | none => exact .pure rfl

theorem positionOf_agree (args : Args) (xs : List Datum) {missing missing' : Datum → Work String}
    (h : ∀ d, Agree m (missing d) (missing' (moved m.put d))) :
    Agree m (positionOf args xs missing)
      (positionOf (moved m.put args) (xs.map (moved m.put)) missing') := by
  unfold positionOf
  refine (Args.between_agree _ _ _ args).bind fun ds => ?_
  simp only [moved_list, headD_moved, List.getElem?_map, List.length_map]
  refine (limit_agree ds[1]? 0).bind fun low => ?_
  refine (limit_agree ds[2]? xs.length).bind fun high => ?_
  simp only [moved_constant, ← List.map_drop, ← List.map_take]
  refine (positionFrom_agree _ _ _).bind fun found => ?_
  cases found with
  | some n => exact .pure rfl
  | none => exact (h _).bind fun _ => .valueError

theorem ofList_agree (name : String) (a : Nat) (xs : Array Datum) (args : Args) :
    Agree m (ofList name a xs args)
      (ofList name (m.put a) (xs.map (moved m.put)) (moved m.put args)) := by
  have set (ys : Array Datum) : Agree m
      (do Work.write a (.list ys); return Datum.none)
      (do Work.write (m.put a) (.list (ys.map (moved m.put))); return Datum.none) :=
    (Agree.write a (.list ys)).bind fun _ => .pure rfl
  have remove (k : Nat) : Datum.withoutPositions [k] (xs.toList.map (moved m.put)) =
      (Datum.withoutPositions [k] xs.toList).map (moved m.put) :=
    Datum.withoutPositions_moved [k] xs.toList
  unfold ofList
  split
  · refine (Args.one_agree _ args).bind fun d => ?_
    rw [← Array.map_push]
    exact set _
  · refine (Args.one_agree _ args).bind fun d => ?_
    rw [walked_moved, ← List.map_toArray, ← Array.map_append]
    exact set _
  · refine (Args.between_agree _ _ _ args).bind fun ds => ?_
    rw [moved_list, headD_moved, getD_moved]
    refine (Args.integer_agree _).bind fun i => ?_
    simp only [Array.size_map, Array.toList_map, moved_constant, ← List.map_take, ← List.map_drop,
      ← List.map_singleton, ← List.map_append, ← List.map_toArray]
    exact set _
  · refine (Args.between_agree _ _ _ args).bind fun ds => ?_
    rw [moved_list, List.getElem?_map]
    extract_lets pop pop'
    have same (i : Int) : Agree m (pop i) (pop' i) := by
      simp only [pop, pop', Array.isEmpty, Array.size_map, Array.toList_map, remove,
        ← List.map_toArray]
      refine .guard ?_
      cases Datum.position? xs.size i with
      | none => exact .raise
      | some k => exact (set _).bind fun _ => .pure (array_getD_moved xs k)
    cases ds[0]? with
    | none => exact .bind (.pure rfl) same
    | some d => exact (Args.integer_agree d).bind same
  · refine (Args.one_agree _ args).bind fun d => ?_
    rw [Array.toList_map]
    refine (positionFrom_agree d 0 xs.toList).bind fun found => ?_
    cases found with
    | none => exact .valueError
    | some k =>
      dsimp only [moved_option, Option.map_some, moved_constant]
      rw [remove, ← List.map_toArray]
      exact set _
  · refine (Args.none_agree _ args).bind fun _ => ?_
    have cleared := set #[]
    rw [Array.map_empty] at cleared
    exact cleared
  · rw [Array.toList_map]
    exact positionOf_agree args xs.toList fun d => (Datum.shown_agree d).bind fun _ => .pure rfl
  · refine (Args.one_agree _ args).bind fun d => ?_
    rw [Array.toList_map]
    exact countOf_agree d xs.toList
  · refine (Args.none_agree _ args).bind fun _ => ?_
    rw [← Array.map_reverse]
    exact set xs.reverse
  · exact (Args.none_agree _ args).bind fun _ => .new (.list xs)

theorem ofTuple_agree (name : String) (xs : List Datum) (args : Args) :
    Agree m (ofTuple name xs args) (ofTuple name (xs.map (moved m.put)) (moved m.put args)) :=
  .ite Iff.rfl (fun _ => (Args.one_agree _ args).bind fun d => countOf_agree d xs) fun _ =>
    positionOf_agree args xs fun _ => .pure rfl

/-! ## Mappings -/

theorem putAll_moved (es more : Pairs) :
    putAll (es.map (moved m.put)) (more.map (moved m.put)) = (putAll es more).map (moved m.put) :=
  Datum.foldl_put_moved es more

/-- Entries and named arguments are put into a mapping that is moved as they are into it. -/
theorem putAll_named_moved (es more : Pairs) (named : List (String × Datum)) :
    putAll (es.map (moved m.put)) (more.map (moved m.put) ++
        (named.map (moved m.put)).map fun e => (Datum.text e.1, e.2)) =
      (putAll es (more ++ named.map fun e => (Datum.text e.1, e.2))).map (moved m.put) := by
  rw [← putAll_moved, List.map_append, List.map_map, List.map_map]
  rfl

theorem entriesOf_agree (d : Datum) : Agree m (entriesOf d) (entriesOf (moved m.put d)) := by
  cases d with
  | tuple ps =>
    rw [Datum.moved_tuple]
    refine .pure ?_
    rw [List.filterMap_map, moved_list, List.map_filterMap]
    refine congrArg (ps.filterMap ·) (funext fun p => ?_)
    cases p with
    | tuple xs =>
      match xs with
      | [_, _] => simp
      | [] | [_] | _ :: _ :: _ :: _ => simp
    | _ => rfl
  | cell a => exact Work.entriesOf_agree a
  | _ => exact .pure rfl

theorem ofDict_agree (name : String) (a : Nat) (es : Pairs) (args : Args) :
    Agree m (ofDict name a es args)
      (ofDict name (m.put a) (es.map (moved m.put)) (moved m.put args)) := by
  have set (news : Pairs) {w w' : Work Datum} (h : Agree m w w') : Agree m
      (do Work.write a (.dict news); w)
      (do Work.write (m.put a) (.dict (news.map (moved m.put))); w') :=
    (Agree.write a (.dict news)).bind fun _ => h
  unfold ofDict
  split
  · refine (Args.between_agree _ _ _ args).bind fun ds => ?_
    rw [moved_list, headD_moved, getD_moved]
    refine (Datum.needKey_agree _).bind fun _ => ?_
    rw [Pairs.get?_moved]
    exact .pure (by cases Pairs.get? es (ds.headD .none) <;> rfl)
  iterate 3 · exact (Args.none_agree _ args).bind fun _ => .pure rfl
  · refine (Args.between_agree _ _ _ args).bind fun ds => ?_
    rw [moved_list, headD_moved, List.getElem?_map]
    dsimp only
    refine (Datum.needKey_agree _).bind fun _ => ?_
    rw [Pairs.get?_moved, Pairs.erase_moved]
    cases Pairs.get? es (ds.headD .none) with
    | some v => exact set _ (.pure rfl)
    | none =>
      cases ds[1]? with
      | some d => exact .pure rfl
      | none => exact .throw rfl
  · refine (Args.none_agree _ args).bind fun _ => ?_
    rw [List.getLast?_map, ← List.map_dropLast]
    cases es.getLast? with
    | some e => exact set _ (.pure (by simp))
    | none => exact .raise
  · refine (Args.between_agree _ _ _ args).bind fun ds => ?_
    rw [moved_list, headD_moved, getD_moved]
    dsimp only
    refine (Datum.needKey_agree _).bind fun _ => ?_
    rw [Pairs.get?_moved, Pairs.put_moved]
    cases Pairs.get? es (ds.headD .none) with
    | some v => exact .pure rfl
    | none => exact set _ (.pure rfl)
  · simp only [Args.moved_positional, Args.moved_named, List.length_map]
    refine .guard ?_
    have put (more : Pairs) : Agree m
        (do Work.write a (.dict (putAll es (more ++ args.named.map fun e => (Datum.text e.1, e.2))))
            return Datum.none)
        (do Work.write (m.put a) (.dict (putAll (es.map (moved m.put))
              (more.map (moved m.put) ++
                (args.named.map (moved m.put)).map fun e => (Datum.text e.1, e.2))))
            return Datum.none) := by
      rw [putAll_named_moved]
      exact set _ (.pure rfl)
    match args.positional with
    | [d] => exact (entriesOf_agree d).bind put
    | [] => exact put []
    | _ :: _ :: _ => exact put []
  · exact (Args.none_agree _ args).bind fun _ => set [] (.pure rfl)
  · exact (Args.none_agree _ args).bind fun _ => .new (.dict es)

/-! ## Sets -/

theorem combined_moved (op : Code.BinaryOp) (ms : Members) (others : List Datum) :
    combined op (ms.map (moved m.put)) (others.map (moved m.put)) =
      (combined op ms others).map (moved m.put) := by
  induction others generalizing ms with
  | nil => rfl
  | cons d others ih =>
    simp only [combined, List.map_cons, List.foldl_cons] at ih ⊢
    rw [← ih, walked_moved, Members.ofList_moved]
    congr 1
    split
    · exact Members.foldl_add_moved _ _
    · exact Members.filter_has_moved _ _
    · exact Members.filter_not_has_moved _ _
    · rw [Members.filter_not_has_moved, Members.filter_not_has_moved, List.map_append]

theorem ofSet_agree (name : String) (a : Nat) (ms : Members) (frozen : Bool) (args : Args) :
    Agree m (ofSet name a ms frozen args)
      (ofSet name (m.put a) (ms.map (moved m.put)) frozen (moved m.put args)) := by
  have set (news : Members) : Agree m
      (do Work.write a (.set news frozen); return Datum.none)
      (do Work.write (m.put a) (.set (news.map (moved m.put)) frozen); return Datum.none) :=
    (Agree.write a (.set news frozen)).bind fun _ => .pure rfl
  unfold ofSet
  extract_lets
  cases setOperation? name with
  | some op =>
    have put : Agree m
        (do (args.positional.flatMap walked).forM Datum.needKey
            let news := combined op ms args.positional
            if name == "update" || name.endsWith "_update" then
              Work.write a (.set news frozen)
              return Datum.none
            else Work.new (.set news frozen))
        (do ((args.positional.map (moved m.put)).flatMap walked).forM Datum.needKey
            let news := combined op (ms.map (moved m.put)) (args.positional.map (moved m.put))
            if name == "update" || name.endsWith "_update" then
              Work.write (m.put a) (.set news frozen)
              return Datum.none
            else Work.new (.set news frozen)) := by
      have all : (args.positional.map (moved m.put)).flatMap walked =
          (args.positional.flatMap walked).map (moved m.put) := by
        simp only [List.flatMap_map, List.map_flatMap, walked_moved]
      rw [all, combined_moved]
      refine (Agree.forM fun d _ => Datum.needKey_agree d).bind fun _ => ?_
      exact .ite Iff.rfl (fun _ => set _) fun _ => .new (.set _ frozen)
    simp only [Args.moved_named, Args.moved_positional, List.isEmpty_map]
    refine .guard (.ite Iff.rfl (fun _ => ?_) fun _ => put)
    exact (Args.one_agree _ args).bind fun _ => put
  | none =>
    dsimp only
    split
    · refine (Args.one_agree _ args).bind fun d => ?_
      rw [walked_moved, Members.subset_moved]
      exact .pure rfl
    · refine (Args.one_agree _ args).bind fun d => ?_
      rw [walked_moved, Members.subset_moved]
      exact .pure rfl
    · refine (Args.one_agree _ args).bind fun d => .pure ?_
      simp only [walked_moved, List.any_map, Function.comp_def, Members.has_moved, Datum.moved_bool]
    · refine (Args.one_agree _ args).bind fun d => (Datum.needKey_agree d).bind fun _ => ?_
      rw [Members.add_moved]
      exact set _
    · refine (Args.one_agree _ args).bind fun d => (Datum.needKey_agree d).bind fun _ => ?_
      rw [Members.has_moved, Members.erase_moved]
      exact .ite Iff.rfl (fun _ => set _) fun _ => .throw rfl
    · refine (Args.one_agree _ args).bind fun d => (Datum.needKey_agree d).bind fun _ => ?_
      rw [Members.erase_moved]
      exact set _
    · refine (Args.none_agree _ args).bind fun _ => ?_
      rw [Members.inOrder_moved]
      cases Members.inOrder ms with
      | cons d _ =>
        rw [List.map_cons]
        dsimp only
        rw [Members.erase_moved]
        exact (set _).bind fun _ => .pure rfl
      | nil => exact .raise
    · exact (Args.none_agree _ args).bind fun _ => set []
    · exact (Args.none_agree _ args).bind fun _ => .new (.set ms frozen)

/-! ## Numbers and bytes -/

theorem ratioOf_agree (x : Binary64) : Agree m (ratioOf x) (ratioOf x) :=
  .guard (.guard (.pure rfl))

theorem ofInt_agree (name : String) (i : Int) (args : Args) :
    Agree m (ofInt name i args) (ofInt name i (moved m.put args)) := by
  refine (Args.none_agree _ args).bind fun _ => ?_
  split <;> exact .pure rfl

theorem ofFloat_agree (name : String) (x : Binary64) (args : Args) :
    Agree m (ofFloat name x args) (ofFloat name x (moved m.put args)) := by
  refine (Args.none_agree _ args).bind fun _ => ?_
  split
  · exact .pure rfl
  · exact ratioOf_agree x
  · exact .pure rfl

theorem toBytes_moved (d : Datum) : toBytes (moved m.put d) = moved m.put (toBytes d) := by
  cases d <;> simp [toBytes]

theorem fromBytes_moved (d : Datum) : fromBytes (moved m.put d) = moved m.put (fromBytes d) := by
  cases d <;> simp [fromBytes]

theorem decoded_agree (b : List UInt8) (args : Args) :
    Agree m (decoded b args) (decoded b (moved m.put args)) := by
  unfold decoded
  refine (Args.byName_agree _ _ args).bind fun ds => ?_
  rw [moved_list, getD_none_moved, getD_none_moved]
  extract_lets lossy text lossy' text'
  have flag : lossy' = lossy := by
    dsimp only [lossy, lossy']
    cases ds.getD 1 none with
    | none => rfl
    | some d => cases d <;> rfl
  have same (name : List Char) : Agree m (text name) (text' name) := by
    dsimp only [text, text']
    rw [flag]
    split
    · refine .ite Iff.rfl (fun _ => .pure rfl) fun _ => ?_
      split
      · exact .pure rfl
      · exact .throw rfl
      · exact .pure rfl
    · split
      · exact .pure rfl
      · exact .throw rfl
    · exact .pure rfl
    · exact .pure rfl
    · exact .raise
  cases ds.getD 0 none with
  | none => exact .bind (.pure rfl) same
  | some d => exact (needText_agree _ d).bind same

/-- An argument of a method of bytes, as the method of texts gets it. -/
theorem textArgument_moved (d : Datum) :
    (match moved m.put d with
      | .tuple xs => Datum.tuple (xs.map fromBytes)
      | d => fromBytes d) =
    moved m.put (match d with
      | .tuple xs => Datum.tuple (xs.map fromBytes)
      | d => fromBytes d) := by
  cases d with
  | tuple xs =>
    simp only [Datum.moved_tuple, List.map_map, Function.comp_def, fromBytes_moved]
  | _ => exact fromBytes_moved _

theorem ofBytes_agree (name : String) (b : List UInt8) (args : Args) :
    Agree m (ofBytes name b args) (ofBytes name b (moved m.put args)) := by
  unfold ofBytes
  split
  · exact decoded_agree b args
  · exact (Args.none_agree _ args).bind fun _ => .pure rfl
  · exact .pure rfl
  · exact .pure rfl
  · extract_lets texts texts'
    have same : texts' = moved m.put texts := by
      simp only [texts, texts', Args.moved_positional, Args.moved_named, moved_args, List.map_map,
        Args.mk.injEq]
      refine ⟨List.map_congr_left fun d _ => textArgument_moved d, List.map_congr_left fun e _ => ?_⟩
      simp only [Function.comp_def, moved_pair, moved_constant, fromBytes_moved]
    rw [same]
    refine (ofText_agree _ _ texts).bind fun d => ?_
    cases d with
    | tuple xs =>
      simp only [Datum.moved_tuple, List.map_map, Function.comp_def, toBytes_moved]
      exact .pure (by simp)
    | cell a =>
      refine (Agree.read a).bind fun c => ?_
      cases c with
      | list xs =>
        have all := Agree.new (m := m) (.list (xs.map toBytes))
        simp only [Cell.moved_list, Array.map_map, Function.comp_def, toBytes_moved] at all ⊢
        exact all
      | _ => exact .pure rfl
    | _ => exact .pure rfl

theorem ownMember?_agree (d : Datum) (name : String) :
    Agree m (ownMember? d name) (ownMember? (moved m.put d) name) := by
  unfold ownMember?
  cases d with
  | cell a =>
    refine (Agree.read a).bind fun c => ?_
    cases c with
    | function f =>
      refine .pure ?_
      rw [Closure.moved_name, moved_option, apply_ite (Option.map _), apply_ite (Option.map _)]
      rfl
    | _ => exact .pure rfl
  | error kind xs =>
    rw [Datum.moved_error]
    exact .pure (by split <;> simp)
  | slice a b c =>
    dsimp only [Datum.moved_slice]
    split <;> exact .pure rfl
  | int | bool =>
    dsimp only
    split
    · exact .pure rfl
    · exact .pure rfl
    · exact .pure (by split <;> rfl)
  | float | complex => exact .pure (by dsimp only; split <;> rfl)
  | range =>
    dsimp only
    split <;> exact .pure rfl
  | type | builtin => exact .pure (by split <;> rfl)
  | host v =>
    cases v with
    | date x =>
      dsimp only
      split <;> exact .pure rfl
    | _ => exact .pure rfl
  | _ => exact .pure rfl

theorem memberOf_agree (d : Datum) (name : String) :
    Agree m (memberOf d name) (memberOf (moved m.put d) name) := by
  refine (ownMember?_agree d name).bind fun own => ?_
  cases own with
  | some v => exact .pure rfl
  | none =>
    refine (Datum.typeName_agree d).bind fun typeName => ?_
    refine .ite Iff.rfl (fun _ => .pure rfl) fun _ => ?_
    cases d with
    | type t =>
      refine .ite Iff.rfl (fun _ => .pure rfl) fun _ => ?_
      exact .ite Iff.rfl (fun _ => .pure rfl) fun _ => .raise
    | _ => exact .ite Iff.rfl (fun _ => .pure rfl) fun _ => .raise

theorem call_agree (d : Datum) (name : String) (args : Args) :
    Agree m (call d name args) (call (moved m.put d) name (moved m.put args)) := by
  cases d with
  | text s => exact ofText_agree name s args
  | bytes b => exact ofBytes_agree name b args
  | tuple xs =>
    rw [Datum.moved_tuple]
    exact ofTuple_agree name xs args
  | float x => exact ofFloat_agree name x args
  | complex a b => exact .pure rfl
  | range a b c =>
    let items := (List.range (Datum.rangeLength a b c)).map fun (i : Nat) =>
      Datum.int (a + c * (i : Int))
    have still : items.map (moved m.put) = items := by
      rw [List.map_map]
      rfl
    have found : Agree m
        (positionOf args items fun x => do return (← x.shown) ++ " is not in range")
        (positionOf (moved m.put args) (items.map (moved m.put)) fun x => do
          return (← x.shown) ++ " is not in range") :=
      positionOf_agree args items fun d => (Datum.shown_agree d).bind fun _ => .pure rfl
    rw [still] at found
    refine .ite Iff.rfl (fun _ => (Args.one_agree _ args).bind fun d => ?_) fun _ => found
    have counted := countOf_agree (m := m) d items
    rw [still] at counted
    exact counted
  | cell a =>
    refine (Agree.read a).bind fun c => ?_
    cases c with
    | list xs => exact ofList_agree name a xs args
    | dict es => exact ofDict_agree name a es args
    | set ms frozen => exact ofSet_agree name a ms frozen args
    | _ => exact .pure rfl
  | int i => exact ofInt_agree name i args
  | bool b => exact ofInt_agree name _ args
  | _ => exact .pure rfl

end SessionScript.Evaluator.Method
