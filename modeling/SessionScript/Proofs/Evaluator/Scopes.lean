import SessionScript.Evaluator.Calling
import SessionScript.Proofs.Evaluator.Builtins

/-!
# Names and calls at other places

Names are looked up and bound, arguments reach parameters, and values are walked through and sorted
in the same way wherever cells stand.
-/

namespace SessionScript.Evaluator

variable {m : Move}

/-! ## Bindings -/

namespace Work

theorem bound_agree (a : Nat) : Agree m (bound a) (bound (m.put a)) :=
  (Agree.read a).bind fun c => by cases c <;> exact .pure rfl

theorem bindName_moved (name : String) (d : Datum) (ns : List (String × Datum)) :
    bindName name (moved m.put d) (ns.map (moved m.put)) =
      (bindName name d ns).map (moved m.put) := by
  induction ns with
  | nil => rfl
  | cons p ns ih =>
    simp only [List.map_cons, moved_pair, moved_constant, bindName, ih]
    split <;> rfl

theorem bind_agree (a : Nat) (name : String) (d : Datum) :
    Agree m (Work.bind a name d) (Work.bind (m.put a) name (moved m.put d)) := by
  refine (bound_agree a).bind fun ns => ?_
  rw [moved_list, bindName_moved]
  exact .write a (.names _)

theorem unbind_agree (a : Nat) (name : String) :
    Agree m (unbind a name) (unbind (m.put a) name) := by
  refine (bound_agree a).bind fun ns => ?_
  rw [moved_list, List.filter_map]
  exact .write a (.names _)

end Work

namespace Scope

variable (sc : Scope) (name : String)

theorem loadBuiltin_agree :
    Agree m (sc.loadBuiltin name) ((moved m.put sc).loadBuiltin name) := by
  unfold loadBuiltin
  rw [moved_builtins]
  extract_lets other other'
  have item : Agree m (do return some (← sc.builtins.item (.text name)))
      (do return some (← (moved m.put sc.builtins).item (.text name))) :=
    (Datum.item_agree sc.builtins (.text name)).bind fun _ => .pure rfl
  have same : Agree m other other' := by
    refine Agree.bind (item.tryCatch fun e => ?_) fun found => ?_
    · exact .ite Iff.rfl (fun _ => .pure rfl) fun _ => .throw rfl
    · cases found with
      | some d => exact .pure rfl
      | none => exact .raise
  generalize sc.builtins = table
  cases table with
  | cell a =>
    refine (Agree.read a).bind fun c => ?_
    cases c with
    | dict es =>
      have found := Pairs.get?_moved (m := m) es (.text name)
      rw [Datum.moved_text] at found
      simp only [Cell.moved_dict, found]
      cases Pairs.get? es (.text name) with
      | some d => exact .pure rfl
      | none => exact .raise
    | _ => exact same
  | _ => exact same

theorem loadGlobal_agree : Agree m (sc.loadGlobal name) ((moved m.put sc).loadGlobal name) := by
  refine (Work.bound_agree sc.globals).bind fun ns => ?_
  rw [moved_list, lookup_moved]
  cases ns.lookup name with
  | some d => exact .pure rfl
  | none => exact loadBuiltin_agree sc name

/-- Where a name lives, with its frame at another place. -/
def Home.moved (f : Nat → Nat) : Home → Home
  | .own a => .own (f a)
  | .outer a => .outer (f a)
  | .whole => .whole

theorem homeIn_moved (isOwn : Bool) (frames : List Frame) :
    homeIn isOwn (frames.map (Movable.moved m.put)) name = (homeIn isOwn frames name).moved m.put := by
  induction frames generalizing isOwn with
  | nil => rfl
  | cons f fs ih =>
    simp only [List.map_cons, homeIn, Frame.moved_names, Frame.moved_address, ih]
    split
    · cases isOwn <;> rfl
    · split <;> rfl

theorem home_moved : (Movable.moved m.put sc).home name = (sc.home name).moved m.put :=
  homeIn_moved name true sc.frames

theorem load_agree : Agree m (sc.load name) ((Movable.moved m.put sc).load name) := by
  unfold load
  rw [home_moved]
  cases sc.home name with
  | own a =>
    refine (Work.bound_agree a).bind fun ns => ?_
    rw [moved_list, lookup_moved]
    cases ns.lookup name with
    | some d => exact .pure rfl
    | none => exact .raise
  | outer a =>
    refine (Work.bound_agree a).bind fun ns => ?_
    rw [moved_list, lookup_moved]
    cases ns.lookup name with
    | some d => exact .pure rfl
    | none => exact .raise
  | whole => exact loadGlobal_agree sc name

theorem assign_agree (d : Datum) :
    Agree m (sc.assign name d) ((Movable.moved m.put sc).assign name (Movable.moved m.put d)) := by
  unfold assign
  rw [home_moved]
  cases sc.home name with
  | own a | outer a => exact Work.bind_agree a name d
  | whole => exact Work.bind_agree sc.globals name d

theorem withoutComprehensions_moved :
    (Movable.moved m.put sc).withoutComprehensions =
      Movable.moved m.put sc.withoutComprehensions := by
  simp only [withoutComprehensions, moved_frames, List.dropWhile_map]
  rfl

theorem delete_agree : Agree m (sc.delete name) ((Movable.moved m.put sc).delete name) := by
  unfold delete
  rw [home_moved]
  cases sc.home name with
  | own a =>
    refine (Work.bound_agree a).bind fun ns => ?_
    rw [moved_list, lookup_moved, Option.isNone_map]
    exact .guard (Work.unbind_agree a name)
  | outer a =>
    refine (Work.bound_agree a).bind fun ns => ?_
    rw [moved_list, lookup_moved, Option.isNone_map]
    exact .guard (Work.unbind_agree a name)
  | whole =>
    refine (Work.bound_agree sc.globals).bind fun ns => ?_
    rw [moved_list, lookup_moved, Option.isNone_map]
    exact .guard (Work.unbind_agree sc.globals name)

end Scope

/-! ## Deeper computations -/

namespace Agree

variable {α : Type} [Movable α] {w w' : Work α}

theorem attempt (h : Agree m w w') : Agree m (Work.attempt w) (Work.attempt w') := by
  have ok : Agree m (do return Except.ok (← w) : Work (Except Raised α))
      (do return Except.ok (← w')) := h.bind fun _ => .pure rfl
  exact ok.tryCatch fun _ => .pure rfl

/-- What `Work.nested` and `Work.whileHandling` do after they have prepared the store. -/
theorem result (r : Except Raised α) : Agree m
    (match r with
      | .ok a => return a
      | .error e => MonadExcept.throw e)
    (match moved m.put r with
      | .ok a => return a
      | .error e => MonadExcept.throw e) := by
  cases r with
  | ok a => exact .pure rfl
  | error e => exact .throw rfl

theorem nested (h : Agree m w w') : Agree m (Work.nested w) (Work.nested w') := by
  refine get_bind fun s t st => ?_
  rw [st.room]
  refine .guard ?_
  refine modify_bind (fun _ _ st => { st with room := rfl }) ?_
  refine h.attempt.bind fun r => ?_
  exact modify_bind (fun _ _ st => { st with room := rfl }) (result r)

theorem whileHandling (e : Raised) (h : Agree m w w') :
    Agree m (Work.whileHandling e w) (Work.whileHandling (moved m.put e) w') := by
  refine get_bind fun s t st => ?_
  rw [st.handling]
  refine modify_bind (fun _ _ st => { st with handling := rfl }) ?_
  refine h.attempt.bind fun r => ?_
  exact modify_bind (fun _ _ st => { st with handling := rfl }) (result r)

end Agree

/-! ## Iterators -/

namespace Datum

theorem newIterator_agree (it : Iterator) :
    Agree m (newIterator it) (newIterator (moved m.put it)) :=
  (Agree.new (.iterator it)).map fun _ => rfl

theorem iterator?_agree (d : Datum) : Agree m d.iterator? (moved m.put d).iterator? := by
  cases d with
  | text s => 
    have items := newIterator_agree (m := m)
      (.items "str_iterator" (s.toList.map fun c => ofChars [c]) Option.none)
    simp only [Iterator.moved_items, List.map_map, Function.comp_def, moved_ofChars] at items
    exact items
  | bytes b =>
    have items := newIterator_agree (m := m)
      (.items "bytes_iterator" (b.map fun x => .int x.toNat) Option.none)
    simp only [Iterator.moved_items, List.map_map, Function.comp_def, moved_int] at items
    exact items
  | tuple xs =>
    rw [moved_tuple]
    exact newIterator_agree (.items _ xs Option.none)
  | range a b c => exact newIterator_agree (.range _ _ _)
  | view kind a =>
    refine (Work.entriesOf_agree a).bind fun es => ?_
    rw [moved_list, List.length_map]
    exact newIterator_agree (.dict kind a 0 es.length)
  | cell a =>
    refine (Agree.read a).bind fun c => ?_
    cases c with
    | list xs => exact newIterator_agree (.list a 0)
    | dict es =>
      simp only [Cell.moved_dict, List.length_map]
      exact newIterator_agree (.dict .keys a 0 es.length)
    | set ms frozen =>
      simp only [Cell.moved_set, List.length_map, Members.inOrder_moved]
      exact newIterator_agree (.set (Members.inOrder ms) a ms.length)
    | _ => exact .pure rfl
  | _ => exact .pure rfl

theorem iterator_agree (d : Datum) : Agree m d.iterator (moved m.put d).iterator := by
  refine (iterator?_agree d).bind fun it => ?_
  cases it with
  | some it => exact .pure rfl
  | none => exact (typeName_agree d).bind fun _ => .typeError

theorem reversedIterator_agree (d : Datum) :
    Agree m d.reversedIterator (moved m.put d).reversedIterator := by
  have refuse : Agree m
      (do Work.typeError ("'" ++ (← d.typeName) ++ "' object is not reversible") : Work Datum)
      (do Work.typeError ("'" ++ (← (moved m.put d).typeName) ++ "' object is not reversible")) :=
    (typeName_agree d).bind fun _ => .typeError
  cases d with
  | text s =>
    have items := Agree.new (m := m)
      (.iterator (.items "reversed" (s.toList.reverse.map fun c => ofChars [c]) Option.none))
    simp only [Cell.moved_iterator, Iterator.moved_items, List.map_map, Function.comp_def,
      moved_ofChars] at items
    exact items
  | tuple xs =>
    simp only [reversedIterator, moved_tuple, ← List.map_reverse]
    exact .new (.iterator (.items _ xs.reverse Option.none))
  | range a b c => exact .new (.iterator (.range _ _ _))
  | view kind a =>
    refine (Work.viewItems_agree kind a).bind fun xs => ?_
    rw [moved_list, ← List.map_reverse]
    exact .new (.iterator (.items _ xs.reverse Option.none))
  | cell a =>
    refine (Agree.read a).bind fun c => ?_
    cases c with
    | list xs =>
      simp only [Cell.moved_list, Array.size_map]
      exact .new (.iterator (.listReversed a xs.size))
    | dict es =>
      have items := Agree.new (m := m)
        (.iterator (.items "dict_reversekeyiterator" (es.reverse.map (·.1)) Option.none))
      simp only [Cell.moved_iterator, Iterator.moved_items, List.map_map, Function.comp_def] at items
      simp only [Cell.moved_dict, ← List.map_reverse, List.map_map, Function.comp_def, moved_pair]
      exact items
    | _ => exact refuse
  | _ => exact refuse

theorem isMapping_agree (d : Datum) : Agree m d.isMapping (moved m.put d).isMapping := by
  cases d with
  | cell a => exact (Agree.read a).bind fun c => by cases c <;> exact .pure rfl
  | _ => exact .pure rfl

theorem functionText_agree (d : Datum) : Agree m d.functionText (moved m.put d).functionText := by
  have other := shown_agree (m := m) d
  cases d with
  | builtin | type | method | unbound => exact .pure rfl
  | cell a =>
    refine (Agree.read a).bind fun c => ?_
    cases c with
    | function f => exact .pure rfl
    | _ => exact other
  | _ => exact other

end Datum

/-! ## Arguments of functions -/

namespace Closure

variable (f : Closure)

theorem places_moved : (moved m.put f).places = f.places.map (moved m.put) := by
  rw [places, moved_params, List.filter_map]
  rfl

theorem keywordOnly_moved : (moved m.put f).keywordOnly = f.keywordOnly.map (moved m.put) := by
  rw [keywordOnly, moved_params, List.filter_map]
  rfl

theorem restName?_moved (kind : Code.ParamKind) :
    (moved m.put f).restName? kind = f.restName? kind := by
  rw [restName?, moved_params, List.find?_map, Option.map_map]
  rfl

theorem tooMany_agree (given keywordsGiven : Nat) :
    Agree m (f.tooMany given keywordsGiven : Work Unit)
      ((moved m.put f).tooMany given keywordsGiven) := by
  simp only [tooMany, places_moved, List.length_map, List.filter_map, Function.comp_def,
    Parameter.moved_default, Option.isSome_map]
  exact .typeError

theorem needAll_agree (noun : String) (params : List Parameter) (bound : List (String × Datum)) :
    Agree m (f.needAll noun params bound)
      ((moved m.put f).needAll noun (params.map (moved m.put)) (bound.map (moved m.put))) := by
  simp only [needAll, List.filter_map, Function.comp_def, Parameter.moved_default,
    Parameter.moved_name, lookup_moved, Option.isNone_map, List.isEmpty_map, List.length_map,
    List.map_map]
  exact .ite Iff.rfl (fun _ => .typeError) fun _ => .pure rfl

theorem bindNamed_agree : (named bound : List (String × Datum)) → (rest : Pairs) →
    Agree m (f.bindNamed named bound rest)
      ((moved m.put f).bindNamed (named.map (moved m.put)) (bound.map (moved m.put))
        (rest.map (moved m.put)))
  | [], _, _ => .pure rfl
  | (k, d) :: named, bound, rest => by
    simp only [List.map_cons, moved_pair, moved_constant, bindNamed, moved_params, List.any_map,
      Function.comp_def, Parameter.moved_name, Parameter.moved_kind, lookup_moved,
      Option.isSome_map, restName?_moved, List.filter_map, List.map_map]
    refine .ite Iff.rfl (fun _ => .guard ?_) fun _ => .ite Iff.rfl (fun _ => ?_) fun _ => ?_
    · have next := bindNamed_agree named (bound ++ [(k, d)]) rest
      rw [List.map_append] at next
      exact next
    · have next := bindNamed_agree named bound (Pairs.put rest (.text k) d)
      rw [← Pairs.put_moved] at next
      exact next
    · exact .ite Iff.rfl (fun _ => .typeError) fun _ => .typeError

/-- The defaults of the parameters that have no argument. -/
theorem defaults_moved (bound : List (String × Datum)) (params : List Parameter) :
    (params.map (moved m.put)).filterMap (fun p =>
        match (bound.map (moved m.put)).lookup p.name, p.default with
        | none, some d => some (p.name, d)
        | _, _ => none) =
      (params.filterMap fun p =>
        match bound.lookup p.name, p.default with
        | none, some d => some (p.name, d)
        | _, _ => none).map (moved m.put) := by
  rw [List.filterMap_map, List.map_filterMap]
  refine congrArg (params.filterMap ·) (funext fun p => ?_)
  simp only [Function.comp_def, Parameter.moved_name, Parameter.moved_default, lookup_moved]
  cases bound.lookup p.name <;> cases p.default <;> rfl

theorem bindArguments_agree (args : Args) :
    Agree m (f.bindArguments args) ((moved m.put f).bindArguments (moved m.put args)) := by
  have first : ((f.places.map (moved m.put)).zip (args.positional.map (moved m.put))).map
        (fun p => (p.1.name, p.2)) =
      ((f.places.zip args.positional).map fun p => (p.1.name, p.2)).map (moved m.put) := by
    rw [List.zip_map, List.map_map, List.map_map]
    rfl
  have given (bound : List (String × Datum)) :
      ((f.keywordOnly.map (moved m.put)).filter fun p =>
        ((bound.map (moved m.put)).lookup p.name).isSome).length =
      (f.keywordOnly.filter fun p => (bound.lookup p.name).isSome).length := by
    simp only [List.filter_map, Function.comp_def, Parameter.moved_name, lookup_moved,
      Option.isSome_map, List.length_map]
  have joined {ds ds' rs rs' : List (String × Datum)} (hd : ds' = ds.map (moved m.put))
      (hr : rs' = rs.map (moved m.put)) (bound keywords : List (String × Datum)) :
      bound.map (moved m.put) ++ ds' ++ rs' ++ moved m.put keywords =
        moved m.put (bound ++ ds ++ rs ++ keywords) := by
    simp only [hd, hr, moved_list, List.map_append]
  simp only [bindArguments, places_moved, keywordOnly_moved, restName?_moved, Args.moved_positional,
    Args.moved_named, List.length_map, first]
  refine (bindNamed_agree f args.named _ []).bind fun p => ?_
  obtain ⟨bound, named⟩ := p
  simp only [moved_pair, moved_list, given]
  have defaults := defaults_moved (m := m) bound (f.places ++ f.keywordOnly)
  rw [List.map_append] at defaults
  refine .ite Iff.rfl (fun _ => (tooMany_agree f _ _).bind fun _ => ?_) fun _ => ?_
  all_goals
    refine (needAll_agree f _ f.places bound).bind fun _ => ?_
    refine (needAll_agree f _ f.keywordOnly bound).bind fun _ => ?_
    have rest (name : String) (n : Nat) :
        [(name, Datum.tuple ((args.positional.map (moved m.put)).drop n))] =
          [(name, Datum.tuple (args.positional.drop n))].map (moved m.put) := by
      simp [List.map_drop]
    rcases f.restName? .rest with _ | more <;> rcases f.restName? .keywords with _ | name
    case none.none =>
      exact .bind (.pure rfl) fun keywords => .pure (joined defaults List.map_nil.symm bound keywords)
    case some.none =>
      exact .bind (.pure rfl) fun keywords => .pure (joined defaults (rest more _) bound keywords)
    case none.some =>
      refine (Agree.new (.dict named)).bind fun d => ?_
      exact .bind (.pure rfl) fun keywords => .pure (joined defaults List.map_nil.symm bound keywords)
    case some.some =>
      refine (Agree.new (.dict named)).bind fun d => ?_
      exact .bind (.pure rfl) fun keywords => .pure (joined defaults (rest more _) bound keywords)

end Closure

/-! ## Sorting -/

namespace Sorting

theorem merge_agree : (n : Nat) → (acc xs ys : List (Datum × Datum)) →
    Agree m (merge n acc xs ys)
      (merge n (acc.map (moved m.put)) (xs.map (moved m.put)) (ys.map (moved m.put)))
  | 0, _, _, _ => .pure (by simp)
  | _ + 1, _, [], _ => .pure (by simp)
  | _ + 1, _, _ :: _, [] => .pure (by simp)
  | n + 1, acc, x :: xs, y :: ys => by
    refine (Datum.order_agree .lt y.1 x.1).bind fun before => ?_
    exact .ite Iff.rfl (fun _ => merge_agree n (y :: acc) (x :: xs) ys) fun _ =>
      merge_agree n (x :: acc) xs (y :: ys)

theorem mergePairs_agree : (xss : List (List (Datum × Datum))) →
    Agree m (mergePairs xss) (mergePairs (xss.map (moved m.put)))
  | [] => .pure rfl
  | [_] => .pure rfl
  | xs :: ys :: more => by
    simp only [List.map_cons, moved_list, mergePairs, List.length_map]
    refine (merge_agree _ [] xs ys).bind fun zs => ?_
    exact (mergePairs_agree more).bind fun _ => .pure rfl

theorem mergeAll_agree : (n : Nat) → (xss : List (List (Datum × Datum))) →
    Agree m (mergeAll n xss) (mergeAll n (xss.map (moved m.put)))
  | 0, _ => .pure List.map_flatten.symm
  | _ + 1, [] => .pure rfl
  | _ + 1, [_] => .pure rfl
  | n + 1, xs :: ys :: more =>
    (mergePairs_agree (xs :: ys :: more)).bind fun zss => mergeAll_agree n zss

theorem sort_agree (isReversed : Bool) (keyed : List (Datum × Datum)) :
    Agree m (sort isReversed keyed) (sort isReversed (keyed.map (moved m.put))) := by
  have source : (if isReversed then (keyed.map (moved m.put)).reverse else keyed.map (moved m.put)) =
      (if isReversed then keyed.reverse else keyed).map (moved m.put) := by
    cases isReversed with
    | true => exact List.map_reverse.symm
    | false => rfl
  simp only [sort, source, List.length_map, List.map_map]
  have sorted := mergeAll_agree (m := m)
    ((if isReversed then keyed.reverse else keyed).length.log2 + 2)
    ((if isReversed then keyed.reverse else keyed).map fun p => [p])
  rw [List.map_map] at sorted
  refine sorted.bind fun sorted => .pure ?_
  cases isReversed <;> simp

end Sorting

end SessionScript.Evaluator
