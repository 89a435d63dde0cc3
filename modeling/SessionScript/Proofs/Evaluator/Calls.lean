import SessionScript.Proofs.Evaluator.Iteration

/-!
# Calls at other places

If the functions of the evaluation agree with some fuel, calls have the same results with one unit
of fuel more.
-/

namespace SessionScript.Evaluator

open Code (Expr Stmt BinaryOp)

variable {m : Move} {n : Nat}

section

variable (h : EvaluatesAlike m n)
include h

theorem callDatum_succ (f : Datum) (args : Args) :
    Agree m (callDatum (n + 1) f args) (callDatum (n + 1) (moved m.put f) (moved m.put args)) := by
  have refuse (d : Datum) : Agree m
      (do Work.typeError ("'" ++ (← d.typeName) ++ "' object is not callable") : Work Datum)
      (do Work.typeError ("'" ++ (← (moved m.put d).typeName) ++ "' object is not callable")) :=
    (Datum.typeName_agree d).bind fun _ => .typeError
  cases f with
  | type name => exact h.callType name args
  | builtin name => exact h.callBuiltin name args
  | method owner name => exact h.callMethod owner name args
  | unbound t name =>
    obtain ⟨positional, named⟩ := args
    cases positional with
    | nil => exact .typeError
    | cons owner rest =>
      refine .get_bind fun s s' st => ?_
      dsimp only [moved_args, List.map_cons]
      rw [Builtin.isBelow_moved st]
      refine .ite Iff.rfl (fun _ => h.callMethod owner name ⟨rest, named⟩) fun _ => ?_
      exact (Datum.typeName_agree owner).bind fun _ => .typeError
  | cell a =>
    refine (Agree.read a).bind fun c => ?_
    cases c with
    | function f => exact h.callClosure f args
    | _ => exact refuse (.cell a)
  | _ => exact refuse _

theorem callClosure_succ (f : Closure) (args : Args) :
    Agree m (callClosure (n + 1) f args)
      (callClosure (n + 1) (moved m.put f) (moved m.put args)) := by
  refine (Closure.bindArguments_agree f args).bind fun bound => ?_
  refine .newCell_bind (c := .names bound) rfl fun frame => ?_
  refine .ite Iff.rfl (fun _ => .new .coroutine) fun _ => ?_
  refine .ite Iff.rfl (fun _ => .new (.iterator (.suspended f frame))) fun _ => ?_
  let inner : Scope := { f.scope with
    frames := ⟨frame, f.names, false⟩ :: f.scope.frames
    path := f.fullName ++ ".<locals>."
    results := none }
  exact (h.runBody f inner).nested

theorem runBody_succ (f : Closure) (sc : Scope) :
    Agree m (runBody (n + 1) f sc) (runBody (n + 1) (moved m.put f) (moved m.put sc)) := by
  simp only [runBody, Closure.moved_body]
  cases f.body with
  | value e => exact h.eval sc e
  | block body =>
    refine (h.execBlock sc body).bind fun flow => ?_
    cases flow <;> exact .pure rfl

theorem zipSources_succ (ds : List Datum) (i : Nat) :
    Agree m (zipSources (n + 1) ds i) (zipSources (n + 1) (ds.map (moved m.put)) i) := by
  cases ds with
  | nil => exact .pure rfl
  | cons d ds =>
    refine (Datum.iterator?_agree d).bind fun it => ?_
    cases it with
    | some it => exact (h.zipSources ds (i + 1)).bind fun _ => .pure rfl
    | none => exact (Datum.typeName_agree d).bind fun _ => .typeError

theorem walkFirst_succ (args : Args) :
    Agree m (walkFirst (n + 1) args) (walkFirst (n + 1) (moved m.put args)) := by
  obtain ⟨positional, named⟩ := args
  cases positional with
  | nil => exact .pure rfl
  | cons d ds => exact (h.itemsOf d).bind fun xs => .pure (by simp)

theorem walkAll_succ (ds : List Datum) :
    Agree m (walkAll (n + 1) ds) (walkAll (n + 1) (ds.map (moved m.put))) := by
  cases ds with
  | nil => exact .pure rfl
  | cons d ds =>
    exact (h.itemsOf d).bind fun xs => (h.walkAll ds).bind fun more => .pure (by simp)

theorem walkPairs_succ (args : Args) :
    Agree m (walkPairs (n + 1) args) (walkPairs (n + 1) (moved m.put args)) := by
  obtain ⟨positional, named⟩ := args
  rcases positional with _ | ⟨d, _ | ⟨d', ds⟩⟩
  · exact .pure rfl
  · refine (Datum.isMapping_agree d).bind fun isMapping => ?_
    refine .ite Iff.rfl (fun _ => .pure rfl) fun _ => ?_
    exact (h.itemsOf d).bind fun xs => (h.pairsOf xs 0).bind fun pairs => .pure (by simp)
  · exact .pure rfl

theorem pairsOf_succ (ds : List Datum) (i : Nat) :
    Agree m (pairsOf (n + 1) ds i) (pairsOf (n + 1) (ds.map (moved m.put)) i) := by
  cases ds with
  | nil => exact .pure rfl
  | cons d ds =>
    simp only [List.map_cons, pairsOf]
    refine (Datum.iterator?_agree d).bind fun it => ?_
    rw [moved_option, Option.isNone_map]
    refine .guard ?_
    refine (h.itemsOf d).bind fun xs => ?_
    rcases xs with _ | ⟨k, _ | ⟨v, _ | ⟨x, xs⟩⟩⟩
    · exact .valueError
    · exact .valueError
    · refine (Datum.needKey_agree k).bind fun _ => ?_
      exact (h.pairsOf ds (i + 1)).bind fun _ => .pure (by simp)
    · simp only [moved_list, List.map_cons, List.length_cons, List.length_map]
      exact .valueError

theorem callType_succ (name : String) (args : Args) :
    Agree m (callType (n + 1) name args) (callType (n + 1) name (moved m.put args)) := by
  simp only [callType, Args.moved_named, Args.moved_positional, List.isEmpty_map]
  refine .ite Iff.rfl (fun _ => .guard (.pure ?_)) fun _ => ?_
  · rw [ErrorKind.make_moved]
    exact (Datum.moved_error _ _).symm
  split
  · refine (Args.byName_agree _ _ args).bind fun ds => ?_
    rw [moved_list, getD_none_moved, getD_none_moved]
    cases ds.getD 0 none with
    | none => exact .typeError
    | some d =>
      have numbered (start : Int) : Agree m
          (do Work.new (.iterator (.numbered (← d.iterator) start)))
          (do Work.new (.iterator (.numbered (← (moved m.put d).iterator) start))) :=
        (Datum.iterator_agree d).bind fun it => .new (.iterator (.numbered it start))
      cases ds.getD 1 none with
      | some s => exact (Args.integer_agree s).bind numbered
      | none => exact .bind (.pure rfl) numbered
  · have zipped (strict : Bool) : Agree m
        (do let sources ← zipSources n args.positional 1
            Work.new (.iterator (.zipped sources strict)))
        (do let sources ← zipSources n (args.positional.map (moved m.put)) 1
            Work.new (.iterator (.zipped sources strict))) :=
      (h.zipSources args.positional 1).bind fun sources => .new (.iterator (.zipped sources strict))
    rw [lookup_moved]
    cases args.named.lookup "strict" with
    | some d => exact (Datum.truth_agree d).bind zipped
    | none => exact .bind (.pure rfl) zipped
  · rcases args.positional with _ | ⟨f, _ | ⟨d, more⟩⟩
    · exact .typeError
    · exact .typeError
    · have sources : Agree m ((d :: more).mapM Datum.iterator)
          (((d :: more).map (moved m.put)).mapM Datum.iterator) :=
        .mapM fun d _ => Datum.iterator_agree d
      exact sources.bind fun sources => .new (.iterator (.mapped f sources))
  · refine (Args.between_agree _ _ _ args).bind fun ds => ?_
    rw [moved_list, headD_moved, getD_moved]
    exact (Datum.iterator_agree _).bind fun it => .new (.iterator (.filtered (ds.headD .none) it))
  · refine (Args.between_agree _ _ _ args).bind fun ds => ?_
    rw [moved_list, headD_moved]
    exact Datum.reversedIterator_agree _
  iterate 4 · exact (h.walkFirst args).bind fun args => Builtin.call_agree _ args
  · exact (h.walkPairs args).bind fun args => Builtin.call_agree _ args
  · have plain := Builtin.call_agree (m := m) "bytes" args
    have walked : Agree m (do Builtin.call "bytes" (← walkFirst n args))
        (do Builtin.call "bytes" (← walkFirst n (moved m.put args))) :=
      (h.walkFirst args).bind fun args => Builtin.call_agree _ args
    rcases args.positional with _ | ⟨d, _ | ⟨d', ds⟩⟩
    · exact plain
    · cases d <;> first | exact plain | exact walked
    · exact plain
  · exact Builtin.call_agree _ args

theorem search_succ (it : Datum) (wanted : Bool) :
    Agree m (search (n + 1) it wanted) (search (n + 1) (moved m.put it) wanted) := by
  refine (h.advance it).bind fun x => ?_
  cases x with
  | none => exact .pure rfl
  | some d =>
    refine (Datum.truth_agree d).bind fun holds => ?_
    exact .ite Iff.rfl (fun _ => .pure rfl) fun _ => h.search it wanted

theorem keyed_succ (key : Datum) (ds : List Datum) :
    Agree m (keyed (n + 1) key ds) (keyed (n + 1) (moved m.put key) (ds.map (moved m.put))) := by
  cases ds with
  | nil => exact .pure rfl
  | cons d ds =>
    have more (k : Datum) : Agree m
        (do return (k, d) :: (← keyed n key ds))
        (do return (moved m.put k, moved m.put d) ::
              (← keyed n (moved m.put key) (ds.map (moved m.put)))) :=
      (h.keyed key ds).bind fun _ => .pure rfl
    cases key with
    | none => exact .bind (.pure rfl) more
    | _ => exact (h.callDatum _ (.ofList [d])).bind more

theorem best_agree (name : String) (op : Code.CompareOp) (key : Datum) (default : Option Datum)
    (items : List Datum) : Agree m
      (do
        match ← keyed n key items, default with
        | [], some d => return d
        | [], none => Work.valueError (name ++ "() arg is an empty sequence")
        | first :: rest, _ =>
          let best ← rest.foldlM (fun (best : Datum × Datum) (p : Datum × Datum) => do
            if ← p.1.order op best.1 then return p else return best) first
          return best.2)
      (do
        match ← keyed n (moved m.put key) (items.map (moved m.put)),
            default.map (moved m.put) with
        | [], some d => return d
        | [], none => Work.valueError (name ++ "() arg is an empty sequence")
        | first :: rest, _ =>
          let best ← rest.foldlM (fun (best : Datum × Datum) (p : Datum × Datum) => do
            if ← p.1.order op best.1 then return p else return best) first
          return best.2) := by
  refine (h.keyed key items).bind fun keyed => ?_
  cases keyed with
  | nil =>
    cases default with
    | some d => exact .pure rfl
    | none => exact .valueError
  | cons first rest =>
    refine Agree.bind (Agree.foldlM first fun best p => ?_) fun best => .pure rfl
    refine (Datum.order_agree op p.1 best.1).bind fun better => ?_
    exact .ite Iff.rfl (fun _ => .pure rfl) fun _ => .pure rfl

theorem choose_succ (name : String) (op : Code.CompareOp) (args : Args) :
    Agree m (choose (n + 1) name op args) (choose (n + 1) name op (moved m.put args)) := by
  have best := best_agree h name op ((args.named.lookup "key").getD .none)
    (args.named.lookup "default")
  simp only [choose, Args.moved_named, Args.moved_positional, List.find?_map, Function.comp_def,
    moved_pair, moved_constant, lookup_moved, option_getD_moved, Option.isSome_map]
  cases args.named.find? fun p => p.1 != "key" && p.1 != "default"
  case' some => refine .bind .typeError fun _ => ?_
  all_goals
    rcases args.positional with _ | ⟨d, _ | ⟨d', ds⟩⟩
    · exact .bind .typeError best
    · exact (h.itemsOf d).bind best
    · exact .guard (.bind (.pure rfl) best)

theorem next_agree (d : Datum) (default : Option Datum) : Agree m
    (do match ← advance n d, default with
        | some x, _ => return x
        | none, some d => return d
        | none, none => throw ⟨"StopIteration", []⟩)
    (do match ← advance n (moved m.put d), default.map (moved m.put) with
        | some x, _ => return x
        | none, some d => return d
        | none, none => throw ⟨"StopIteration", []⟩) := by
  refine (h.advance d).bind fun x => ?_
  cases x with
  | some x => exact .pure rfl
  | none => cases default <;> first | exact .pure rfl | exact .throw rfl

theorem callBuiltin_succ (name : String) (args : Args) :
    Agree m (callBuiltin (n + 1) name args) (callBuiltin (n + 1) name (moved m.put args)) := by
  simp only [callBuiltin, Args.moved_named, Args.moved_positional]
  split
  · refine (Args.one_agree _ args).bind fun d => (Datum.iterator_agree d).bind fun it => ?_
    exact (h.search it false).bind fun _ => .pure rfl
  · refine (Args.one_agree _ args).bind fun d => (Datum.iterator_agree d).bind fun it => ?_
    exact (h.search it true).bind fun _ => .pure rfl
  · rw [List.isEmpty_map]
    exact .guard ((h.walkFirst args).bind fun args => Builtin.call_agree _ args)
  · refine (sortOptions_agree _ args.named).bind fun p => ?_
    refine (Args.between_agree _ _ _ ⟨args.positional, []⟩).bind fun ds => ?_
    rw [moved_list, headD_moved]
    refine (h.itemsOf _).bind fun items => (h.keyed p.1 items).bind fun keyed => ?_
    exact (Sorting.sort_agree p.2 keyed).bind fun ds => .newList ds
  · exact h.choose _ .lt args
  · exact h.choose _ .gt args
  · exact (Args.one_agree _ args).bind fun d => Datum.iterator_agree d
  · refine (Args.between_agree _ _ _ args).bind fun ds => ?_
    rw [moved_list, headD_moved, List.getElem?_map]
    generalize ds.headD .none = d
    have refuse (d : Datum) {w w' : Work Datum} (k : Agree m w w') : Agree m
        (do Work.typeError ("'" ++ (← d.typeName) ++ "' object is not an iterator"); w)
        (do Work.typeError ("'" ++ (← (moved m.put d).typeName) ++ "' object is not an iterator")
            w') :=
      (Datum.typeName_agree d).bind fun _ => .bind .typeError fun _ => k
    have next := next_agree h d (ds[1]? : Option Datum)
    cases d with
    | cell a =>
      refine (Agree.read a).bind fun c => ?_
      cases c with
      | iterator it => exact next
      | _ => exact refuse (.cell a) next
    | _ => exact refuse _ next
  · exact Builtin.call_agree _ args

theorem charTable_succ (args : Args) :
    Agree m (charTable (n + 1) args) (charTable (n + 1) (moved m.put args)) := by
  have text {d : Datum} {s : String} (same : moved m.put d = .text s) : d = .text s := by
    cases d with
    | text s' => exact same
    | _ => exact Datum.noConfusion same
  unfold charTable
  rw [Args.moved_positional]
  generalize args.positional = ds
  split
  next d =>
    refine (Datum.isMapping_agree d).bind fun isMapping => ?_
    extract_lets keyOf fill
    have filled (source : Datum) : Agree m (fill source) (fill (moved m.put source)) := by
      refine (Method.entriesOf_agree source).bind fun pairs => ?_
      have moves (k : Datum) : keyOf (moved m.put k) = moved m.put (keyOf k) := by
        cases k with
        | text s =>
          dsimp only [keyOf, Datum.moved_text]
          split <;> rfl
        | _ => rfl
      have new := newDict_agree (m := m) (pairs.map fun p => (keyOf p.1, p.2))
      simp only [List.map_map, Function.comp_def, moved_pair, ← moves] at new
      rw [moved_list, List.map_map]
      exact new
    refine .ite Iff.rfl (fun _ => .bind (.pure rfl) filled) fun _ => ?_
    exact .bind (.map (h.itemsOf d) fun _ => (Datum.moved_tuple _).symm) filled
  next a b more =>
    refine .guard ?_
    dsimp -zeta only
    extract_lets changed gone gone'
    have changed_still : changed.map (moved m.put) = changed := by
      rw [List.map_map]
      rfl
    have gone_moved : gone' = gone.map (moved m.put) := by
      dsimp only [gone, gone']
      cases more with
      | nil => rfl
      | cons d _ =>
        cases d with
        | text g =>
          rw [List.map_cons, Datum.moved_text]
          simp
        | _ => rfl
    have new := newDict_agree (m := m) (changed ++ gone)
    rw [List.map_append, changed_still, ← gone_moved] at new
    exact new
  next not_one not_texts =>
    split
    next d one =>
      obtain ⟨d, rfl, -⟩ := List.map_eq_singleton_iff.1 one
      exact (not_one d rfl).elim
    next a b more texts =>
      obtain ⟨d, ds, rfl, first, texts⟩ := List.map_eq_cons_iff.1 texts
      obtain ⟨d', ds, rfl, second, -⟩ := List.map_eq_cons_iff.1 texts
      rw [text first, text second] at not_texts
      exact (not_texts a b ds rfl).elim
    next => exact .typeError

theorem walked_agree (owner : Datum) (name : String) (args : Args) : Agree m
    (do Method.call owner name ⟨← walkAll n args.positional, args.named⟩)
    (do Method.call (moved m.put owner) name
          ⟨← walkAll n (args.positional.map (moved m.put)), args.named.map (moved m.put)⟩) :=
  (h.walkAll args.positional).bind fun ds => Method.call_agree owner name ⟨ds, args.named⟩

theorem callMethod_cell (a : Nat) (name : String) (args : Args) :
    Agree m (callMethod (n + 1) (.cell a) name args)
      (callMethod (n + 1) (.cell (m.put a)) name (moved m.put args)) := by
  have walked := walked_agree h (.cell a) name args
  have walks : Agree m
      (if Method.walkingNames.contains name then
        (do Method.call (.cell a) name ⟨← walkAll n args.positional, args.named⟩)
      else Method.call (.cell a) name args)
      (if Method.walkingNames.contains name then
        (do Method.call (.cell (m.put a)) name
              ⟨← walkAll n (args.positional.map (moved m.put)), args.named.map (moved m.put)⟩)
      else Method.call (.cell (m.put a)) name (moved m.put args)) :=
    .ite Iff.rfl (fun _ => walked) fun _ => Method.call_agree (.cell a) name args
  simp only [callMethod]
  refine (Agree.read a).bind fun c => ?_
  -- What a container does itself is settled by its kind and the name, on both sides alike.
  cases c with
  | list xs =>
    rw [Cell.moved_list]
    split <;> try contradiction
    · cases ‹Cell.list xs = _›
      simp only [Args.moved_positional, Args.moved_named, List.isEmpty_map]
      refine .guard ?_
      refine (sortOptions_agree _ args.named).bind fun p => ?_
      rw [Array.toList_map]
      refine (h.keyed p.1 xs.toList).bind fun keyed => ?_
      refine Agree.bind (Sorting.sort_agree p.2 keyed) fun ds => ?_
      have written := Agree.write (m := m) a (.list ds.toArray)
      rw [Cell.moved_list, List.map_toArray] at written
      exact written.bind fun _ => .pure rfl
    · split <;> first | exact walks | simp_all
  | dict es =>
    rw [Cell.moved_dict]
    split <;> try contradiction
    · exact (h.walkPairs args).bind fun args => Method.call_agree (.cell a) _ args
    · exact h.callMethod (.type "dict") _ args
    · split <;> first | exact walks | simp_all
  | set xs frozen =>
    rw [Cell.moved_set]
    split <;> try contradiction
    · exact walked
    · split <;> first | exact walks | simp_all
  | _ => exact walks

theorem joined_agree (owner : Datum) (name : String) (args : Args) : Agree m
    (match args.positional with
      | [d] => do
        match ← d.iterator? with
        | some _ => Method.call owner name (.ofList [.tuple (← itemsOf n d)])
        | none => Work.typeError "can only join an iterable"
      | _ => Method.call owner name args)
    (match args.positional.map (moved m.put) with
      | [d] => do
        match ← d.iterator? with
        | some _ => Method.call (moved m.put owner) name (.ofList [.tuple (← itemsOf n d)])
        | none => Work.typeError "can only join an iterable"
      | _ => Method.call (moved m.put owner) name (moved m.put args)) := by
  have plain := Method.call_agree (m := m) owner name args
  rcases args.positional with _ | ⟨d, _ | ⟨d', ds⟩⟩
  · exact plain
  · refine (Datum.iterator?_agree d).bind fun it => ?_
    cases it with
    | none => exact .typeError
    | some it =>
      refine (h.itemsOf d).bind fun ds => ?_
      have call := Method.call_agree (m := m) owner name (.ofList [.tuple ds])
      simp only [Args.ofList, moved_args, List.map_cons, List.map_nil, Datum.moved_tuple] at call
      exact call
  · exact plain

theorem callMethod_succ (owner : Datum) (name : String) (args : Args) :
    Agree m (callMethod (n + 1) owner name args)
      (callMethod (n + 1) (moved m.put owner) name (moved m.put args)) := by
  have plain := Method.call_agree (m := m) owner name args
  have joined := joined_agree h owner name args
  cases owner with
  | text s =>
    simp only [callMethod, Datum.moved_text, Args.moved_positional]
    split <;> try contradiction
    · exact Field.format_agree _ args none
    · exact (Args.one_agree _ args).bind fun d => Field.format_agree _ args (some d)
    · exact joined
    · exact plain
  | bytes bs =>
    simp only [callMethod, Datum.moved_bytes, Args.moved_positional]
    split <;> try contradiction
    · exact joined
    · exact plain
  | type t =>
    simp only [callMethod, Datum.moved_type]
    split <;> try contradiction
    · refine (Args.between_agree _ _ _ args).bind fun ds => ?_
      rw [moved_list, headD_moved]
      refine (h.itemsOf _).bind fun keys => ?_
      refine .bind (.forM fun k _ => Datum.needKey_agree k) fun _ => ?_
      have table := newDict_agree (m := m) (keys.map fun k => (k, ds.getD 1 .none))
      rw [List.map_map] at table
      rw [moved_list, List.map_map, getD_moved]
      exact table
    · exact h.charTable args
    · exact plain
  | cell a => exact callMethod_cell h a name args
  | _ => simpa [callMethod] using plain

end

end SessionScript.Evaluator
