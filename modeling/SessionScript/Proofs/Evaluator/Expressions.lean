import SessionScript.Proofs.Evaluator.Alike

/-!
# Expressions at other places

If the functions of the evaluation agree with some fuel, expressions have the same values with one
unit of fuel more.
-/

namespace SessionScript.Evaluator

open Code (Expr Stmt BinaryOp)

variable {m : Move} {n : Nat}

theorem newSet_agree (ds : List Datum) : Agree m
    (do ds.forM Datum.needKey; Work.new (.set (Members.ofList ds) false))
    (do (ds.map (moved m.put)).forM Datum.needKey
        Work.new (.set (Members.ofList (ds.map (moved m.put))) false)) := by
  rw [Members.ofList_moved]
  exact (Agree.forM fun d _ => Datum.needKey_agree d).bind fun _ => .new (.set _ false)

theorem newDict_agree (es : Pairs) : Agree m (Work.new (.dict (Method.putAll [] es)))
    (Work.new (.dict (Method.putAll [] (es.map (moved m.put))))) := by
  have same := Agree.new (m := m) (.dict (Method.putAll [] es))
  rw [Cell.moved_dict, ← Method.putAll_moved] at same
  exact same

section

variable (h : EvaluatesAlike m n)
include h

theorem drain_empty (it : Datum) : Agree m (drain n it #[]) (drain n (moved m.put it) #[]) := by
  have drained := h.drain it #[]
  rw [Array.map_empty] at drained
  exact drained

theorem collect_empty (sc : Scope) (element : Element) (loops : List Loop) :
    Agree m (collect n sc element loops #[])
      (collect n (moved m.put sc) element (loops.map (moved m.put)) #[]) := by
  have collected := h.collect sc element loops #[]
  rw [Array.map_empty] at collected
  exact collected

theorem eval_succ (sc : Scope) (e : Expr) :
    Agree m (eval (n + 1) sc e) (eval (n + 1) (moved m.put sc) e) := by
  cases e with
  | constant c => exact .pure (ofConstant_moved c).symm
  | formatted parts => exact (h.evalParts sc parts).bind fun _ => .pure rfl
  | name s => exact Scope.load_agree sc s
  | «attribute» e name => exact (h.eval sc e).bind fun d => Method.memberOf_agree d name
  | subscript e i =>
    exact (h.eval sc e).bind fun d => (h.eval sc i).bind fun k => Datum.item_agree d k
  | slice low high step =>
    refine (h.evalOption sc low).bind fun l => (h.evalOption sc high).bind fun u => ?_
    exact (h.evalOption sc step).bind fun s => .pure rfl
  | call f args named =>
    refine (h.eval sc f).bind fun fd => (h.evalItems sc (some fd) args).bind fun positional => ?_
    exact (h.evalNamed sc fd [] named).bind fun named => h.callDatum fd ⟨positional, named⟩
  | unary op e => exact (h.eval sc e).bind fun d => Datum.operateUnary_agree op d
  | binary op l r =>
    exact (h.eval sc l).bind fun a => (h.eval sc r).bind fun b => Datum.binary_agree op false a b
  | boolean op es => exact h.evalBoolean sc op es
  | compare first rest => exact (h.eval sc first).bind fun d => h.evalCompare sc d rest
  | conditional test body orElse =>
    refine (h.eval sc test).bind fun d => (Datum.truth_agree d).bind fun holds => ?_
    exact .ite Iff.rfl (fun _ => h.eval sc body) fun _ => h.eval sc orElse
  | lambda params body => exact (h.evalParams sc params).bind fun params => .new (.function _)
  | list es => exact (h.evalItems sc none es).bind fun ds => .newList ds
  | tuple es =>
    exact (h.evalItems sc none es).bind fun ds => .pure (Datum.moved_tuple ds).symm
  | set es => exact (h.evalItems sc none es).bind fun ds => newSet_agree ds
  | dict es => exact (h.evalEntries sc [] es).bind fun es => .new (.dict es)
  | comprehension kind element clauses =>
    refine (h.openLoops sc clauses).bind fun p => ?_
    cases kind with
    | generator => exact .new (.iterator (.comprehension p.1 (.item element) p.2))
    | list =>
      exact (collect_empty h p.1 (.item element) p.2).bind fun ds => .new (.list ds)
    | set =>
      refine (collect_empty h p.1 (.item element) p.2).bind fun ds => ?_
      rw [moved_array, Array.toList_map]
      exact newSet_agree ds.toList
  | dictComprehension key value clauses =>
    refine (h.openLoops sc clauses).bind fun p => ?_
    refine (collect_empty h p.1 (.entry key value) p.2).bind fun ds => ?_
    have entries := Method.entriesOf_agree (m := m) (.tuple ds.toList)
    rw [Datum.moved_tuple] at entries
    rw [moved_array, Array.toList_map]
    exact entries.bind fun es => newDict_agree es
  | starred e => exact .typeError
  | assigned name e =>
    refine (h.eval sc e).bind fun d => ?_
    rw [Scope.withoutComprehensions_moved]
    exact (Scope.assign_agree _ name d).bind fun _ => .pure rfl
  | await e =>
    exact (h.eval sc e).bind fun d => (Datum.typeName_agree d).bind fun _ => .typeError
  | yield e =>
    exact (h.evalOption sc e).bind fun d => (giveResult_agree sc d).bind fun _ => .pure rfl
  | yieldFrom e =>
    refine (h.eval sc e).bind fun d => (Datum.iterator_agree d).bind fun it => ?_
    refine (drain_empty h it).bind fun ds => ?_
    rw [moved_array, Array.toList_map]
    exact (Agree.forM fun d _ => giveResult_agree sc d).bind fun _ => .pure rfl

theorem evalOption_succ (sc : Scope) (e : Option Expr) :
    Agree m (evalOption (n + 1) sc e) (evalOption (n + 1) (moved m.put sc) e) := by
  cases e with
  | some e => exact h.eval sc e
  | none => exact .pure rfl

theorem evalItems_succ (sc : Scope) (owner : Option Datum) (es : List Expr) :
    Agree m (evalItems (n + 1) sc owner es)
      (evalItems (n + 1) (moved m.put sc) (owner.map (moved m.put)) es) := by
  match es with
  | [] => exact .pure rfl
  | e :: es =>
    cases e with
    | starred e =>
      refine (h.eval sc e).bind fun d => (Datum.iterator?_agree d).bind fun it => ?_
      cases it with
      | some it =>
        refine (drain_empty h it).bind fun ds => ?_
        exact (h.evalItems sc owner es).bind fun more => .pure (by simp)
      | none =>
        refine (Datum.typeName_agree d).bind fun t => ?_
        cases owner with
        | some f => exact (Datum.functionText_agree f).bind fun _ => .typeError
        | none => exact .typeError
    | _ => exact (h.eval sc _).bind fun d => (h.evalItems sc owner es).bind fun ds => .pure rfl

/-- The entries of a mapping are arguments by name, and those that follow it come behind them. -/
theorem evalMapping_agree (sc : Scope) (f d : Datum) (acc : List (String × Datum))
    (es : List (Option String × Expr)) : Agree m
    (do
      let pairs ← Method.entriesOf d
      let acc ← pairs.foldlM (fun acc (p : Datum × Datum) => do
        match p.1 with
        | .text name =>
          if (List.lookup name acc).isSome then repeated f name
          return acc ++ [(name, p.2)]
        | _ => Work.typeError "keywords must be strings") acc
      evalNamed n sc f acc es)
    (do
      let pairs ← Method.entriesOf (moved m.put d)
      let acc ← pairs.foldlM (fun acc (p : Datum × Datum) => do
        match p.1 with
        | .text name =>
          if (List.lookup name acc).isSome then repeated (moved m.put f) name
          return acc ++ [(name, p.2)]
        | _ => Work.typeError "keywords must be strings") (acc.map (moved m.put))
      evalNamed n (moved m.put sc) (moved m.put f) acc es) := by
  refine (Method.entriesOf_agree d).bind fun pairs => ?_
  refine Agree.bind (Agree.foldlM acc fun acc p => ?_) fun acc => h.evalNamed sc f acc es
  obtain ⟨k, v⟩ := p
  cases k with
  | text name =>
    simp only [moved_pair, Datum.moved_text, moved_list, lookup_moved, Option.isSome_map]
    have kept : Agree m (pure (acc ++ [(name, v)]) : Work (List (String × Datum)))
        (pure (acc.map (moved m.put) ++ [(name, moved m.put v)])) := .pure (by simp)
    exact .ite Iff.rfl (fun _ => (repeated_agree f name).bind fun _ => kept) fun _ => kept
  | _ => exact .typeError

theorem evalNamed_succ (sc : Scope) (f : Datum) (acc : List (String × Datum))
    (es : List (Option String × Expr)) :
    Agree m (evalNamed (n + 1) sc f acc es)
      (evalNamed (n + 1) (moved m.put sc) (moved m.put f) (acc.map (moved m.put)) es) := by
  match es with
  | [] => exact .pure rfl
  | (some name, e) :: es =>
    simp only [evalNamed]
    refine (h.eval sc e).bind fun d => ?_
    rw [lookup_moved, Option.isSome_map]
    have more := h.evalNamed sc f (acc ++ [(name, d)]) es
    rw [List.map_append] at more
    exact .ite Iff.rfl (fun _ => (repeated_agree f name).bind fun _ => more) fun _ => more
  | (none, e) :: es =>
    simp only [evalNamed]
    refine (h.eval sc e).bind fun d => (Datum.isMapping_agree d).bind fun isMapping => ?_
    have more := evalMapping_agree h sc f d acc es
    refine .ite Iff.rfl (fun _ => ?_) fun _ => more
    refine (Datum.functionText_agree f).bind fun _ => (Datum.typeName_agree d).bind fun _ => ?_
    exact .bind .typeError fun _ => more

theorem evalEntries_succ (sc : Scope) (acc : Pairs) (es : List (Option Expr × Expr)) :
    Agree m (evalEntries (n + 1) sc acc es)
      (evalEntries (n + 1) (moved m.put sc) (acc.map (moved m.put)) es) := by
  match es with
  | [] => exact .pure rfl
  | (some k, e) :: es =>
    refine (h.eval sc k).bind fun key => (h.eval sc e).bind fun d => ?_
    refine (Datum.needKey_agree key).bind fun _ => ?_
    rw [Pairs.put_moved]
    exact h.evalEntries sc _ es
  | (none, e) :: es =>
    simp only [evalEntries]
    refine (h.eval sc e).bind fun d => (Datum.isMapping_agree d).bind fun isMapping => ?_
    have more : Agree m
        (do evalEntries n sc (Method.putAll acc (← Method.entriesOf d)) es)
        (do evalEntries n (moved m.put sc)
              (Method.putAll (acc.map (moved m.put)) (← Method.entriesOf (moved m.put d))) es) := by
      refine (Method.entriesOf_agree d).bind fun entries => ?_
      rw [moved_list, Method.putAll_moved]
      exact h.evalEntries sc _ es
    refine .ite Iff.rfl (fun _ => ?_) fun _ => more
    exact (Datum.typeName_agree d).bind fun _ => .bind .typeError fun _ => more

theorem evalParts_succ (sc : Scope) (parts : List Code.FormatPart) :
    Agree m (evalParts (n + 1) sc parts) (evalParts (n + 1) (moved m.put sc) parts) := by
  match parts with
  | [] => exact .pure rfl
  | .text s :: parts => exact (h.evalParts sc parts).bind fun _ => .pure rfl
  | .field e conversion format :: parts =>
    refine (h.eval sc e).bind fun d => (Field.convert_agree conversion d).bind fun d => ?_
    have here (spec : String) : Agree m
        (do let here ← d.format spec; return here ++ (← evalParts n sc parts))
        (do let here ← (moved m.put d).format spec
            return here ++ (← evalParts n (moved m.put sc) parts)) :=
      (Datum.format_agree d spec).bind fun _ => (h.evalParts sc parts).bind fun _ => .pure rfl
    cases format with
    | none => exact .bind (.pure rfl) here
    | some ps => exact (h.evalParts sc ps).bind here

theorem evalBoolean_succ (sc : Scope) (op : Code.BoolOp) (es : List Expr) :
    Agree m (evalBoolean (n + 1) sc op es) (evalBoolean (n + 1) (moved m.put sc) op es) := by
  match es with
  | [] => exact .pure rfl
  | [e] => exact h.eval sc e
  | e :: e' :: es =>
    refine (h.eval sc e).bind fun d => (Datum.truth_agree d).bind fun holds => ?_
    exact .ite Iff.rfl (fun _ => .pure rfl) fun _ => h.evalBoolean sc op (e' :: es)

theorem evalCompare_succ (sc : Scope) (left : Datum) (rest : List (Code.CompareOp × Expr)) :
    Agree m (evalCompare (n + 1) sc left rest)
      (evalCompare (n + 1) (moved m.put sc) (moved m.put left) rest) := by
  match rest with
  | [] => exact .pure rfl
  | (op, e) :: more =>
    refine (h.eval sc e).bind fun right => (h.compare op left right).bind fun holds => ?_
    exact .ite Iff.rfl (fun _ => .pure rfl) fun _ => h.evalCompare sc right more

theorem compare_succ (op : Code.CompareOp) (a b : Datum) :
    Agree m (compare (n + 1) op a b) (compare (n + 1) op (moved m.put a) (moved m.put b)) := by
  cases op with
  | eq => exact Datum.equals_agree a b
  | notEq => exact (Datum.equals_agree a b).bind fun _ => .pure rfl
  | is => exact .pure (Datum.isSame_moved a b)
  | isNot => exact .pure (congrArg _ (Datum.isSame_moved a b))
  | isIn => exact h.contains a b
  | notIn => exact (h.contains a b).bind fun _ => .pure rfl
  | lt | le | gt | ge => exact Datum.order_agree _ a b

theorem contains_succ (d container : Datum) :
    Agree m (contains (n + 1) d container)
      (contains (n + 1) (moved m.put d) (moved m.put container)) := by
  refine (Datum.has?_agree container d).bind fun found => ?_
  cases found with
  | some b => exact .pure rfl
  | none =>
    refine (Datum.iterator?_agree container).bind fun it => ?_
    cases it with
    | some it => exact h.seek d it
    | none => exact (Datum.typeName_agree container).bind fun _ => .typeError

theorem seek_succ (d it : Datum) :
    Agree m (seek (n + 1) d it) (seek (n + 1) (moved m.put d) (moved m.put it)) := by
  refine (h.advance it).bind fun x => ?_
  cases x with
  | none => exact .pure rfl
  | some x =>
    refine (Datum.coincides_agree x d).bind fun same => ?_
    exact .ite Iff.rfl (fun _ => .pure rfl) fun _ => h.seek d it

theorem evalParams_succ (sc : Scope) (params : List Code.Param) :
    Agree m (evalParams (n + 1) sc params) (evalParams (n + 1) (moved m.put sc) params) := by
  match params with
  | [] => exact .pure rfl
  | p :: ps =>
    have more (default : Option Datum) : Agree m
        (do return Parameter.ofParam p default :: (← evalParams n sc ps))
        (do return Parameter.ofParam p (moved m.put default) ::
              (← evalParams n (moved m.put sc) ps)) := by
      refine (h.evalParams sc ps).bind fun params => .pure ?_
      rw [moved_option, Parameter.ofParam_moved]
      rfl
    have given (e : Expr) : Agree m (some <$> eval n sc e) (some <$> eval n (moved m.put sc) e) :=
      (h.eval sc e).map fun _ => rfl
    simp only [evalParams]
    cases defaultOf p with
    | none => exact .bind (.pure rfl) more
    | some e => exact (given e).bind more

theorem openLoops_succ (sc : Scope) (clauses : List Code.Clause) :
    Agree m (openLoops (n + 1) sc clauses) (openLoops (n + 1) (moved m.put sc) clauses) := by
  match clauses with
  | [] => exact .pure rfl
  | .mk target source conditions _ :: rest =>
    refine (h.eval sc source).bind fun d => (Datum.iterator_agree d).bind fun it => ?_
    exact .newCell_bind (c := .names []) rfl fun a => .pure rfl

theorem advanceLoops_succ (sc : Scope) (element : Element) (loops : List Loop) :
    Agree m (advanceLoops (n + 1) sc element loops)
      (advanceLoops (n + 1) (moved m.put sc) element (loops.map (moved m.put))) := by
  match loops with
  | [] => exact .pure rfl
  | loop :: outer =>
    simp only [List.map_cons, advanceLoops, Loop.moved_source, Loop.moved_target,
      Loop.moved_conditions, Loop.moved_inner]
    refine (h.advance loop.source).bind fun x => ?_
    cases x with
    | none => exact h.advanceLoops sc element outer
    | some d =>
      refine (h.assignTarget sc loop.target d).bind fun _ => ?_
      refine (h.allTrue sc loop.conditions).bind fun holds => ?_
      refine .ite Iff.rfl (fun _ => ?_) fun _ => h.advanceLoops sc element (loop :: outer)
      cases loop.inner with
      | nil =>
        cases element with
        | item e => exact (h.eval sc e).bind fun _ => .pure rfl
        | entry k v =>
          refine (h.eval sc k).bind fun key => (h.eval sc v).bind fun value => ?_
          exact (Datum.needKey_agree key).bind fun _ => .pure rfl
      | cons clause rest =>
        cases clause with
        | mk target source conditions _ =>
          refine (h.eval sc source).bind fun d => (Datum.iterator_agree d).bind fun it => ?_
          exact h.advanceLoops sc element (⟨target, conditions, it, rest⟩ :: loop :: outer)

theorem allTrue_succ (sc : Scope) (es : List Expr) :
    Agree m (allTrue (n + 1) sc es) (allTrue (n + 1) (moved m.put sc) es) := by
  match es with
  | [] => exact .pure rfl
  | e :: es =>
    refine (h.eval sc e).bind fun d => (Datum.truth_agree d).bind fun holds => ?_
    exact .ite Iff.rfl (fun _ => h.allTrue sc es) fun _ => .pure rfl

theorem collect_succ (sc : Scope) (element : Element) (loops : List Loop) (acc : Array Datum) :
    Agree m (collect (n + 1) sc element loops acc)
      (collect (n + 1) (moved m.put sc) element (loops.map (moved m.put)) (acc.map (moved m.put))) := by
  refine (h.advanceLoops sc element loops).bind fun next => ?_
  cases next with
  | none => exact .pure rfl
  | some p =>
    have more := h.collect sc element p.2 (acc.push p.1)
    rw [Array.map_push] at more
    exact more

end

end SessionScript.Evaluator
