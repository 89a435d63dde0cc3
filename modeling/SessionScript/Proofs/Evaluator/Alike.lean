import SessionScript.Evaluator.Eval
import SessionScript.Proofs.Evaluator.Scopes

/-!
# Evaluation at other places

The functions that evaluate code call each other with one unit of fuel less. They agree with some
fuel if each of them does the same wherever cells stand.
-/

namespace SessionScript.Evaluator

open Code (Expr Stmt BinaryOp)

variable {m : Move}

instance : Movable Flow where
  places
    | .returned d => places d
    | _ => []
  moved f
    | .returned d => .returned (moved f d)
    | flow => flow
  moved_eq_self {f flow} h := by
    cases flow with
    | returned d => exact congrArg _ (Movable.moved_eq_self h)
    | _ => rfl
  moved_moved f g flow := by
    cases flow with
    | returned d => exact congrArg _ (Movable.moved_moved f g d)
    | _ => rfl

/-- With some fuel, all functions of the evaluation do the same wherever cells stand. -/
structure EvaluatesAlike (m : Move) (n : Nat) : Prop where
  eval (sc : Scope) (e : Expr) :
    Agree m (Evaluator.eval n sc e) (Evaluator.eval n (moved m.put sc) e)
  evalOption (sc : Scope) (e : Option Expr) :
    Agree m (Evaluator.evalOption n sc e) (Evaluator.evalOption n (moved m.put sc) e)
  evalItems (sc : Scope) (owner : Option Datum) (es : List Expr) :
    Agree m (Evaluator.evalItems n sc owner es)
      (Evaluator.evalItems n (moved m.put sc) (owner.map (moved m.put)) es)
  evalNamed (sc : Scope) (f : Datum) (acc : List (String × Datum))
      (es : List (Option String × Expr)) :
    Agree m (Evaluator.evalNamed n sc f acc es)
      (Evaluator.evalNamed n (moved m.put sc) (moved m.put f) (acc.map (moved m.put)) es)
  evalEntries (sc : Scope) (acc : Pairs) (es : List (Option Expr × Expr)) :
    Agree m (Evaluator.evalEntries n sc acc es)
      (Evaluator.evalEntries n (moved m.put sc) (acc.map (moved m.put)) es)
  evalParts (sc : Scope) (parts : List Code.FormatPart) :
    Agree m (Evaluator.evalParts n sc parts) (Evaluator.evalParts n (moved m.put sc) parts)
  evalBoolean (sc : Scope) (op : Code.BoolOp) (es : List Expr) :
    Agree m (Evaluator.evalBoolean n sc op es) (Evaluator.evalBoolean n (moved m.put sc) op es)
  evalCompare (sc : Scope) (left : Datum) (rest : List (Code.CompareOp × Expr)) :
    Agree m (Evaluator.evalCompare n sc left rest)
      (Evaluator.evalCompare n (moved m.put sc) (moved m.put left) rest)
  compare (op : Code.CompareOp) (a b : Datum) :
    Agree m (Evaluator.compare n op a b) (Evaluator.compare n op (moved m.put a) (moved m.put b))
  contains (d container : Datum) :
    Agree m (Evaluator.contains n d container)
      (Evaluator.contains n (moved m.put d) (moved m.put container))
  seek (d it : Datum) :
    Agree m (Evaluator.seek n d it) (Evaluator.seek n (moved m.put d) (moved m.put it))
  evalParams (sc : Scope) (params : List Code.Param) :
    Agree m (Evaluator.evalParams n sc params) (Evaluator.evalParams n (moved m.put sc) params)
  openLoops (sc : Scope) (clauses : List Code.Clause) :
    Agree m (Evaluator.openLoops n sc clauses) (Evaluator.openLoops n (moved m.put sc) clauses)
  advanceLoops (sc : Scope) (element : Element) (loops : List Loop) :
    Agree m (Evaluator.advanceLoops n sc element loops)
      (Evaluator.advanceLoops n (moved m.put sc) element (loops.map (moved m.put)))
  allTrue (sc : Scope) (es : List Expr) :
    Agree m (Evaluator.allTrue n sc es) (Evaluator.allTrue n (moved m.put sc) es)
  collect (sc : Scope) (element : Element) (loops : List Loop) (acc : Array Datum) :
    Agree m (Evaluator.collect n sc element loops acc)
      (Evaluator.collect n (moved m.put sc) element (loops.map (moved m.put)) (acc.map (moved m.put)))
  drain (it : Datum) (acc : Array Datum) :
    Agree m (Evaluator.drain n it acc) (Evaluator.drain n (moved m.put it) (acc.map (moved m.put)))
  itemsOf (d : Datum) :
    Agree m (Evaluator.itemsOf n d) (Evaluator.itemsOf n (moved m.put d))
  advance (d : Datum) :
    Agree m (Evaluator.advance n d) (Evaluator.advance n (moved m.put d))
  advanceAll (sources : List Datum) :
    Agree m (Evaluator.advanceAll n sources) (Evaluator.advanceAll n (sources.map (moved m.put)))
  checkLengths (sources : List Datum) (i : Nat) :
    Agree m (Evaluator.checkLengths n sources i)
      (Evaluator.checkLengths n (sources.map (moved m.put)) i)
  sift (f source : Datum) :
    Agree m (Evaluator.sift n f source) (Evaluator.sift n (moved m.put f) (moved m.put source))
  callDatum (f : Datum) (args : Args) :
    Agree m (Evaluator.callDatum n f args) (Evaluator.callDatum n (moved m.put f) (moved m.put args))
  callClosure (f : Closure) (args : Args) :
    Agree m (Evaluator.callClosure n f args)
      (Evaluator.callClosure n (moved m.put f) (moved m.put args))
  runBody (f : Closure) (sc : Scope) :
    Agree m (Evaluator.runBody n f sc) (Evaluator.runBody n (moved m.put f) (moved m.put sc))
  callType (name : String) (args : Args) :
    Agree m (Evaluator.callType n name args) (Evaluator.callType n name (moved m.put args))
  zipSources (ds : List Datum) (i : Nat) :
    Agree m (Evaluator.zipSources n ds i) (Evaluator.zipSources n (ds.map (moved m.put)) i)
  walkFirst (args : Args) :
    Agree m (Evaluator.walkFirst n args) (Evaluator.walkFirst n (moved m.put args))
  walkAll (ds : List Datum) :
    Agree m (Evaluator.walkAll n ds) (Evaluator.walkAll n (ds.map (moved m.put)))
  walkPairs (args : Args) :
    Agree m (Evaluator.walkPairs n args) (Evaluator.walkPairs n (moved m.put args))
  pairsOf (ds : List Datum) (i : Nat) :
    Agree m (Evaluator.pairsOf n ds i) (Evaluator.pairsOf n (ds.map (moved m.put)) i)
  callBuiltin (name : String) (args : Args) :
    Agree m (Evaluator.callBuiltin n name args) (Evaluator.callBuiltin n name (moved m.put args))
  search (it : Datum) (wanted : Bool) :
    Agree m (Evaluator.search n it wanted) (Evaluator.search n (moved m.put it) wanted)
  keyed (key : Datum) (ds : List Datum) :
    Agree m (Evaluator.keyed n key ds) (Evaluator.keyed n (moved m.put key) (ds.map (moved m.put)))
  choose (name : String) (op : Code.CompareOp) (args : Args) :
    Agree m (Evaluator.choose n name op args) (Evaluator.choose n name op (moved m.put args))
  callMethod (owner : Datum) (name : String) (args : Args) :
    Agree m (Evaluator.callMethod n owner name args)
      (Evaluator.callMethod n (moved m.put owner) name (moved m.put args))
  charTable (args : Args) :
    Agree m (Evaluator.charTable n args) (Evaluator.charTable n (moved m.put args))
  assignTarget (sc : Scope) (target : Expr) (d : Datum) :
    Agree m (Evaluator.assignTarget n sc target d)
      (Evaluator.assignTarget n (moved m.put sc) target (moved m.put d))
  setItem (container key d : Datum) :
    Agree m (Evaluator.setItem n container key d)
      (Evaluator.setItem n (moved m.put container) (moved m.put key) (moved m.put d))
  unpack (sc : Scope) (es : List Expr) (d : Datum) :
    Agree m (Evaluator.unpack n sc es d) (Evaluator.unpack n (moved m.put sc) es (moved m.put d))
  assignAll (sc : Scope) (pairs : List (Expr × Datum)) :
    Agree m (Evaluator.assignAll n sc pairs)
      (Evaluator.assignAll n (moved m.put sc) (pairs.map (moved m.put)))
  assignEach (sc : Scope) (es : List Expr) (d : Datum) :
    Agree m (Evaluator.assignEach n sc es d)
      (Evaluator.assignEach n (moved m.put sc) es (moved m.put d))
  augment (op : BinaryOp) (a b : Datum) :
    Agree m (Evaluator.augment n op a b) (Evaluator.augment n op (moved m.put a) (moved m.put b))
  deleteAll (sc : Scope) (es : List Expr) :
    Agree m (Evaluator.deleteAll n sc es) (Evaluator.deleteAll n (moved m.put sc) es)
  exec (sc : Scope) (s : Stmt) :
    Agree m (Evaluator.exec n sc s) (Evaluator.exec n (moved m.put sc) s)
  decorate (ds : List Datum) (f : Datum) :
    Agree m (Evaluator.decorate n ds f) (Evaluator.decorate n (ds.map (moved m.put)) (moved m.put f))
  execAugmented (sc : Scope) (target : Expr) (op : BinaryOp) (value : Expr) :
    Agree m (Evaluator.execAugmented n sc target op value)
      (Evaluator.execAugmented n (moved m.put sc) target op value)
  execAnnotated (sc : Scope) (target typeNote : Expr) (value : Option Expr) (simple : Bool) :
    Agree m (Evaluator.execAnnotated n sc target typeNote value simple)
      (Evaluator.execAnnotated n (moved m.put sc) target typeNote value simple)
  execBlock (sc : Scope) (ss : List Stmt) :
    Agree m (Evaluator.execBlock n sc ss) (Evaluator.execBlock n (moved m.put sc) ss)
  execWhile (sc : Scope) (test : Expr) (body orElse : List Stmt) :
    Agree m (Evaluator.execWhile n sc test body orElse)
      (Evaluator.execWhile n (moved m.put sc) test body orElse)
  execFor (sc : Scope) (target : Expr) (it : Datum) (body orElse : List Stmt) :
    Agree m (Evaluator.execFor n sc target it body orElse)
      (Evaluator.execFor n (moved m.put sc) target (moved m.put it) body orElse)
  execTry (sc : Scope) (body : List Stmt) (handlers : List Code.Handler)
      (orElse final : List Stmt) :
    Agree m (Evaluator.execTry n sc body handlers orElse final)
      (Evaluator.execTry n (moved m.put sc) body handlers orElse final)
  execHandlers (sc : Scope) (e : Raised) (handlers : List Code.Handler) :
    Agree m (Evaluator.execHandlers n sc e handlers)
      (Evaluator.execHandlers n (moved m.put sc) (moved m.put e) handlers)
  runHandler (sc : Scope) (e : Raised) (name : Option String) (body : List Stmt) :
    Agree m (Evaluator.runHandler n sc e name body)
      (Evaluator.runHandler n (moved m.put sc) (moved m.put e) name body)

/-- Without fuel, every function raises the same error. -/
theorem EvaluatesAlike.zero : EvaluatesAlike m 0 := by
  constructor <;> intros <;> exact Work.tooDeep_agree ""

/-! ## Helpers of the evaluation -/

theorem ofConstant_moved (c : Code.Constant) : moved m.put (ofConstant c) = ofConstant c := by
  cases c <;> rfl

theorem Parameter.ofParam_moved (p : Code.Param) (default : Option Datum) :
    Parameter.ofParam p (default.map (moved m.put)) = moved m.put (Parameter.ofParam p default) := by
  cases p
  rfl

theorem Raised.datum_moved (e : Raised) : (moved m.put e).datum = moved m.put e.datum :=
  (Datum.moved_error _ _).symm

theorem isHandled_agree (kinds : Datum) (e : Raised) :
    Agree m (isHandled kinds e) (isHandled (moved m.put kinds) (moved m.put e)) := by
  unfold isHandled
  extract_lets test test'
  have same (d : Datum) : Agree m (test d) (test' (moved m.put d)) := by
    cases d with
    | type name => exact .ite Iff.rfl (fun _ => .pure rfl) fun _ => .typeError
    | _ => exact .typeError
  have one := same kinds
  cases kinds with
  | tuple ds =>
    rw [Datum.moved_tuple]
    exact .anyM fun d _ => same d
  | _ => exact one

theorem toRaised_agree (d : Datum) : Agree m (toRaised d) (toRaised (moved m.put d)) := by
  cases d with
  | error kind xs =>
    rw [Datum.moved_error]
    exact .pure rfl
  | type name => exact .ite Iff.rfl (fun _ => .pure rfl) fun _ => .typeError
  | _ => exact .typeError

theorem refuseMember_agree (d : Datum) (name : String) :
    Agree m (refuseMember d name) (refuseMember (moved m.put d) name) := by
  refine (Datum.typeName_agree d).bind fun t => ?_
  cases d with
  | type k => exact .typeError
  | _ => exact .ite Iff.rfl (fun _ => .raise) fun _ => .raise

theorem splitItems_agree (before after : Nat) (starred : Bool) (ds : List Datum) :
    Agree m (splitItems before after starred ds)
      (splitItems before after starred (ds.map (moved m.put))) := by
  simp only [splitItems, List.length_map, List.length_drop]
  exact .guard (.guard (.pure (by simp [List.map_take, List.map_drop])))

/-- A key for sorting, with whether the order is reversed. -/
theorem sortedBy_agree (key : Datum) (reverse : Option Datum) : Agree m
    (match reverse with
      | some d => do return (key, ← d.truth)
      | none => return (key, false))
    (match reverse.map (moved m.put) with
      | some d => do return (moved m.put key, ← d.truth)
      | none => return (moved m.put key, false)) := by
  cases reverse with
  | some d => exact (Datum.truth_agree d).bind fun _ => .pure rfl
  | none => exact .pure rfl

theorem sortOptions_agree (name : String) (named : List (String × Datum)) :
    Agree m (sortOptions name named) (sortOptions name (named.map (moved m.put))) := by
  simp only [sortOptions, List.find?_map, Function.comp_def, moved_pair, moved_constant,
    lookup_moved, option_getD_moved]
  have rest := sortedBy_agree (m := m) ((named.lookup "key").getD .none) (named.lookup "reverse")
  cases named.find? fun p => p.1 != "key" && p.1 != "reverse" with
  | some p => exact .bind .typeError fun _ => rest
  | none => exact rest

theorem giveResult_agree (sc : Scope) (d : Datum) :
    Agree m (giveResult sc d) (giveResult (moved m.put sc) (moved m.put d)) := by
  unfold giveResult
  rw [Scope.moved_results]
  cases sc.results with
  | none => exact .pure rfl
  | some a =>
    refine (Agree.read a).bind fun c => ?_
    cases c with
    | list xs =>
      simp only [Cell.moved_list, Array.size_map, ← Array.map_push]
      refine .ite Iff.rfl (fun _ => ?_) fun _ => .write a (.list (xs.push d))
      have thrown : Agree m (throw ⟨"", []⟩ : Work PUnit) _ := .throw rfl
      exact thrown.bind fun _ => .write a (.list (xs.push d))
    | _ => exact .pure rfl

theorem repeated_agree (f : Datum) (name : String) :
    Agree m (repeated f name) (repeated (moved m.put f) name) :=
  (Datum.functionText_agree f).bind fun _ => .typeError

end SessionScript.Evaluator
