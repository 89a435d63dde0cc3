import SessionScript.Proofs.Evaluator.Calls

/-!
# Statements at other places

If the functions of the evaluation agree with some fuel, assignments and statements do the same
with one unit of fuel more. So, by induction, all code does the same wherever cells stand.
-/

namespace SessionScript.Evaluator

open Code (Expr Stmt BinaryOp)

variable {m : Move} {n : Nat}

section

variable (h : EvaluatesAlike m n)
include h

/-! ## Assignments -/

theorem assignTarget_succ (sc : Scope) (target : Expr) (d : Datum) :
    Agree m (assignTarget (n + 1) sc target d)
      (assignTarget (n + 1) (moved m.put sc) target (moved m.put d)) := by
  cases target with
  | name s => exact Scope.assign_agree sc s d
  | «attribute» e name => exact (h.eval sc e).bind fun owner => refuseMember_agree owner name
  | subscript e i =>
    refine (h.eval sc e).bind fun container => ?_
    exact (h.eval sc i).bind fun key => h.setItem container key d
  | tuple es => exact h.unpack sc es d
  | list es => exact h.unpack sc es d
  | _ => exact .pure rfl

theorem setItem_succ (container key d : Datum) :
    Agree m (setItem (n + 1) container key d)
      (setItem (n + 1) (moved m.put container) (moved m.put key) (moved m.put d)) := by
  have plain := Datum.setItem_agree (m := m) container key d
  cases key with
  | slice low high step =>
    refine (Datum.sequence?_agree container).bind fun sequence => ?_
    refine (Datum.iterator?_agree d).bind fun it => ?_
    match sequence, it with
    | none, _ => exact plain
    | some (false, _), _ => exact plain
    | some (true, _), none => exact .typeError
    | some (true, _), some _ =>
      refine (h.itemsOf d).bind fun ds => ?_
      have replaced := Datum.setItem_agree (m := m) container (.slice low high step) (.tuple ds)
      rw [Datum.moved_tuple] at replaced
      exact replaced
  | _ => exact plain

theorem unpack_succ (sc : Scope) (es : List Expr) (d : Datum) :
    Agree m (unpack (n + 1) sc es d) (unpack (n + 1) (moved m.put sc) es (moved m.put d)) := by
  have assigned (es : List Expr) (ds : List Datum) :
      Agree m (assignAll n sc (es.zip ds))
        (assignAll n (moved m.put sc) (es.zip (ds.map (moved m.put)))) := by
    have all := h.assignAll sc (es.zip ds)
    rw [List.zip_map_right]
    exact all
  unfold unpack
  refine (Datum.iterator?_agree d).bind fun it => ?_
  rw [moved_option, Option.isNone_map]
  extract_lets before give give'
  have same (u : Unit) : Agree m (give u) (give' u) := by
    refine (h.itemsOf d).bind fun ds => ?_
    cases es.drop before.length with
    | nil =>
      refine (splitItems_agree _ _ _ ds).bind fun parts => ?_
      exact assigned before parts.1
    | cons star after =>
      refine (splitItems_agree _ _ _ ds).bind fun parts => ?_
      refine (assigned before parts.1).bind fun _ => (Agree.newList parts.2.1).bind fun rest => ?_
      exact (h.assignTarget sc _ rest).bind fun _ => assigned after parts.2.2
  refine .ite Iff.rfl (fun _ => ?_) fun _ => same ()
  exact (Datum.typeName_agree d).bind fun _ => .bind .typeError same

theorem assignAll_succ (sc : Scope) (pairs : List (Expr × Datum)) :
    Agree m (assignAll (n + 1) sc pairs)
      (assignAll (n + 1) (moved m.put sc) (pairs.map (moved m.put))) := by
  match pairs with
  | [] => exact .pure rfl
  | (e, d) :: more => exact (h.assignTarget sc e d).bind fun _ => h.assignAll sc more

theorem assignEach_succ (sc : Scope) (es : List Expr) (d : Datum) :
    Agree m (assignEach (n + 1) sc es d)
      (assignEach (n + 1) (moved m.put sc) es (moved m.put d)) := by
  cases es with
  | nil => exact .pure rfl
  | cons e es => exact (h.assignTarget sc e d).bind fun _ => h.assignEach sc es d

omit h in
theorem combined_agree (op : BinaryOp) (address : Nat) (b : Datum) (ms : List Datum)
    (plain : Agree m (Datum.binary op true (.cell address) b)
      (Datum.binary op true (.cell (m.put address)) (moved m.put b))) : Agree m
    (do
      match ← b.members? with
      | some ns =>
        match Datum.combineMembers op ms ns with
        | some news =>
          Work.write address (.set news false)
          return .cell address
        | none => Datum.binary op true (.cell address) b
      | none => Datum.binary op true (.cell address) b)
    (do
      match ← (moved m.put b).members? with
      | some ns =>
        match Datum.combineMembers op (ms.map (moved m.put)) ns with
        | some news =>
          Work.write (m.put address) (.set news false)
          return .cell (m.put address)
        | none => Datum.binary op true (.cell (m.put address)) (moved m.put b)
      | none => Datum.binary op true (.cell (m.put address)) (moved m.put b)) := by
  refine (Datum.members?_agree b).bind fun found => ?_
  cases found with
  | none => exact plain
  | some ns =>
    simp only [moved_option, Option.map_some, moved_list, Datum.combineMembers_moved]
    cases Datum.combineMembers op ms ns with
    | none => exact plain
    | some news =>
      have written := Agree.write (m := m) address (.set news false)
      exact written.bind fun _ => .pure rfl

theorem augment_succ (op : BinaryOp) (a b : Datum) :
    Agree m (augment (n + 1) op a b) (augment (n + 1) op (moved m.put a) (moved m.put b)) := by
  have plain := Datum.binary_agree (m := m) op true a b
  cases a with
  | cell address =>
    refine (Agree.read address).bind fun c => ?_
    cases c with
    | list xs =>
      simp only [Cell.moved_list]
      cases op with
      | add =>
        refine (h.itemsOf b).bind fun news => ?_
        have written := Agree.write (m := m) address (.list (xs ++ news.toArray))
        rw [Cell.moved_list, Array.map_append, List.map_toArray (l := news)] at written
        exact written.bind fun _ => .pure rfl
      | mul =>
        simp only [Datum.integer?_moved]
        cases b.integer? with
        | none => exact plain
        | some i =>
          have written := Agree.write (m := m) address (.list (Datum.repeated i xs.toList).toArray)
          rw [Cell.moved_list, List.map_toArray, ← Datum.repeated_moved, ← Array.toList_map]
            at written
          exact written.bind fun _ => .pure rfl
      | _ => exact plain
    | dict es =>
      simp only [Cell.moved_dict]
      cases op with
      | bitOr =>
        refine (h.walkPairs (.ofList [b])).bind fun more => ?_
        rw [Args.moved_positional, headD_moved]
        refine (Method.entriesOf_agree _).bind fun pairs => ?_
        have written := Agree.write (m := m) address (.dict (Method.putAll es pairs))
        rw [Cell.moved_dict, ← Method.putAll_moved] at written
        exact written.bind fun _ => .pure rfl
      | _ => exact plain
    | set ms frozen =>
      simp only [Cell.moved_set]
      cases frozen with
      | true => cases op <;> exact plain
      | false => cases op <;> exact combined_agree _ address b ms plain
    | _ => cases op <;> exact plain
  | _ => exact plain

theorem deleteAll_succ (sc : Scope) (es : List Expr) :
    Agree m (deleteAll (n + 1) sc es) (deleteAll (n + 1) (moved m.put sc) es) := by
  cases es with
  | nil => exact .pure rfl
  | cons e es =>
    have more (_ : Unit) := h.deleteAll sc es
    cases e with
    | name s => exact (Scope.delete_agree sc s).bind more
    | «attribute» e name =>
      exact (h.eval sc e).bind fun owner => (refuseMember_agree owner name).bind more
    | subscript e i =>
      refine (h.eval sc e).bind fun container => (h.eval sc i).bind fun key => ?_
      exact (Datum.deleteItem_agree container key).bind more
    | tuple inner => exact (h.deleteAll sc inner).bind more
    | list inner => exact (h.deleteAll sc inner).bind more
    | _ => exact more ()

/-! ## Statements -/

theorem exec_succ (sc : Scope) (s : Stmt) :
    Agree m (exec (n + 1) sc s) (exec (n + 1) (moved m.put sc) s) := by
  cases s with
  | expr e => exact (h.eval sc e).bind fun _ => .pure rfl
  | assign targets value =>
    exact (h.eval sc value).bind fun d => (h.assignEach sc targets d).bind fun _ => .pure rfl
  | augmented target op value =>
    exact (h.execAugmented sc target op value).bind fun _ => .pure rfl
  | annotated target typeNote value simple =>
    exact (h.execAnnotated sc target typeNote value simple).bind fun _ => .pure rfl
  | delete targets => exact (h.deleteAll sc targets).bind fun _ => .pure rfl
  | pass => exact .pure rfl
  | «break» => exact .pure rfl
  | «continue» => exact .pure rfl
  | «return» e => exact (h.evalOption sc e).bind fun _ => .pure rfl
  | raise e cause =>
    cases e with
    | none =>
      refine .get_bind fun s t st => ?_
      rw [st.handling]
      cases s.handling with
      | nil => exact .raise
      | cons e _ => exact .throw rfl
    | some e =>
      refine (h.eval sc e).bind fun d => (toRaised_agree d).bind fun raised => ?_
      exact (h.evalOption sc cause).bind fun _ => .throw rfl
  | global _ => exact .pure rfl
  | «nonlocal» _ => exact .pure rfl
  | importNames _ => exact .raise
  | importFrom _ _ _ => exact .raise
  | assert test message =>
    refine (h.eval sc test).bind fun d => (Datum.truth_agree d).bind fun holds => ?_
    refine .ite Iff.rfl (fun _ => .pure rfl) fun _ => ?_
    cases message with
    | some e => exact (h.eval sc e).bind fun d => .throw rfl
    | none => exact .throw rfl
  | ifThen test body orElse =>
    refine (h.eval sc test).bind fun d => (Datum.truth_agree d).bind fun holds => ?_
    exact .ite Iff.rfl (fun _ => h.execBlock sc body) fun _ => h.execBlock sc orElse
  | «while» test body orElse => exact h.execWhile sc test body orElse
  | «for» target source body orElse _ =>
    refine (h.eval sc source).bind fun d => (Datum.iterator_agree d).bind fun it => ?_
    exact h.execFor sc target it body orElse
  | «try» body handlers orElse final => exact h.execTry sc body handlers orElse final
  | «with» items _ isAsync =>
    match items with
    | [] => exact .pure rfl
    | (e, _) :: _ =>
      exact (h.eval sc e).bind fun d => (Datum.typeName_agree d).bind fun _ => .typeError
  | function name params body decorators isAsync =>
    refine (h.evalItems sc none decorators).bind fun ds => ?_
    refine (h.evalParams sc params).bind fun params => ?_
    refine (Agree.new
      (.function ⟨name, sc.path ++ name, params, .block body, _, _, isAsync, sc⟩)).bind fun f => ?_
    rw [moved_list, ← List.map_reverse]
    refine (h.decorate ds.reverse f).bind fun d => ?_
    exact (Scope.assign_agree sc name d).bind fun _ => .pure rfl
  | «class» _ _ _ _ decorators => exact (h.evalItems sc none decorators).bind fun _ => .raise

theorem decorate_succ (ds : List Datum) (f : Datum) :
    Agree m (decorate (n + 1) ds f) (decorate (n + 1) (ds.map (moved m.put)) (moved m.put f)) := by
  cases ds with
  | nil => exact .pure rfl
  | cons d ds => exact (h.callDatum d (.ofList [f])).bind fun f => h.decorate ds f

theorem execAugmented_succ (sc : Scope) (target : Expr) (op : BinaryOp) (value : Expr) :
    Agree m (execAugmented (n + 1) sc target op value)
      (execAugmented (n + 1) (moved m.put sc) target op value) := by
  cases target with
  | name s =>
    refine (Scope.load_agree sc s).bind fun a => (h.eval sc value).bind fun b => ?_
    exact (h.augment op a b).bind fun d => Scope.assign_agree sc s d
  | subscript e i =>
    refine (h.eval sc e).bind fun container => (h.eval sc i).bind fun key => ?_
    refine (Datum.item_agree container key).bind fun a => (h.eval sc value).bind fun b => ?_
    exact (h.augment op a b).bind fun d => h.setItem container key d
  | «attribute» e name =>
    refine (h.eval sc e).bind fun owner => (Method.memberOf_agree owner name).bind fun a => ?_
    refine (h.eval sc value).bind fun b => (h.augment op a b).bind fun _ => ?_
    exact refuseMember_agree owner name
  | _ => exact .pure rfl

theorem execAnnotated_succ (sc : Scope) (target typeNote : Expr) (value : Option Expr)
    (simple : Bool) :
    Agree m (execAnnotated (n + 1) sc target typeNote value simple)
      (execAnnotated (n + 1) (moved m.put sc) target typeNote value simple) := by
  unfold execAnnotated
  extract_lets noted noted'
  have same (u : Unit) : Agree m (noted u) (noted' u) := by
    refine .ite (by simp) (fun _ => ?_) fun _ => .pure rfl
    refine (h.eval sc typeNote).bind fun d => ?_
    have kept (s : String) : Agree m (do (← sc.load "__annotations__").setItem (.text s) d)
        (do (← (moved m.put sc).load "__annotations__").setItem (.text s) (moved m.put d)) :=
      (Scope.load_agree sc _).bind fun notes => Datum.setItem_agree notes (.text s) d
    cases simple with
    | false => exact .pure rfl
    | true =>
      cases target with
      | name s => exact kept s
      | _ => exact .pure rfl
  cases value with
  | none => exact same ()
  | some e => exact (h.eval sc e).bind fun d => (h.assignTarget sc target d).bind same

theorem execBlock_succ (sc : Scope) (ss : List Stmt) :
    Agree m (execBlock (n + 1) sc ss) (execBlock (n + 1) (moved m.put sc) ss) := by
  cases ss with
  | nil => exact .pure rfl
  | cons s ss =>
    refine (h.exec sc s).bind fun flow => ?_
    cases flow with
    | next => exact h.execBlock sc ss
    | _ => exact .pure rfl

theorem execWhile_succ (sc : Scope) (test : Expr) (body orElse : List Stmt) :
    Agree m (execWhile (n + 1) sc test body orElse)
      (execWhile (n + 1) (moved m.put sc) test body orElse) := by
  refine (h.eval sc test).bind fun d => (Datum.truth_agree d).bind fun holds => ?_
  refine .ite Iff.rfl (fun _ => ?_) fun _ => h.execBlock sc orElse
  refine (h.execBlock sc body).bind fun flow => ?_
  cases flow with
  | broke => exact .pure rfl
  | returned d => exact .pure rfl
  | _ => exact h.execWhile sc test body orElse

theorem execFor_succ (sc : Scope) (target : Expr) (it : Datum) (body orElse : List Stmt) :
    Agree m (execFor (n + 1) sc target it body orElse)
      (execFor (n + 1) (moved m.put sc) target (moved m.put it) body orElse) := by
  refine (h.advance it).bind fun d => ?_
  cases d with
  | none => exact h.execBlock sc orElse
  | some d =>
    refine (h.assignTarget sc target d).bind fun _ => (h.execBlock sc body).bind fun flow => ?_
    cases flow with
    | broke => exact .pure rfl
    | returned d => exact .pure rfl
    | _ => exact h.execFor sc target it body orElse

theorem execTry_succ (sc : Scope) (body : List Stmt) (handlers : List Code.Handler)
    (orElse final : List Stmt) :
    Agree m (execTry (n + 1) sc body handlers orElse final)
      (execTry (n + 1) (moved m.put sc) body handlers orElse final) := by
  unfold execTry
  extract_lets guarded guarded'
  have same : Agree m guarded guarded' := by
    refine (h.execBlock sc body).attempt.bind fun outcome => ?_
    match outcome with
    | .ok .next => exact h.execBlock sc orElse
    | .ok .broke => exact .pure rfl
    | .ok .continued => exact .pure rfl
    | .ok (.returned d) => exact .pure rfl
    | .error e => exact h.execHandlers sc e handlers
  refine .ite Iff.rfl (fun _ => same) fun _ => ?_
  refine same.attempt.bind fun outcome => ?_
  cases outcome with
  | ok flow =>
    refine (h.execBlock sc final).bind fun last => ?_
    cases last <;> exact .pure rfl
  | error e =>
    refine ((h.execBlock sc final).whileHandling e).bind fun last => ?_
    cases last <;> first | exact .throw rfl | exact .pure rfl

theorem execHandlers_succ (sc : Scope) (e : Raised) (handlers : List Code.Handler) :
    Agree m (execHandlers (n + 1) sc e handlers)
      (execHandlers (n + 1) (moved m.put sc) (moved m.put e) handlers) := by
  match handlers with
  | [] => exact .throw rfl
  | .mk kind name body :: more =>
    have rest (takes : Bool) : Agree m
        (if takes then Work.whileHandling e (runHandler n sc e name body)
          else execHandlers n sc e more)
        (if takes then Work.whileHandling (moved m.put e)
            (runHandler n (moved m.put sc) (moved m.put e) name body)
          else execHandlers n (moved m.put sc) (moved m.put e) more) :=
      .ite Iff.rfl (fun _ => (h.runHandler sc e name body).whileHandling e)
        fun _ => h.execHandlers sc e more
    cases kind with
    | none => exact .bind (.pure rfl) rest
    | some k =>
      refine .bind (.whileHandling e ?_) rest
      exact (h.eval sc k).bind fun kinds => isHandled_agree kinds e

theorem runHandler_succ (sc : Scope) (e : Raised) (name : Option String) (body : List Stmt) :
    Agree m (runHandler (n + 1) sc e name body)
      (runHandler (n + 1) (moved m.put sc) (moved m.put e) name body) := by
  cases name with
  | none => exact h.execBlock sc body
  | some s =>
    simp only [runHandler, Raised.datum_moved]
    refine (Scope.assign_agree sc s e.datum).bind fun _ => ?_
    refine (h.execBlock sc body).attempt.bind fun outcome => ?_
    refine Agree.bind (Scope.delete_agree sc s).attempt fun _ => ?_
    cases outcome with
    | ok flow => exact .pure rfl
    | error e => exact .throw rfl

end

/-! ## All code -/

theorem EvaluatesAlike.succ (h : EvaluatesAlike m n) : EvaluatesAlike m (n + 1) where
  eval := eval_succ h
  evalOption := evalOption_succ h
  evalItems := evalItems_succ h
  evalNamed := evalNamed_succ h
  evalEntries := evalEntries_succ h
  evalParts := evalParts_succ h
  evalBoolean := evalBoolean_succ h
  evalCompare := evalCompare_succ h
  compare := compare_succ h
  contains := contains_succ h
  seek := seek_succ h
  evalParams := evalParams_succ h
  openLoops := openLoops_succ h
  advanceLoops := advanceLoops_succ h
  allTrue := allTrue_succ h
  collect := collect_succ h
  drain := drain_succ h
  itemsOf := itemsOf_succ h
  advance := advance_succ h
  advanceAll := advanceAll_succ h
  checkLengths := checkLengths_succ h
  sift := sift_succ h
  callDatum := callDatum_succ h
  callClosure := callClosure_succ h
  runBody := runBody_succ h
  callType := callType_succ h
  zipSources := zipSources_succ h
  walkFirst := walkFirst_succ h
  walkAll := walkAll_succ h
  walkPairs := walkPairs_succ h
  pairsOf := pairsOf_succ h
  callBuiltin := callBuiltin_succ h
  search := search_succ h
  keyed := keyed_succ h
  choose := choose_succ h
  callMethod := callMethod_succ h
  charTable := charTable_succ h
  assignTarget := assignTarget_succ h
  setItem := setItem_succ h
  unpack := unpack_succ h
  assignAll := assignAll_succ h
  assignEach := assignEach_succ h
  augment := augment_succ h
  deleteAll := deleteAll_succ h
  exec := exec_succ h
  decorate := decorate_succ h
  execAugmented := execAugmented_succ h
  execAnnotated := execAnnotated_succ h
  execBlock := execBlock_succ h
  execWhile := execWhile_succ h
  execFor := execFor_succ h
  execTry := execTry_succ h
  execHandlers := execHandlers_succ h
  runHandler := runHandler_succ h

/-- Code does the same wherever cells stand, whatever the fuel. -/
theorem evaluatesAlike (m : Move) (n : Nat) : EvaluatesAlike m n := by
  induction n with
  | zero => exact .zero
  | succ n ih => exact ih.succ

end SessionScript.Evaluator
