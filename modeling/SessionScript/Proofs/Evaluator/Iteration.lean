import SessionScript.Proofs.Evaluator.Expressions

/-!
# Iteration at other places

If the functions of the evaluation agree with some fuel, iterators give the same items with one unit
of fuel more.
-/

namespace SessionScript.Evaluator

open Code (Expr Stmt BinaryOp)

variable {m : Move} {n : Nat}

section

variable (h : EvaluatesAlike m n)
include h

theorem drain_succ (it : Datum) (acc : Array Datum) :
    Agree m (drain (n + 1) it acc) (drain (n + 1) (moved m.put it) (acc.map (moved m.put))) := by
  refine (h.advance it).bind fun x => ?_
  cases x with
  | none => exact .pure rfl
  | some d =>
    have more := h.drain it (acc.push d)
    rw [Array.map_push] at more
    exact more

theorem itemsOf_succ (d : Datum) :
    Agree m (itemsOf (n + 1) d) (itemsOf (n + 1) (moved m.put d)) := by
  refine (Datum.sequence?_agree d).bind fun s => ?_
  cases s with
  | some p => exact .pure rfl
  | none =>
    refine (Datum.iterator_agree d).bind fun it => ?_
    exact (drain_empty h it).bind fun ds => .pure (by simp)

theorem advanceAll_succ (sources : List Datum) :
    Agree m (advanceAll (n + 1) sources) (advanceAll (n + 1) (sources.map (moved m.put))) := by
  cases sources with
  | nil => exact .pure rfl
  | cons source more =>
    refine (h.advance source).bind fun x => ?_
    cases x with
    | none => exact .pure rfl
    | some d =>
      refine (h.advanceAll more).bind fun ds => ?_
      cases ds <;> exact .pure rfl

theorem checkLengths_succ (sources : List Datum) (i : Nat) :
    Agree m (checkLengths (n + 1) sources i)
      (checkLengths (n + 1) (sources.map (moved m.put)) i) := by
  cases sources with
  | nil => exact .pure rfl
  | cons source more =>
    refine (h.advance source).bind fun x => ?_
    cases x with
    | none => exact h.checkLengths more (i + 1)
    | some d => exact .ite Iff.rfl (fun _ => .valueError) fun _ => h.checkLengths more (i + 1)

theorem sift_succ (f source : Datum) :
    Agree m (sift (n + 1) f source) (sift (n + 1) (moved m.put f) (moved m.put source)) := by
  refine (h.advance source).bind fun x => ?_
  cases x with
  | none => exact .pure rfl
  | some d =>
    have found (passes : Bool) : Agree m
        (if passes then return some d else sift n f source)
        (if passes then return some (moved m.put d)
          else sift n (moved m.put f) (moved m.put source)) :=
      .ite Iff.rfl (fun _ => .pure rfl) fun _ => h.sift f source
    have test := Datum.truth_agree (m := m) d
    cases f with
    | none => exact test.bind found
    | type name =>
      dsimp only [sift, moved_option, Option.map_some, Datum.moved_type]
      split
      · exact test.bind found
      · exact test.bind found
      · exact (h.callDatum _ (.ofList [d])).bind fun r => (Datum.truth_agree r).bind found
    | _ => exact (h.callDatum _ (.ofList [d])).bind fun r => (Datum.truth_agree r).bind found

theorem advance_succ (d : Datum) :
    Agree m (advance (n + 1) d) (advance (n + 1) (moved m.put d)) := by
  cases d with
  | cell a =>
    have move (next : Iterator) {w w' : Work (Option Datum)} (k : Agree m w w') : Agree m
        (do Work.write a (.iterator next); w)
        (do Work.write (m.put a) (.iterator (moved m.put next)); w') :=
      (Agree.write a (.iterator next)).bind fun _ => k
    have finish : Agree m
        (do Work.write a (.iterator .finished); return none : Work (Option Datum))
        (do Work.write (m.put a) (.iterator .finished); return none) := move .finished (.pure rfl)
    refine (Agree.read a).bind fun c => ?_
    cases c with
    | iterator it =>
      cases it with
      | finished => exact .pure rfl
      | items kind rest ending =>
        cases rest with
        | cons x xs => exact move (.items kind xs ending) (.pure rfl)
        | nil =>
          cases ending with
          | some e => exact move .finished (.throw rfl)
          | none => exact finish
      | range next left step =>
        cases left with
        | zero => exact finish
        | succ k => exact move (.range (next + step) k step) (.pure rfl)
      | list source i =>
        refine (Agree.read source).bind fun c => ?_
        cases c with
        | list xs =>
          simp only [Cell.moved_list, Array.getElem?_map]
          cases xs[i]? with
          | some x => exact move (.list source (i + 1)) (.pure rfl)
          | none => exact finish
        | _ => exact finish
      | listReversed source left =>
        refine (Agree.read source).bind fun c => ?_
        cases left with
        | zero => cases c <;> exact finish
        | succ k =>
          cases c with
          | list xs =>
            simp only [Cell.moved_list, Array.getElem?_map]
            cases xs[k]? with
            | some x => exact move (.listReversed source k) (.pure rfl)
            | none => exact finish
          | _ => exact finish
      | dict kind source i size =>
        refine (Work.entriesOf_agree source).bind fun es => ?_
        simp only [moved_list, List.length_map, List.getElem?_map]
        refine .guard ?_
        cases es[i]? with
        | some e =>
          refine move (.dict kind source (i + 1) size) ?_
          cases kind <;> exact .pure (by simp)
        | none => exact finish
      | set rest source size =>
        refine (Agree.read source).bind fun c => ?_
        cases c with
        | set ms frozen =>
          simp only [Cell.moved_set, List.length_map]
          refine .guard ?_
          cases rest with
          | cons x xs => exact move (.set xs source size) (.pure rfl)
          | nil => exact finish
        | _ => exact finish
      | numbered source next =>
        refine (h.advance source).bind fun x => ?_
        cases x with
        | some x => exact move (.numbered source (next + 1)) (.pure rfl)
        | none => exact .pure rfl
      | zipped sources strict =>
        simp only [Cell.moved_iterator, Iterator.moved_zipped, List.isEmpty_map]
        refine .ite Iff.rfl (fun _ => .pure rfl) fun _ => ?_
        refine (h.advanceAll sources).bind fun ds => ?_
        cases ds with
        | some ds => exact .pure (by simp)
        | none =>
          refine .ite Iff.rfl (fun _ => ?_) fun _ => .pure rfl
          exact (h.checkLengths sources 0).bind fun _ => .pure rfl
      | mapped f sources =>
        refine (h.advanceAll sources).bind fun ds => ?_
        cases ds with
        | some ds => exact (h.callDatum f (.ofList ds)).bind fun _ => .pure rfl
        | none => exact .pure rfl
      | filtered f source => exact h.sift f source
      | comprehension sc element loops =>
        refine move .finished ?_
        refine (h.advanceLoops sc element loops).bind fun next => ?_
        cases next with
        | some p => exact move (.comprehension sc element p.2) (.pure rfl)
        | none => exact .pure rfl
      | suspended f frame =>
        refine move .finished ?_
        refine .newCell_bind (c := .list #[]) (by simp) fun results => ?_
        let inner : Scope := { f.scope with
          frames := ⟨frame, f.names, false⟩ :: f.scope.frames
          path := f.fullName ++ ".<locals>."
          results := some results }
        refine (h.runBody f inner).nested.attempt.bind fun outcome => ?_
        extract_lets ending _ ending'
        have same : ending' = ending.map (moved m.put) := by
          dsimp only [ending, ending']
          cases outcome with
          | ok d => rfl
          | error e =>
            simp only [moved_failed, Raised.moved_kind]
            split
            · rfl
            · split <;> rfl
        rw [same]
        refine (Agree.read results).bind fun c => ?_
        have next := h.advance (.cell a)
        cases c with
        | list xs =>
          have put := Agree.write (m := m) a (.iterator (.items "generator" xs.toList ending))
          simp only [Cell.moved_iterator, Iterator.moved_items, ← Array.toList_map] at put
          exact put.bind fun _ => next
        | _ => exact next
    | _ => exact .pure rfl
  | _ => exact .pure rfl

end

end SessionScript.Evaluator
