import SessionScript.Evaluator.Exchange
import SessionScript.Proofs.Evaluator.Comparison

/-!
# Texts at other places

The text of a value does not tell where cells stand, and neither does what a value is outside of
running code.
-/

namespace SessionScript.Evaluator

variable {m : Move} {s t : Store}

theorem Move.contains_put (places : List Nat) (a : Nat) :
    (places.map m.put).contains (m.put a) = places.contains a := by
  simp only [List.contains_eq_any_beq, List.any_map, Function.comp_def, m.put_beq]

namespace Datum

theorem decimalText_agree (i : Int) : Agree m (decimalText i) (decimalText i) := by
  unfold decimalText
  split
  · exact Agree.valueError.bind fun _ => .pure rfl
  · exact .pure rfl

theorem shownAll_agree {shown shown' : Datum → Work String}
    (h : ∀ d, Agree m (shown d) (shown' (moved m.put d))) (xs : List Datum) :
    Agree m (shownAll shown xs) (shownAll shown' (xs.map (moved m.put))) :=
  Agree.mapM fun d _ => h d

theorem shownPairs_agree {shown shown' : Datum → Work String}
    (h : ∀ d, Agree m (shown d) (shown' (moved m.put d))) (es : Pairs) :
    Agree m (shownPairs shown es) (shownPairs shown' (es.map (moved m.put))) :=
  Agree.mapM fun e _ => (h e.1).bind fun _ => (h e.2).bind fun _ => .pure rfl

theorem shownWithin_agree : (n : Nat) → (above : List Nat) → (d : Datum) →
    Agree m (shownWithin n above d) (shownWithin n (above.map m.put) (moved m.put d))
  | 0, _, _ => Work.tooDeep_agree _
  | n + 1, above, d => by
    have inside (a : Nat) (d : Datum) : Agree m (shownWithin n (a :: above) d)
        (shownWithin n (m.put a :: above.map m.put) (moved m.put d)) :=
      shownWithin_agree n (a :: above) d
    have one := shownWithin_agree n above
    have all := shownAll_agree one
    cases d with
    | int i => exact decimalText_agree i
    | tuple xs =>
      rw [moved_tuple]
      match xs with
      | [x] => exact (one x).bind fun _ => .pure rfl
      | [] | _ :: _ :: _ => exact (all _).bind fun _ => .pure (by simp)
    | slice a b c =>
      rw [moved_slice]
      exact (all [a, b, c]).bind fun _ => .pure (by simp)
    | method owner name => exact (typeName_agree owner).bind fun _ => .pure rfl
    | error kind xs =>
      rw [moved_error]
      match xs with
      | [x] => exact (one x).bind fun _ => .pure rfl
      | [] | _ :: _ :: _ => exact (all _).bind fun _ => .pure (by simp)
    | view kind a =>
      refine (Work.viewItems_agree kind a).bind fun xs => ?_
      exact (shownAll_agree (inside a) xs).bind fun _ => .pure (by simp)
    | cell a =>
      refine (Agree.read a).bind fun c => ?_
      rw [Move.contains_put]
      cases c with
      | list xs =>
        refine .ite Iff.rfl (fun _ => .pure rfl) fun _ => ?_
        rw [moved_array, Array.toList_map]
        exact (shownAll_agree (inside a) xs.toList).bind fun _ => .pure (by simp)
      | dict es =>
        exact .ite Iff.rfl (fun _ => .pure rfl) fun _ =>
          (shownPairs_agree (inside a) es).bind fun _ => .pure (by simp)
      | set ms frozen =>
        cases ms with
        | nil => exact .pure rfl
        | cons d ms =>
          have items := shownAll_agree (inside a) (Members.inOrder (d :: ms))
          rw [← Members.inOrder_moved] at items
          exact items.bind fun _ => .pure (by simp)
      | iterator it => exact .pure (congrArg objectText (cellType_moved (.iterator it)))
      | _ => exact .pure rfl
    | _ => exact .pure rfl

theorem shown_agree (d : Datum) : Agree m d.shown (moved m.put d).shown :=
  shownWithin_agree _ [] d

theorem plainText_agree (d : Datum) : Agree m d.plainText (moved m.put d).plainText := by
  cases d with
  | error kind xs =>
    rw [moved_error]
    match xs with
    | [] => exact .pure rfl
    | [x] =>
      refine .ite Iff.rfl (fun _ => shown_agree x) fun _ => ?_
      cases x with
      | text s => exact .pure rfl
      | _ => exact shown_agree _
    | x :: y :: xs =>
      have whole := shown_agree (m := m) (.tuple (x :: y :: xs))
      rw [moved_tuple] at whole
      exact whole
  | text | host => exact .pure rfl
  | _ => exact shown_agree _

theorem asciiText_agree (d : Datum) : Agree m d.asciiText (moved m.put d).asciiText :=
  (shown_agree d).bind fun _ => .pure rfl

end Datum

/-! ## Values outside of running code -/

theorem peek_eq {w w' : Work String} (h : Agree m w w') (st : m.Shows s t) :
    peek t w' = peek s w := by
  have ends := h s t st
  simp only [peek, EStateM.run]
  revert ends
  rcases w s with ⟨x, s'⟩ | ⟨e, s'⟩ <;> rcases w' t with ⟨y, t'⟩ | ⟨e', t'⟩ <;> rintro (_ | _)
  case ok.ok.ok value _ => exact value
  case error.error.error => rfl

theorem known_moved (st : m.Shows s t) (d : Datum) : known t (moved m.put d) = known s d := by
  rw [known, Datum.typeIn_moved st, peek_eq (Datum.shown_agree d) st, known]

/-- What a value is outside of running code does not tell where its cells stand. -/
theorem giveWithin_moved (st : m.Shows s t) : (n : Nat) → (above : List Nat) → (d : Datum) →
    giveWithin t n (above.map m.put) (moved m.put d) = giveWithin s n above d
  | 0, _, d => known_moved st d
  | n + 1, above, d => by
    have one := giveWithin_moved st n above
    have inside (a : Nat) (d : Datum) :
        giveWithin t n (m.put a :: above.map m.put) (moved m.put d) = giveWithin s n (a :: above) d :=
      giveWithin_moved st n (a :: above) d
    have other := known_moved st d
    cases d with
    | tuple xs =>
      simp only [Datum.moved_tuple, giveWithin, List.map_map, Function.comp_def, one]
    | error kind xs =>
      have text := peek_eq (Datum.plainText_agree (.error kind xs)) st
      rw [Datum.moved_error] at text ⊢
      simp only [giveWithin, text]
    | cell a =>
      simp only [Datum.moved_cell, giveWithin, Move.contains_put, st.getD]
      split
      · exact other
      cases s.cells.getD a (.names []) with
      | list xs =>
        simp only [Cell.moved_list, Array.toList_map, List.map_map, Function.comp_def, inside]
      | dict es =>
        simp only [Cell.moved_dict, List.map_map, Function.comp_def, moved_pair, one, inside]
      | set ms frozen =>
        cases frozen with
        | true => exact other
        | false =>
          simp only [Cell.moved_set, Members.inOrder_moved, List.map_map, Function.comp_def, inside]
      | _ => exact other
    | none | bool | int | float | text | bytes | host => rfl
    | _ => exact other

theorem give_moved (st : m.Shows s t) (d : Datum) : give t (moved m.put d) = give s d :=
  giveWithin_moved st _ [] d

theorem giveError_moved (st : m.Shows s t) (e : Raised) :
    giveError t (moved m.put e) = giveError s e := by
  simp only [giveError, Raised.moved_kind, Raised.moved_args, List.map_map, Function.comp_def,
    give_moved st]

end SessionScript.Evaluator
