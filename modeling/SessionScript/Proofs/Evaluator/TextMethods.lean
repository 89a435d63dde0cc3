import SessionScript.Evaluator.Method.Text
import SessionScript.Proofs.Evaluator.Items

/-!
# Methods of texts at other places

What a method makes of a text depends on its arguments, not on where their cells stand.
-/

namespace SessionScript.Evaluator.Method

variable {m : Move}

/-! ## Arguments -/

theorem needText_agree (message : String) (d : Datum) :
    Agree m (needText message d) (needText message (moved m.put d)) := by
  cases d with
  | text s => exact .pure rfl
  | _ => exact (Datum.typeName_agree _).bind fun _ => .typeError

theorem atMost_agree (length : Nat) (d : Option Datum) :
    Agree m (atMost length d) (atMost length (moved m.put d)) := by
  cases d with
  | none => exact .pure rfl
  | some d => exact (Args.integer_agree d).bind fun _ => .pure rfl

theorem bound_agree (d : Option Datum) : Agree m (bound d) (bound (moved m.put d)) := by
  cases d with
  | none => exact .pure rfl
  | some d => exact Datum.sliceBound_agree d

theorem between_agree (low high : Option Datum) (cs : List Char) :
    Agree m (between low high cs) (between (moved m.put low) (moved m.put high) cs) := by
  refine (bound_agree low).bind fun l => (bound_agree high).bind fun h => ?_
  simp only [moved_option, moved_constant_eq_id, Option.map_id, id_eq]
  exact .ite Iff.rfl (fun _ => .pure rfl) fun _ => .pure (by simp)

theorem stripped_agree (name : String) (d : Option Datum) :
    Agree m (stripped name d) (stripped name (moved m.put d)) := by
  cases d with
  | none => exact .pure rfl
  | some d => cases d <;> first | exact .pure rfl | exact .typeError

theorem separator_agree (d : Option Datum) :
    Agree m (separator d) (separator (moved m.put d)) := by
  cases d with
  | none => exact .pure rfl
  | some d =>
    cases d with
    | none => exact .pure rfl
    | text t => exact .guard (.pure rfl)
    | _ => exact (Datum.typeName_agree _).bind fun _ => .typeError

theorem textList_agree (parts : List (List Char)) :
    Agree m (textList parts) (textList parts) := by
  have list := Agree.newList (m := m) (parts.map Datum.ofChars)
  rw [List.map_map] at list
  exact list

/-! ## Methods -/

theorem placed_agree (name : String) (cs : List Char) (args : Args) :
    Agree m (placed name cs args) (placed name cs (moved m.put args)) := by
  unfold placed
  refine (Args.between_agree name 1 2 args).bind fun ds => ?_
  rw [moved_list, headD_moved, List.getElem?_map]
  refine (Args.integer_agree _).bind fun width => ?_
  extract_lets _ _ lay _ _ lay'
  have same (fill : Char) : Agree m (lay fill) (lay' fill) := by
    dsimp only [lay, lay']
    split <;> exact .pure rfl
  cases ds[1]? with
  | none => exact .bind (.pure rfl) same
  | some d =>
    cases d with
    | text t =>
      rw [Option.map_some, Datum.moved_text]
      dsimp only
      split
      · exact .bind (.pure rfl) same
      · exact .bind .typeError same
    | _ => exact (Datum.typeName_agree _).bind fun _ => .bind .typeError same

theorem joined_agree (glue : List Char) (parts : List Datum) :
    Agree m (joined glue parts) (joined glue (parts.map (moved m.put))) := by
  refine Agree.bind ?_ fun (_ : List (List Char)) => .pure (by simp)
  rw [List.zipIdx_map]
  refine Agree.mapM fun p _ => ?_
  obtain ⟨d, i⟩ := p
  cases d with
  | text => exact .pure rfl
  | _ => exact (Datum.typeName_agree _).bind fun _ => .typeError

/-- Whether a part is at an end of a stretch of a text. -/
theorem endTest_agree (name : String) (cs part : List Char) (first last : Option Datum) : Agree m
    (do match ← between first last cs with
        | none => return false
        | some (_, piece) =>
          return if name == "startswith" then part.isPrefixOf piece else part.isSuffixOf piece)
    (do match ← between (first.map (moved m.put)) (last.map (moved m.put)) cs with
        | none => return false
        | some (_, piece) =>
          return if name == "startswith" then part.isPrefixOf piece
            else part.isSuffixOf piece) := by
  refine (between_agree first last cs).bind fun found => ?_
  cases found with
  | none => exact .pure rfl
  | some p => exact .pure rfl

theorem hasEnd_agree (name : String) (cs : List Char) (args : Args) :
    Agree m (hasEnd name cs args) (hasEnd name cs (moved m.put args)) := by
  refine (Args.between_agree name 1 3 args).bind fun ds => ?_
  simp only [moved_list, headD_moved, List.getElem?_map]
  cases ds.headD .none with
  | text t => exact (endTest_agree name cs t.toList ds[1]? ds[2]?).bind fun _ => .pure rfl
  | tuple ts =>
    rw [Datum.moved_tuple]
    refine Agree.bind (Agree.anyM fun d _ => ?_) fun _ => .pure rfl
    cases d with
    | text t => exact endTest_agree name cs t.toList ds[1]? ds[2]?
    | _ => exact (Datum.typeName_agree _).bind fun _ => .typeError
  | _ => exact (Datum.typeName_agree _).bind fun _ => .typeError

theorem position_agree (name : String) (cs : List Char) (args : Args) :
    Agree m (position name cs args) (position name cs (moved m.put args)) := by
  unfold position
  refine (Args.between_agree name 1 3 args).bind fun ds => ?_
  rw [moved_list, headD_moved]
  refine (needText_agree _ _).bind fun part => ?_
  rw [List.getElem?_map, List.getElem?_map]
  refine (between_agree ds[1]? ds[2]? cs).bind fun found => ?_
  extract_lets answer
  have same (found : Option Nat) : Agree m (answer found) (answer (moved m.put found)) := by
    rw [moved_constant?]
    cases found with
    | some n => exact .pure rfl
    | none => exact .ite Iff.rfl (fun _ => .pure rfl) fun _ => .valueError
  cases found with
  | none => exact .bind (.pure rfl) same
  | some p => exact .bind (.pure (by simp)) same

theorem pieces_agree (name : String) (cs : List Char) (args : Args) :
    Agree m (pieces name cs args) (pieces name cs (moved m.put args)) := by
  refine (Args.byName_agree name _ args).bind fun ds => ?_
  simp only [moved_list, getD_none_moved]
  refine (atMost_agree _ _).bind fun most => ?_
  refine (separator_agree _).bind fun s => ?_
  cases s with
  | none => exact textList_agree _
  | some s => exact textList_agree _

theorem partition_agree (name : String) (cs : List Char) (args : Args) :
    Agree m (partition name cs args) (partition name cs (moved m.put args)) := by
  refine (Args.one_agree _ args).bind fun d => (needText_agree _ d).bind fun s => ?_
  refine .guard ?_
  dsimp only [moved_constant]
  split
  · exact .pure rfl
  · exact .pure (by split <;> rfl)

theorem encoded_agree (cs : List Char) (args : Args) :
    Agree m (encoded cs args) (encoded cs (moved m.put args)) := by
  refine (Args.byName_agree _ _ args).bind fun ds => ?_
  rw [moved_list, getD_none_moved]
  extract_lets limited bytes
  have limits (limit : Nat) (shown : String) :
      Agree m (limited limit shown) (limited limit shown) := by
    dsimp only [limited]
    split
    · exact .pure rfl
    · exact .throw rfl
  have same (name : List Char) : Agree m (bytes name) (bytes name) := by
    dsimp only [bytes]
    split
    · exact .pure rfl
    · exact limits 128 "ascii"
    · exact limits 256 "latin-1"
    · exact limits 256 "latin-1"
    · exact .raise
  cases ds.getD 0 none with
  | none => exact .bind (.pure rfl) same
  | some d => exact (needText_agree _ d).bind same

theorem substituted_agree (cs : List Char) (table : Datum) :
    Agree m (substituted cs table) (substituted cs (moved m.put table)) := by
  refine Agree.bind (Agree.mapM_constant fun c _ => ?_) fun _ => .pure (by simp)
  have found : Agree m (do return some (← table.item (.int c.val.toNat)))
      (do return some (← (moved m.put table).item (.int c.val.toNat))) :=
    (Datum.item_agree table (.int c.val.toNat)).bind fun _ => .pure rfl
  have handled : Agree m
      (tryCatch (do return some (← table.item (.int c.val.toNat)))
        fun (e : Raised) => if e.kind == "KeyError" || e.kind == "IndexError" then pure none
          else throw e : Work (Option Datum))
      (tryCatch (do return some (← (moved m.put table).item (.int c.val.toNat)))
        fun (e : Raised) => if e.kind == "KeyError" || e.kind == "IndexError" then pure none
          else throw e) :=
    found.tryCatch fun e => .ite Iff.rfl (fun _ => .pure rfl) fun _ => .throw rfl
  refine handled.bind fun found => ?_
  cases found with
  | none => exact .pure rfl
  | some d => cases d <;> first | exact .pure rfl | exact .typeError

theorem plainText?_moved (name : String) (cs : List Char) :
    (plainText? name cs).map (moved m.put) = plainText? name cs := by
  unfold plainText?
  split <;> rfl

theorem ofText_agree (name : String) (s : String) (args : Args) :
    Agree m (ofText name s args) (ofText name s (moved m.put args)) := by
  unfold ofText
  extract_lets cs
  have plain := plainText?_moved (m := m) name cs
  cases h : plainText? name cs with
  | some d =>
    rw [h, Option.map_some, Option.some_inj] at plain
    exact (Args.none_agree _ args).bind fun _ => .pure plain.symm
  | none =>
    dsimp only
    split
    iterate 3
      · refine (Args.between_agree _ _ _ args).bind fun ds => ?_
        rw [moved_list, List.getElem?_map]
        exact (stripped_agree _ ds[0]?).bind fun _ => .pure rfl
    iterate 2 · exact pieces_agree _ cs args
    · refine (Args.byName_agree _ _ args).bind fun ds => ?_
      rw [moved_list, getD_none_moved]
      cases ds.getD 0 none with
      | none => exact .bind (.pure rfl) fun _ => textList_agree _
      | some d => exact (Datum.truth_agree d).bind fun _ => textList_agree _
    · refine (Args.one_agree _ args).bind fun d => ?_
      cases d with
      | tuple parts =>
        rw [Datum.moved_tuple]
        exact joined_agree cs parts
      | _ => exact .typeError
    · refine (Args.between_agree _ _ _ args).bind fun ds => ?_
      simp only [moved_list, headD_moved, getD_moved, List.getElem?_map]
      refine (needText_agree _ _).bind fun old => ?_
      refine (needText_agree _ _).bind fun new => ?_
      exact (atMost_agree _ ds[2]?).bind fun _ => .pure rfl
    iterate 4 · exact position_agree _ cs args
    · refine (Args.between_agree _ _ _ args).bind fun ds => ?_
      simp only [moved_list, headD_moved, List.getElem?_map]
      refine (needText_agree _ _).bind fun part => ?_
      refine (between_agree ds[1]? ds[2]? cs).bind fun found => ?_
      cases found <;> exact .pure rfl
    iterate 2 · exact hasEnd_agree _ cs args
    iterate 3 · exact placed_agree _ cs args
    · refine (Args.one_agree _ args).bind fun d => ?_
      exact (Args.integer_agree d).bind fun _ => .pure rfl
    iterate 2 · exact partition_agree _ cs args
    iterate 2
      · refine (Args.one_agree _ args).bind fun d => ?_
        exact (needText_agree _ d).bind fun _ => .pure rfl
    · refine (Args.byName_agree _ _ args).bind fun ds => ?_
      rw [moved_list, getD_none_moved]
      cases ds.getD 0 none with
      | none => exact .bind (.pure rfl) fun _ => .pure rfl
      | some d => exact (Args.integer_agree d).bind fun _ => .pure rfl
    · exact encoded_agree cs args
    · exact (Args.one_agree _ args).bind fun d => substituted_agree cs d
    · exact .raise

end SessionScript.Evaluator.Method
