import SessionScript.Evaluator.Builtin
import SessionScript.Proofs.Evaluator.Fields

/-!
# Builtin functions at other places

A builtin function that calls no code gives the same result wherever cells stand.
-/

namespace SessionScript.Evaluator

variable {m : Move}

theorem ErrorKind.make_moved (kind : String) (args : List Datum) :
    ErrorKind.make kind (args.map (moved m.put)) = moved m.put (ErrorKind.make kind args) := by
  match args with
  | [d, text] =>
    unfold make
    cases d <;> split <;> first | rfl | (split <;> grind) | grind
  | [] | [_] | _ :: _ :: _ :: _ => simp [make]

namespace Builtin

/-! ## Numbers and texts -/

theorem cut_agree (x : Binary64) : Agree m (cut x) (cut x) := .guard (.guard (.pure rfl))

theorem readInteger_agree (base : Nat) (shown : Datum) (cs : List Char) :
    Agree m (readInteger base shown cs) (readInteger base (moved m.put shown) cs) := by
  simp only [readInteger]
  split
  · exact .pure rfl
  · exact .guard ((Datum.shown_agree shown).bind fun _ => .valueError)

theorem toInteger_agree (args : Args) : Agree m (toInteger args) (toInteger (moved m.put args)) := by
  refine (Args.byName_agree _ _ args).bind fun ds => ?_
  rw [moved_list, getD_none_moved, getD_none_moved]
  cases ds.getD 0 none with
  | none => cases ds.getD 1 none <;> first | exact .pure rfl | exact .typeError
  | some d =>
    cases ds.getD 1 none with
    | some b =>
      refine (Args.integer_agree b).bind fun base => .guard ?_
      cases d <;> first | exact readInteger_agree _ _ _ | exact .typeError
    | none =>
      cases d with
      | float x => exact cut_agree x
      | text | bytes => exact readInteger_agree _ _ _
      | int | bool => exact .pure rfl
      | _ => exact (Datum.typeName_agree _).bind fun _ => .typeError

theorem toFloat_agree (args : Args) : Agree m (toFloat args) (toFloat (moved m.put args)) := by
  unfold toFloat
  refine (Args.between_agree _ _ _ args).bind fun ds => ?_
  extract_lets read
  have same (d : Datum) (cs : List Char) : Agree m (read d cs) (read (moved m.put d) cs) := by
    dsimp only [read]
    split
    · exact .pure rfl
    · exact (Datum.shown_agree d).bind fun _ => .valueError
  have head : (ds.map (moved m.put)).headD (.float (Binary64.zero false)) =
      moved m.put (ds.headD (.float (Binary64.zero false))) := by cases ds <;> rfl
  rw [moved_list, head]
  cases ds.headD (.float (Binary64.zero false)) with
  | text s => exact same (.text s) _
  | bytes b => exact same (.bytes b) _
  | _ =>
    refine (Datum.toFloat?_agree _).bind fun x => ?_
    cases x with
    | some x => exact .pure rfl
    | none => exact (Datum.typeName_agree _).bind fun _ => .typeError

theorem toText_agree (args : Args) : Agree m (toText args) (toText (moved m.put args)) := by
  refine (Args.byName_agree _ _ args).bind fun ds => ?_
  rw [moved_list, getD_none_moved, getD_none_moved, getD_none_moved]
  cases ds.getD 0 none with
  | none => exact .pure rfl
  | some d =>
    have plain : Agree m (do return Datum.text (← d.plainText))
        (do return Datum.text (← (moved m.put d).plainText)) :=
      (Datum.plainText_agree d).bind fun _ => .pure rfl
    cases ds.getD 1 none <;> cases ds.getD 2 none
    case none.none => exact plain
    all_goals
      cases d with
      | bytes b => exact Method.decoded_agree b ⟨[_, _], []⟩
      | _ => exact (Datum.typeName_agree _).bind fun _ => .typeError

theorem rounded_agree (args : Args) : Agree m (rounded args) (rounded (moved m.put args)) := by
  unfold rounded
  refine (Args.byName_agree _ _ args).bind fun ds => ?_
  rw [moved_list, getD_none_moved, getD_none_moved]
  extract_lets round round'
  have same (places : Option Int) : Agree m (round places) (round' (moved m.put places)) := by
    rw [moved_constant?]
    dsimp only [round, round']
    cases ds.getD 0 none with
    | none => exact .typeError
    | some d =>
      cases d with
      | float x =>
        cases places with
        | some n => exact .guard (.pure rfl)
        | none => exact .ite Iff.rfl (fun _ => .pure rfl) fun _ => cut_agree x
      | int | bool =>
        cases places with
        | some n => exact .ite Iff.rfl (fun _ => .pure rfl) fun _ => .pure rfl
        | none => exact .pure rfl
      | _ => exact (Datum.typeName_agree _).bind fun _ => .typeError
  have given (d : Datum) :
      Agree m (some <$> Args.integer d) (some <$> Args.integer (moved m.put d)) :=
    (Args.integer_agree d).map fun _ => rfl
  cases ds.getD 1 none with
  | none => exact .bind (.pure rfl) same
  | some d => cases d <;> first | exact .bind (.pure rfl) same | exact (given _).bind same

theorem absolute_agree (d : Datum) : Agree m (absolute d) (absolute (moved m.put d)) := by
  cases d with
  | float | complex | int | bool => exact .pure rfl
  | _ => exact (Datum.typeName_agree _).bind fun _ => .typeError

theorem divided_agree (a b : Datum) :
    Agree m (divided a b) (divided (moved m.put a) (moved m.put b)) := by
  refine (Datum.numbers?_agree a b).bind fun ns => ?_
  rcases ns with _ | _ | _ | _
  · exact unsupported_agree _ a b
  · exact .guard (.pure rfl)
  · exact .guard (.pure rfl)
  · exact unsupported_agree _ a b

theorem power_agree (args : Args) : Agree m (power args) (power (moved m.put args)) := by
  refine (Args.byName_agree _ _ args).bind fun ds => ?_
  rw [moved_list, getD_none_moved, getD_none_moved, getD_none_moved]
  cases ds.getD 0 none with
  | none => exact .typeError
  | some a =>
    cases ds.getD 1 none with
    | none => exact .typeError
    | some b =>
      have plain := Datum.binary_agree (m := m) .pow false a b
      cases ds.getD 2 none with
      | none => exact plain
      | some c =>
        obtain rfl | h := Classical.em (c = .none)
        · exact plain
        have h' : moved m.put c ≠ .none := mt Datum.moved_eq_none.mp h
        simp only [moved_option, Option.map_some, Datum.integer?_moved]
        split
        · refine .guard (.ite Iff.rfl (fun _ => .pure rfl) fun _ => ?_)
          split
          · exact .pure rfl
          · exact .valueError
        · exact .typeError

theorem character_agree (d : Datum) : Agree m (character d) (character (moved m.put d)) :=
  (Args.integer_agree d).bind fun _ => .guard (.pure rfl)

theorem ordinal_agree (d : Datum) : Agree m (ordinal d) (ordinal (moved m.put d)) := by
  cases d with
  | text s =>
    dsimp only [ordinal, Datum.moved_text]
    split
    · exact .pure rfl
    · exact .typeError
  | bytes b =>
    match b with
    | [x] => exact .pure rfl
    | [] | _ :: _ :: _ => exact .typeError
  | _ => exact (Datum.typeName_agree _).bind fun _ => .typeError

theorem inBase_agree (base : Nat) (mark : List Char) (d : Datum) :
    Agree m (inBase base mark d) (inBase base mark (moved m.put d)) :=
  (Args.integer_agree d).bind fun _ => .pure rfl

/-! ## Ranges and slices -/

theorem range_agree (args : Args) : Agree m (range args) (range (moved m.put args)) := by
  refine (Args.between_agree _ _ _ args).bind fun ds => ?_
  rw [moved_list]
  refine (Agree.mapM fun d _ => Args.integer_agree d).bind fun ns => ?_
  rw [moved_constants]
  split
  · exact .pure rfl
  · exact .pure rfl
  · exact .guard (.pure rfl)
  · exact .pure rfl

theorem slice_agree (args : Args) : Agree m (slice args) (slice (moved m.put args)) := by
  refine (Args.between_agree _ _ _ args).bind fun ds => ?_
  match ds with
  | [] | [_] | [_, _] | _ :: _ :: _ :: _ => exact .pure rfl

/-! ## Types -/

theorem isBelow_moved {s t : Store} (h : m.Shows s t) (d : Datum) (name : String) :
    isBelow t (moved m.put d) name = isBelow s d name := by
  simp only [isBelow, Datum.typeIn_moved h]

theorem isInstance_agree (d : Datum) : (t : Datum) → (n : Nat) →
    Agree m (isInstance d t n) (isInstance (moved m.put d) (moved m.put t) n)
  | _, 0 => .pure rfl
  | t, n + 1 => by
    cases t with
    | type name =>
      exact .get_bind fun s t h => .pure (isBelow_moved h d name)
    | tuple ts =>
      rw [Datum.moved_tuple]
      exact .anyM fun t _ => isInstance_agree d t n
    | _ => exact .typeError

/-! ## Containers -/

theorem sumFrom_agree : (acc : Datum) → (ds : List Datum) →
    Agree m (sumFrom acc ds) (sumFrom (moved m.put acc) (ds.map (moved m.put)))
  | _, [] => .pure rfl
  | acc, d :: ds => (Datum.binary_agree _ _ acc d).bind fun acc => sumFrom_agree acc ds

theorem sum_agree (args : Args) : Agree m (sum args) (sum (moved m.put args)) := by
  refine (Args.byName_agree _ _ args).bind fun ds => ?_
  rw [moved_list, getD_none_moved, getD_none_moved]
  have walked : Method.walked ((moved m.put (ds.getD 0 none)).getD .none) =
      (Method.walked ((ds.getD 0 none).getD .none)).map (moved m.put) := by
    cases ds.getD 0 none with
    | none => rfl
    | some d => exact Method.walked_moved d
  rw [walked]
  cases ds.getD 1 none with
  | none => exact sumFrom_agree _ _
  | some d => cases d <;> first | exact .typeError | exact sumFrom_agree _ _

theorem items_agree (name : String) (args : Args) :
    Agree m (items name args) (items name (moved m.put args)) := by
  refine (Args.between_agree _ _ _ args).bind fun ds => .pure ?_
  cases ds with
  | nil => rfl
  | cons d ds => exact Method.walked_moved d

theorem mapping_agree (args : Args) : Agree m (mapping args) (mapping (moved m.put args)) := by
  have put (es : Pairs) : Agree m
      (Work.new (.dict (Method.putAll [] (es ++ args.named.map fun e => (Datum.text e.1, e.2)))))
      (Work.new (.dict (Method.putAll [] (es.map (moved m.put) ++
        (args.named.map (moved m.put)).map fun e => (Datum.text e.1, e.2))))) := by
    have moved := Method.putAll_named_moved (m := m) [] es args.named
    rw [List.map_nil] at moved
    rw [moved]
    exact Agree.new (.dict _)
  simp only [mapping, Args.moved_positional, Args.moved_named, List.length_map]
  refine .guard ?_
  match args.positional with
  | [d] => exact (Method.entriesOf_agree d).bind put
  | [] => exact put []
  | _ :: _ :: _ => exact put []

theorem toBytes_agree (args : Args) : Agree m (toBytes args) (toBytes (moved m.put args)) := by
  refine (Args.byName_agree _ _ args).bind fun ds => ?_
  rw [moved_list, getD_none_moved, getD_none_moved]
  cases ds.getD 0 none with
  | none => exact .pure rfl
  | some d =>
    cases d with
    | bytes b => exact .pure rfl
    | text s =>
      cases ds.getD 1 none with
      | some e => exact Method.encoded_agree s.toList (.ofList [e])
      | none => exact .typeError
    | tuple xs =>
      rw [moved_option, Option.map_some, Datum.moved_tuple]
      refine Agree.bind (Agree.mapM fun d _ => ?_) fun _ => .pure (by simp)
      exact (Args.integer_agree d).bind fun i => .guard (.pure rfl)
    | _ => exact (Args.integer_agree _).bind fun n => .guard (.pure rfl)

theorem toComplex_agree (args : Args) : Agree m (toComplex args) (toComplex (moved m.put args)) := by
  unfold toComplex
  refine (Args.byName_agree _ _ args).bind fun ds => ?_
  rw [moved_list, getD_none_moved, getD_none_moved]
  extract_lets zero parts
  have same (d : Option Datum) : Agree m (parts d) (parts (moved m.put d)) := by
    cases d with
    | none => exact .pure rfl
    | some d =>
      refine (Datum.parts?_agree d).bind fun p => ?_
      cases p with
      | some p => exact .pure rfl
      | none => exact (Datum.typeName_agree d).bind fun _ => .typeError
  exact (same _).bind fun p => (same _).bind fun q => .pure rfl

/-! ## Calls -/

theorem call_agree (name : String) (args : Args) :
    Agree m (call name args) (call name (moved m.put args)) := by
  unfold call
  split
  · exact toInteger_agree args
  · exact toFloat_agree args
  · exact toText_agree args
  · exact toComplex_agree args
  · exact toBytes_agree args
  · refine (Args.between_agree _ _ _ args).bind fun ds => ?_
    match ds with
    | [d] => exact (Datum.truth_agree d).bind fun _ => .pure rfl
    | [] | _ :: _ :: _ => exact .pure rfl
  · exact (items_agree _ args).bind fun ds => .newList ds
  · exact (items_agree _ args).bind fun ds => .pure (by simp)
  iterate 2
    · refine (items_agree _ args).bind fun ds => ?_
      refine (Agree.forM fun d _ => Datum.needKey_agree d).bind fun _ => ?_
      rw [moved_list, Members.ofList_moved]
      exact .new (.set _ _)
  · exact mapping_agree args
  · exact range_agree args
  · exact slice_agree args
  · exact .pure rfl
  · exact (Args.one_agree _ args).bind fun d => (Datum.typeName_agree d).bind fun _ => .pure rfl
  · exact (Args.one_agree _ args).bind fun d => absolute_agree d
  · exact (Args.one_agree _ args).bind fun d => (Datum.asciiText_agree d).bind fun _ => .pure rfl
  iterate 3 · exact (Args.one_agree _ args).bind fun d => inBase_agree _ _ d
  · exact (Args.one_agree _ args).bind fun d => (Datum.typeName_agree d).bind fun _ => .pure rfl
  · exact (Args.one_agree _ args).bind fun d => character_agree d
  · exact (Args.one_agree _ args).bind fun d => ordinal_agree d
  · refine (Args.between_agree _ _ _ args).bind fun ds => ?_
    rw [moved_list, headD_moved, getD_moved]
    exact divided_agree _ _
  · refine (Args.between_agree _ _ _ args).bind fun ds => ?_
    have spec : (ds.map (moved m.put)).getD 1 (.text "") = moved m.put (ds.getD 1 (.text "")) := by
      rw [List.getD_eq_getElem?_getD, List.getElem?_map, List.getD_eq_getElem?_getD]
      cases ds[1]? <;> rfl
    rw [moved_list, headD_moved, spec]
    cases ds.getD 1 (.text "") with
    | text spec => exact (Datum.format_agree _ spec).bind fun _ => .pure rfl
    | _ => exact (Datum.typeName_agree _).bind fun _ => .typeError
  · refine (Args.between_agree _ _ _ args).bind fun ds => ?_
    rw [moved_list, headD_moved, getD_moved, List.getElem?_map]
    cases ds.getD 1 .none with
    | text n =>
      have member := Method.memberOf_agree (m := m) (ds.headD .none) n
      cases ds[2]? with
      | none => exact member
      | some d =>
        exact member.tryCatch fun e => .ite Iff.rfl (fun _ => .pure rfl) fun _ => .throw rfl
    | _ => cases ds[2]? <;> exact .typeError
  · refine (Args.between_agree _ _ _ args).bind fun ds => ?_
    rw [moved_list, headD_moved, getD_moved]
    cases ds.getD 1 .none with
    | text n =>
      have member : Agree m
          (do let _ ← Method.memberOf (ds.headD .none) n; return Datum.bool true)
          (do let _ ← Method.memberOf (moved m.put (ds.headD .none)) n; return Datum.bool true) :=
        (Method.memberOf_agree (ds.headD .none) n).bind fun _ => .pure rfl
      exact member.tryCatch fun e => .ite Iff.rfl (fun _ => .pure rfl) fun _ => .throw rfl
    | _ => exact .typeError
  · refine (Args.between_agree _ _ _ args).bind fun ds => ?_
    rw [moved_list, headD_moved, getD_moved]
    exact (isInstance_agree _ _ _).bind fun _ => .pure rfl
  · refine (Args.one_agree _ args).bind fun d => (Datum.length?_agree d).bind fun n => ?_
    cases n with
    | some n => exact .pure rfl
    | none => exact (Datum.typeName_agree d).bind fun _ => .typeError
  · exact power_agree args
  · exact .pure rfl
  · exact (Args.one_agree _ args).bind fun d => (Datum.shown_agree d).bind fun _ => .pure rfl
  · exact rounded_agree args
  · exact sum_agree args
  · exact .raise

end Builtin

end SessionScript.Evaluator
