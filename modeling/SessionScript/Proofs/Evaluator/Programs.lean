import SessionScript.Functions.Code
import SessionScript.Proofs.Evaluator.Rest
import SessionScript.Proofs.Evaluator.Statements

/-!
# Programs at other places

A program that is run with the same bindings and the same table gives the same answer wherever
their cells stand in the store of an evaluator, and whatever else the store holds.
-/

namespace SessionScript.Evaluator

variable {m : Move}

/-! ## Values of the host -/

mutual

theorem take_agree : (v : Value) → Agree m (take v) (take v)
  | .null | .bool _ | .int _ | .float _ | .text _ | .bytes _ => .pure rfl
  | .date _ | .datetime _ | .object _ | .other _ _ => .pure rfl
  | .error kind message => .pure (Datum.moved_error kind [.text message]).symm
  | .list vs => (takeItems_agree vs).bind fun ds => .newList ds
  | .tuple vs => (takeItems_agree vs).bind fun ds => .pure (Datum.moved_tuple ds).symm
  | .set vs => (takeItems_agree vs).bind fun ds => .new (.set ds false)
  | .dict es => (takeEntries_agree es).bind fun es => .new (.dict es)

theorem takeItems_agree : (vs : List Value) → Agree m (takeItems vs) (takeItems vs)
  | [] => .pure rfl
  | v :: vs => (take_agree v).bind fun _ => (takeItems_agree vs).bind fun _ => .pure rfl

theorem takeEntries_agree : (es : List (Value × Value)) →
    Agree m (takeEntries es) (takeEntries es)
  | [] => .pure rfl
  | (k, v) :: es =>
    (take_agree k).bind fun _ => (take_agree v).bind fun _ =>
      (takeEntries_agree es).bind fun _ => .pure rfl

end

/-! ## Programs -/

theorem Work.bindAll_moved (ns acc : Bindings) :
    (ns.map (moved m.put)).foldl (fun acc b => Work.bindName b.1 b.2 acc) (acc.map (moved m.put)) =
      (ns.foldl (fun acc b => Work.bindName b.1 b.2 acc) acc).map (moved m.put) := by
  induction ns generalizing acc with
  | nil => rfl
  | cons b ns ih =>
    simp only [List.map_cons, List.foldl_cons, moved_pair, moved_constant, Work.bindName_moved, ih]

theorem Builtin.ofName?_moved (f : Nat → Nat) {name : String} {d : Datum}
    (h : Builtin.ofName? name = some d) : moved f d = d := by
  unfold Builtin.ofName? at h
  iterate 3
    split at h
    · cases h
      rfl
  split at h <;> cases h <;> rfl

theorem tableFor_agree (globals : Nat) :
    Agree m (tableFor globals) (tableFor (m.put globals)) := by
  refine (Work.bound_agree globals).bind fun ns => ?_
  rw [moved_list, lookup_moved]
  cases ns.lookup tableName with
  | some d => exact .pure rfl
  | none =>
    have still : (Builtin.everything.filterMap fun name =>
        (Builtin.ofName? name).map fun d => (Datum.text name, d)).map (moved m.put) =
        Builtin.everything.filterMap fun name =>
          (Builtin.ofName? name).map fun d => (Datum.text name, d) := by
      rw [List.map_filterMap]
      congr 1
      funext name
      cases found : Builtin.ofName? name with
      | none => rfl
      | some d => simp [Builtin.ofName?_moved m.put found]
    have table := Agree.new (m := m) (.dict (Builtin.everything.filterMap fun name =>
      (Builtin.ofName? name).map fun d => (Datum.text name, d)))
    rw [Cell.moved_dict, still] at table
    exact table

theorem prepare_agree (globals : Nat) (p : Code.Program) :
    Agree m (prepare globals p) (prepare (m.put globals) p) := by
  unfold prepare
  extract_lets start start'
  have same (u : Unit) : Agree m (start u) (start' u) := by
    dsimp only [start, start']
    cases p.body.head?.bind Code.Stmt.text? with
    | some s => exact Work.bind_agree globals _ (.text s)
    | none => exact .pure rfl
  refine .ite Iff.rfl (fun _ => ?_) fun _ => same ()
  refine (Work.bound_agree globals).bind fun ns => ?_
  rw [moved_list, lookup_moved, Option.isNone_map]
  refine .ite Iff.rfl (fun _ => ?_) fun _ => same ()
  refine (Agree.new (.dict [])).bind fun notes => ?_
  exact (Work.bind_agree globals _ notes).bind same

theorem runIn_agree (globals : Nat) (p : Code.Program) :
    Agree m (runIn globals p) (runIn (m.put globals) p) := by
  refine (tableFor_agree globals).bind fun table => ?_
  refine (prepare_agree globals p).bind fun _ => ?_
  let scope : Scope := { globals := globals, builtins := table, frames := [] }
  refine ((evaluatesAlike m steps).execBlock scope p.body).bind fun _ => ?_
  cases p.tail with
  | none => exact .pure rfl
  | some e =>
    refine (tableFor_agree globals).bind fun table => ?_
    exact (evaluatesAlike m steps).eval { globals := globals, builtins := table, frames := [] } e

theorem runWith_agree (table : Nat) (bindings : Bindings) (p : Code.Program) :
    Agree m (runWith table bindings p)
      (runWith (m.put table) (bindings.map (moved m.put)) p) := by
  unfold runWith
  have start := Work.bindName_moved (m := m) tableName (.cell table) bindings
  rw [Datum.moved_cell] at start
  rw [start]
  refine .newCell_bind (c := .names _) rfl fun globals => ?_
  refine (runIn_agree globals p).attempt.bind fun outcome => ?_
  refine (Work.bound_agree globals).bind fun seen => .pure ?_
  rw [moved_list, List.filter_map]
  exact congrArg _ (Work.bindAll_moved _ bindings)

/-! ## Evaluators -/

/-- What a run tells: the value or the failure, and the bindings afterwards. -/
def told (r : Except Failure Datum × Bindings × Evaluator) :
    Except Failure Value × List (String × Value) :=
  (r.1.map r.2.2.release, r.2.1.map fun b => (b.1, r.2.2.release b.2))

/-- An evaluator holds what another one holds, its table among it, where a move puts it. -/
structure Move.Relates (m : Move) (ev ev' : Evaluator) : Prop where
  store : m.Shows (atRest ev.store) (atRest ev'.store)
  table : ev'.table = m.put ev.table

theorem Move.Shows.atRest {s t : Store} (st : m.Shows s t) :
    m.Shows (atRest s) (atRest t) :=
  { st with handling := rfl, room := rfl }

section
variable {ev ev' : Evaluator} (related : m.Relates ev ev')
include related

theorem release_moved (d : Datum) : ev'.release (moved m.put d) = ev.release d := by
  rw [release, ← give_atRest, give_moved related.store, give_atRest, release]

/-- Bindings that stand at other places are the same for the host. -/
theorem told_moved (outcome : Except Failure Datum) (bindings : Bindings) :
    told (outcome.map (moved m.put), bindings.map (moved m.put), ev') =
      told (outcome, bindings, ev) := by
  have released := release_moved related
  cases outcome <;>
    simp only [told, List.map_map, Function.comp_def, moved_pair, moved_constant, Except.map,
      released]

theorem run_moved (bindings : Bindings) (p : Code.Program) :
    told (ev'.run (bindings.map (moved m.put)) p) = told (ev.run bindings p) ∧
      m.Relates (ev.run bindings p).2.2 (ev'.run (bindings.map (moved m.put)) p).2.2 := by
  have after {s t : Store} (st : m.Shows s t) :
      m.Relates { ev with store := s } { ev' with store := t } := ⟨st.atRest, related.table⟩
  have fails {s t : Store} (st : m.Shows s t) (e : Raised) (bindings : Bindings) :
      told (.error (failed (giveError t (moved m.put e))), bindings.map (moved m.put),
        { ev' with store := t }) =
      told (.error (failed (giveError s e)), bindings, { ev with store := s }) := by
    rw [giveError_moved st]
    exact told_moved (after st) (.error _) bindings
  have ends := runWith_agree ev.table bindings p _ _ related.store
  rw [← related.table] at ends
  simp only [run, EStateM.run]
  simp only [atRest] at ends
  revert ends
  rcases runWith ev.table bindings p _ with ⟨⟨outcome, bindings'⟩, s⟩ | ⟨e, s⟩ <;>
    rcases runWith ev'.table (bindings.map (moved m.put)) p _ with ⟨_, t⟩ | ⟨e', t⟩ <;>
    rintro (_ | _)
  case ok.ok.ok value st =>
    subst value
    cases outcome with
    | ok d => exact ⟨told_moved (after st) (.ok d) bindings', after st⟩
    | error e => exact ⟨fails st e bindings', after st⟩
  case error.error.error raised st =>
    subst raised
    exact ⟨fails st e bindings, after st⟩

theorem evaluate_moved (bindings : Bindings) (code : String) :
    told (ev'.evaluate (bindings.map (moved m.put)) code) = told (ev.evaluate bindings code) ∧
      m.Relates (ev.evaluate bindings code).2.2
        (ev'.evaluate (bindings.map (moved m.put)) code).2.2 := by
  unfold evaluate
  cases Code.Program.compile code.toList with
  | error f => exact ⟨told_moved related (.error f) bindings, related⟩
  | ok p => exact run_moved related bindings p

theorem accept_moved (v : Value) :
    (ev'.accept v).1 = moved m.put (ev.accept v).1 ∧
      m.Relates (ev.accept v).2 (ev'.accept v).2 := by
  have ends := take_agree (m := m) v _ _ related.store
  rw [take_calm v, take_calm v] at ends
  simp only [accept, EStateM.run]
  revert ends
  rcases take v ev.store with ⟨d, s⟩ | ⟨e, s⟩ <;>
    rcases take v ev'.store with ⟨d', t⟩ | ⟨e', t⟩ <;> rintro (_ | _)
  case ok.ok.ok value st => exact ⟨value, st, related.table⟩
  case error.error.error raised st => exact ⟨rfl, st, related.table⟩

end

theorem acceptAll_moved (vs : List Value) {ev ev' : Evaluator} (related : m.Relates ev ev') :
    (ev'.acceptAll vs).1 = (ev.acceptAll vs).1.map (moved m.put) ∧
      m.Relates (ev.acceptAll vs).2 (ev'.acceptAll vs).2 := by
  induction vs generalizing ev ev' with
  | nil => exact ⟨rfl, related⟩
  | cons v vs ih =>
    have first := accept_moved related v
    have rest := ih first.2
    refine ⟨?_, rest.2⟩
    simp only [acceptAll, first.1, rest.1, List.map_cons]

end SessionScript.Evaluator

namespace SessionScript.CodeFunction

open Evaluator

variable {m : Move}

theorem bindings_moved (params : List String) (ds : List Datum) :
    bindings params (ds.map (moved m.put)) = (bindings params ds).map (moved m.put) := by
  have bound : bindParams Datum.none params (ds.map (moved m.put)) =
      (bindParams Datum.none params ds).map (moved m.put) := by
    simp only [bindParams, List.map_map]
    refine List.map_congr_left fun p _ => ?_
    simp only [Function.comp_apply, List.getElem?_map, moved_pair, moved_constant]
    cases ds[p.2]? <;> rfl
  have all := Work.bindAll_moved (m := m)
    (bindParams Datum.none params ds ++ [("args", .tuple ds)]) []
  rw [List.map_append, List.map_singleton, moved_pair, Datum.moved_tuple, ← bound] at all
  exact all

/-- A function gives the same wherever the table of builtins stands. -/
theorem call_moved (f : CodeFunction) (args : List Value) {ev ev' : Evaluator}
    (related : m.Relates ev ev') : (f.call ev' args).1 = (f.call ev args).1 := by
  have accepted := acceptAll_moved args related
  have ran := (run_moved accepted.2 (bindings f.params (ev.acceptAll args).1) f.program).1
  rw [← bindings_moved, ← accepted.1] at ran
  have outcome := congrArg Prod.fst ran
  exact outcome

end SessionScript.CodeFunction
