import SessionScript.Evaluator.Shown

/-!
# Values for code and from code

Values of scenarios as values of running code, and back. Containers become cells of the store on
their way in.
-/

namespace SessionScript.Evaluator

mutual

/-- A value of a scenario as a value of running code. -/
def take : Value → Work Datum
  | .null => return .none
  | .bool b => return .bool b
  | .int i => return .int i
  | .float x => return .float x
  | .text s => return .text s
  | .bytes b => return .bytes b
  | .list xs => do Work.newList (← takeItems xs)
  | .tuple xs => do return .tuple (← takeItems xs)
  | .set xs => do Work.new (.set (← takeItems xs) false)
  | .dict es => do Work.new (.dict (← takeEntries es))
  | .date d => return .host (.date d)
  | .datetime t => return .host (.datetime t)
  | .object s => return .host (.object s)
  | .error kind message => return .error kind [.text message]
  | .other name shownAs => return .host (.other name shownAs)

/-- Items as values of running code. -/
def takeItems : List Value → Work (List Datum)
  | [] => return []
  | v :: vs => do
    let d ← take v
    return d :: (← takeItems vs)

/-- Entries as values of running code. -/
def takeEntries : List (Value × Value) → Work Pairs
  | [] => return []
  | (k, v) :: es => do
    let key ← take k
    let d ← take v
    return (key, d) :: (← takeEntries es)

end

/-- What a computation gives that changes nothing and does not fail. -/
def peek (s : Store) (w : Work String) : String :=
  match w.run s with
  | .ok text _ => text
  | .error _ _ => "..."

/-- A value that has no counterpart among the values of scenarios. -/
def known (s : Store) (d : Datum) : Value := .other (d.typeIn s) (peek s d.shown)

/-- A value of running code as a value of a scenario, up to some depth and below some cells. -/
def giveWithin (s : Store) : Nat → List Nat → Datum → Value
  | 0, _, d => known s d
  | n + 1, above, d =>
    match d with
    | .none => .null
    | .bool b => .bool b
    | .int i => .int i
    | .float x => .float x
    | .text t => .text t
    | .bytes b => .bytes b
    | .tuple xs => .tuple (xs.map (giveWithin s n above))
    | .error kind _ => .error kind (peek s d.plainText)
    | .host v => v
    | .cell a =>
      if above.contains a then known s d
      else
        match s.cells.getD a (.names []) with
        | .list xs => .list (xs.toList.map (giveWithin s n (a :: above)))
        | .dict es =>
          .dict (es.map fun (k, v) => (giveWithin s n above k, giveWithin s n (a :: above) v))
        | .set ms false => .set ((Members.inOrder ms).map (giveWithin s n (a :: above)))
        | _ => known s d
    | _ => known s d

/-- A value of running code as a value of a scenario. What has no counterpart there is known by its
    type. -/
def give (s : Store) (d : Datum) : Value := giveWithin s Work.deepest [] d

/-- An error of running code as an error of the host. -/
def giveError (s : Store) (e : Raised) : HostError := ⟨e.kind, e.args.map (give s)⟩

end SessionScript.Evaluator
