import SessionScript.Evaluator.Shown

/-!
# Arguments

The arguments of a call, and how the functions of the host take them.
-/

namespace SessionScript.Evaluator

/-- The arguments of a call: by position and by name. -/
structure Args where
  positional : List Datum
  named : List (String × Datum)
  deriving Inhabited

namespace Args

/-- Arguments by position alone. -/
def ofList (ds : List Datum) : Args := ⟨ds, []⟩

/-- A number of things. -/
def counted (n : Nat) (noun : String) : String :=
  Text.ofNat n ++ " " ++ noun ++ (if n == 1 then "" else "s")

/-- Takes no arguments. -/
def none (owner : String) (args : Args) : Work Unit := do
  if !args.named.isEmpty then Work.typeError (owner ++ "() takes no keyword arguments")
  if !args.positional.isEmpty then
    Work.typeError
      (owner ++ "() takes no arguments (" ++ Text.ofNat args.positional.length ++ " given)")

/-- Takes one argument by position. -/
def one (owner : String) (args : Args) : Work Datum := do
  if !args.named.isEmpty then Work.typeError (owner ++ "() takes no keyword arguments")
  match args.positional with
  | [d] => return d
  | ds =>
    Work.typeError
      (owner ++ "() takes exactly one argument (" ++ Text.ofNat ds.length ++ " given)")

/-- Takes arguments by position, as many as two bounds allow. -/
def between (name : String) (least most : Nat) (args : Args) : Work (List Datum) := do
  if !args.named.isEmpty then Work.typeError (name ++ "() takes no keyword arguments")
  let n := args.positional.length
  if n < least || most < n then
    let bound := if least == most then "" else if n < least then "at least " else "at most "
    let limit := if n < least then least else most
    Work.typeError
      (name ++ " expected " ++ bound ++ counted limit "argument" ++ ", got " ++ Text.ofNat n)
  return args.positional

/-- Takes arguments by position or by name. -/
def byName (name : String) (names : List String) (args : Args) : Work (List (Option Datum)) := do
  let n := args.positional.length
  if names.length < n then
    Work.typeError (name ++ "() takes at most " ++ counted names.length "argument" ++ " (" ++
      Text.ofNat n ++ " given)")
  match args.named.find? fun (k, _) => !names.contains k with
  | some (k, _) =>
    Work.typeError ("'" ++ k ++ "' is an invalid keyword argument for " ++ name ++ "()")
  | Option.none => pure ()
  match args.named.find? fun (k, _) => (names.take n).contains k with
  | some (k, _) =>
    Work.typeError ("argument for " ++ name ++ "() given by name ('" ++ k ++
      "') and position (" ++ Text.ofNat (names.idxOf k + 1) ++ ")")
  | Option.none => pure ()
  return (names.zipIdx.map fun (k, i) =>
    match args.positional[i]? with
    | some d => some d
    | Option.none => args.named.lookup k)

/-- Checks that an argument is an integer. -/
def integer (d : Datum) : Work Int := do
  match d.integer? with
  | some i => return i
  | Option.none =>
    Work.typeError ("'" ++ (← d.typeName) ++ "' object cannot be interpreted as an integer")

end Args

end SessionScript.Evaluator
