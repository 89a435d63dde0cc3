import SessionScript.Code.Rules
import SessionScript.Evaluator.Calling

/-!
# Evaluation of code

What expressions give and what statements do. Functions, iterators and the builtins that call code
depend on each other, so they are defined together; each is bounded by a number that a run chooses
larger than any run needs.
-/

namespace SessionScript.Evaluator

open Code (Expr Stmt BinaryOp)

/-- How a statement ends: the next one follows, a loop is left or goes on, or a function returns. -/
inductive Flow where
  | next
  | broke
  | continued
  | returned (d : Datum)
  deriving Inhabited

/-- The value of a constant. -/
def ofConstant : Code.Constant → Datum
  | .none => .none
  | .bool b => .bool b
  | .int n => .int n
  | .float x => .float x
  | .imaginary x => .complex (Binary64.zero false) x
  | .text s _ => .text s
  | .bytes b => .bytes b
  | .ellipsis => .ellipsis

/-- How many results a function gives at most. -/
def mostResults : Nat := 20000

/-- The parameters of a function without defaults. -/
def Parameter.ofParam (p : Code.Param) (default : Option Datum) : Parameter :=
  match p with
  | .mk kind name _ _ => ⟨kind, name, default⟩

/-- The default of a parameter. -/
def defaultOf : Code.Param → Option Expr
  | .mk _ _ _ default => default

/-- The names that parameters bind. -/
def namesOfParams (params : List Code.Param) : List String := params.flatMap Code.Param.names

/-- The error of a handler that names no kind of errors. -/
def refuseHandler : Work Bool :=
  Work.typeError "catching classes that do not inherit from BaseException is not allowed"

/-- Whether an error is one of the kinds that a handler names. -/
def isHandled (kinds : Datum) (e : Raised) : Work Bool := do
  let test := fun (d : Datum) => do
    match d with
    | .type name =>
      if ErrorKind.exists? name then return ErrorKind.includes name e.kind
      else refuseHandler
    | _ => refuseHandler
  match kinds with
  | .tuple ds => ds.anyM test
  | d => test d

/-- The error that a value stands for. -/
def toRaised (d : Datum) : Work Raised := do
  match d with
  | .error kind args => return ⟨kind, args⟩
  | .type name =>
    if ErrorKind.exists? name then return ⟨name, []⟩
    else Work.typeError "exceptions must derive from BaseException"
  | _ => Work.typeError "exceptions must derive from BaseException"

/-- The error of an attribute that can not be set. -/
def refuseMember (d : Datum) (name : String) : Work Unit := do
  let t ← d.typeName
  match d with
  | .type k =>
    Work.typeError ("cannot set '" ++ name ++ "' attribute of immutable type '" ++ k ++ "'")
  | _ =>
    if Method.exists? t name then
      Work.raise "AttributeError"
        ("'" ++ t ++ "' object attribute '" ++ name ++ "' is read-only")
    else Work.raise "AttributeError" ("'" ++ t ++ "' object has no attribute '" ++ name ++ "'")

/-- Checks the number of items that are unpacked, and splits them at the target that takes the
    rest. -/
def splitItems (before after : Nat) (starred : Bool) (ds : List Datum) :
    Work (List Datum × List Datum × List Datum) := do
  let wanted := before + after
  if ds.length < wanted then
    Work.valueError ("not enough values to unpack (expected " ++
      (if starred then "at least " else "") ++ Text.ofNat wanted ++ ", got " ++
      Text.ofNat ds.length ++ ")")
  if !starred && wanted < ds.length then
    Work.valueError ("too many values to unpack (expected " ++ Text.ofNat wanted ++ ")")
  let rest := ds.drop before
  return (ds.take before, rest.take (rest.length - after), rest.drop (rest.length - after))

/-- A target that takes the rest. -/
def starTarget? : Expr → Option Expr
  | .starred e => some e
  | _ => none

/-- The arguments of the host's `sorted` and `sort` that are given by name. -/
def sortOptions (name : String) (named : List (String × Datum)) : Work (Datum × Bool) := do
  match named.find? fun p => p.1 != "key" && p.1 != "reverse" with
  | some (k, _) =>
    Work.typeError ("'" ++ k ++ "' is an invalid keyword argument for " ++ name ++ "()")
  | none => pure ()
  let isReversed ← match named.lookup "reverse" with
    | some d => d.truth
    | none => pure false
  return ((named.lookup "key").getD .none, isReversed)

/-- Puts a result where the function of a scope puts its results. -/
def giveResult (sc : Scope) (d : Datum) : Work Unit := do
  match sc.results with
  | some a =>
    match ← Work.read a with
    | .list xs =>
      if mostResults ≤ xs.size then throw ⟨"", []⟩
      Work.write a (.list (xs.push d))
    | _ => return
  | none => return

/-- The error of an argument that is given by name twice. -/
def repeated (f : Datum) (name : String) : Work Unit := do
  Work.typeError
    ((← f.functionText) ++ " got multiple values for keyword argument '" ++ name ++ "'")

mutual

/-- The value of an expression. -/
def eval : Nat → Scope → Expr → Work Datum
  | 0, _, _ => Work.tooDeep ""
  | n + 1, sc, e => do
    match e with
    | .constant c => return ofConstant c
    | .formatted parts => return .text (← evalParts n sc parts)
    | .name s => sc.load s
    | .attribute e name => Method.memberOf (← eval n sc e) name
    | .subscript e i =>
      let d ← eval n sc e
      d.item (← eval n sc i)
    | .slice low high step =>
      let l ← evalOption n sc low
      let h ← evalOption n sc high
      return .slice l h (← evalOption n sc step)
    | .call f args named =>
      let fd ← eval n sc f
      let positional ← evalItems n sc (some fd) args
      let named ← evalNamed n sc fd [] named
      callDatum n fd ⟨positional, named⟩
    | .unary op e => (← eval n sc e).operateUnary op
    | .binary op l r =>
      let a ← eval n sc l
      a.binary op false (← eval n sc r)
    | .boolean op es => evalBoolean n sc op es
    | .compare first rest => evalCompare n sc (← eval n sc first) rest
    | .conditional test body orElse =>
      if ← (← eval n sc test).truth then eval n sc body else eval n sc orElse
    | .lambda params body =>
      let names := Code.BlockNames.of (namesOfParams params) body.mentions
      let params ← evalParams n sc params
      Work.new (.function ⟨"<lambda>", sc.path ++ "<lambda>", params, .value body, names,
        Code.yieldsResults body.mentions, false, sc⟩)
    | .list es => Work.newList (← evalItems n sc none es)
    | .tuple es => return .tuple (← evalItems n sc none es)
    | .set es =>
      let ds ← evalItems n sc none es
      ds.forM Datum.needKey
      Work.new (.set (Members.ofList ds) false)
    | .dict es => Work.new (.dict (← evalEntries n sc [] es))
    | .comprehension kind element clauses =>
      let (inner, loops) ← openLoops n sc clauses
      match kind with
      | .generator => Work.new (.iterator (.comprehension inner (.item element) loops))
      | .list => Work.new (.list (← collect n inner (.item element) loops #[]))
      | .set =>
        let ds ← collect n inner (.item element) loops #[]
        ds.toList.forM Datum.needKey
        Work.new (.set (Members.ofList ds.toList) false)
    | .dictComprehension key value clauses =>
      let (inner, loops) ← openLoops n sc clauses
      let ds ← collect n inner (.entry key value) loops #[]
      Work.new (.dict (Method.putAll [] (← Method.entriesOf (.tuple ds.toList))))
    | .starred _ => Work.typeError "can't use starred expression here"
    | .assigned name e =>
      let d ← eval n sc e
      sc.withoutComprehensions.assign name d
      return d
    | .await e =>
      let d ← eval n sc e
      Work.typeError ("object " ++ (← d.typeName) ++ " can't be used in 'await' expression")
    | .yield e =>
      let d ← evalOption n sc e
      giveResult sc d
      return .none
    | .yieldFrom e =>
      let ds ← drain n (← (← eval n sc e).iterator) #[]
      ds.toList.forM (giveResult sc)
      return .none

/-- The value of an expression that may be missing. -/
def evalOption : Nat → Scope → Option Expr → Work Datum
  | 0, _, _ => Work.tooDeep ""
  | n + 1, sc, e =>
    match e with
    | some e => eval n sc e
    | none => return .none

/-- The values of items, of which some are spread. The owner is the function whose arguments the
    items are, if they are arguments. -/
def evalItems : Nat → Scope → Option Datum → List Expr → Work (List Datum)
  | 0, _, _, _ => Work.tooDeep ""
  | n + 1, sc, owner, es => do
    match es with
    | [] => return []
    | .starred e :: es =>
      let d ← eval n sc e
      match ← d.iterator? with
      | some it =>
        let ds ← drain n it #[]
        return ds.toList ++ (← evalItems n sc owner es)
      | none =>
        let t ← d.typeName
        match owner with
        | some f =>
          Work.typeError ((← f.functionText) ++ " argument after * must be an iterable, not " ++ t)
        | none => Work.typeError ("Value after * must be an iterable, not " ++ t)
    | e :: es =>
      let d ← eval n sc e
      return d :: (← evalItems n sc owner es)

/-- The values of arguments by name, of which some are spread. -/
def evalNamed : Nat → Scope → Datum → List (String × Datum) → List (Option String × Expr) →
    Work (List (String × Datum))
  | 0, _, _, _, _ => Work.tooDeep ""
  | n + 1, sc, f, acc, es => do
    match es with
    | [] => return acc
    | (some name, e) :: es =>
      let d ← eval n sc e
      if (acc.lookup name).isSome then repeated f name
      evalNamed n sc f (acc ++ [(name, d)]) es
    | (none, e) :: es =>
      let d ← eval n sc e
      if !(← d.isMapping) then
        Work.typeError ((← f.functionText) ++ " argument after ** must be a mapping, not " ++
          (← d.typeName))
      let pairs ← Method.entriesOf d
      let acc ← pairs.foldlM (fun acc (p : Datum × Datum) => do
        match p.1 with
        | .text name =>
          if (List.lookup name acc).isSome then repeated f name
          return acc ++ [(name, p.2)]
        | _ => Work.typeError "keywords must be strings") acc
      evalNamed n sc f acc es

/-- The entries of a mapping. -/
def evalEntries : Nat → Scope → Pairs → List (Option Expr × Expr) → Work Pairs
  | 0, _, _, _ => Work.tooDeep ""
  | n + 1, sc, acc, es => do
    match es with
    | [] => return acc
    | (some k, e) :: es =>
      let key ← eval n sc k
      let d ← eval n sc e
      key.needKey
      evalEntries n sc (Pairs.put acc key d) es
    | (none, e) :: es =>
      let d ← eval n sc e
      if !(← d.isMapping) then
        Work.typeError ("'" ++ (← d.typeName) ++ "' object is not a mapping")
      evalEntries n sc (Method.putAll acc (← Method.entriesOf d)) es

/-- The text of the parts of a formatted string. -/
def evalParts : Nat → Scope → List Code.FormatPart → Work String
  | 0, _, _ => Work.tooDeep ""
  | n + 1, sc, parts => do
    match parts with
    | [] => return ""
    | .text s :: parts => return s ++ (← evalParts n sc parts)
    | .field e conversion format :: parts =>
      let d ← eval n sc e
      let d ← Field.convert conversion d
      let spec ← match format with
        | some ps => evalParts n sc ps
        | none => pure ""
      let here ← d.format spec
      return here ++ (← evalParts n sc parts)

/-- The value of operands of which later ones may be skipped. -/
def evalBoolean : Nat → Scope → Code.BoolOp → List Expr → Work Datum
  | 0, _, _, _ => Work.tooDeep ""
  | n + 1, sc, op, es => do
    match es with
    | [] => return .none
    | [e] => eval n sc e
    | e :: es =>
      let d ← eval n sc e
      let holds ← d.truth
      if holds == (op == .or) then return d else evalBoolean n sc op es

/-- The value of a chain of comparisons after its first operand. -/
def evalCompare : Nat → Scope → Datum → List (Code.CompareOp × Expr) → Work Datum
  | 0, _, _, _ => Work.tooDeep ""
  | n + 1, sc, left, rest => do
    match rest with
    | [] => return .bool true
    | (op, e) :: more =>
      let right ← eval n sc e
      let holds ← compare n op left right
      if more.isEmpty || !holds then return .bool holds
      else evalCompare n sc right more

/-- Whether a comparison holds. -/
def compare : Nat → Code.CompareOp → Datum → Datum → Work Bool
  | 0, _, _, _ => Work.tooDeep ""
  | n + 1, op, a, b => do
    match op with
    | .eq => a.equals b
    | .notEq => return !(← a.equals b)
    | .is => return a.isSame b
    | .isNot => return !a.isSame b
    | .isIn => contains n a b
    | .notIn => return !(← contains n a b)
    | op => a.order op b

/-- Whether a value is one of the items of another one. -/
def contains : Nat → Datum → Datum → Work Bool
  | 0, _, _ => Work.tooDeep ""
  | n + 1, d, container => do
    match ← container.has? d with
    | some b => return b
    | none =>
      match ← container.iterator? with
      | some it => seek n d it
      | none =>
        Work.typeError ("argument of type '" ++ (← container.typeName) ++ "' is not iterable")

/-- Whether a value comes from an iterator. -/
def seek : Nat → Datum → Datum → Work Bool
  | 0, _, _ => Work.tooDeep ""
  | n + 1, d, it => do
    match ← advance n it with
    | some x => if ← x.coincides d then return true else seek n d it
    | none => return false

/-- The parameters of a function with the values of their defaults. -/
def evalParams : Nat → Scope → List Code.Param → Work (List Parameter)
  | 0, _, _ => Work.tooDeep ""
  | n + 1, sc, params => do
    match params with
    | [] => return []
    | p :: ps =>
      let default ← match defaultOf p with
        | some e => some <$> eval n sc e
        | none => pure none
      return Parameter.ofParam p default :: (← evalParams n sc ps)

/-- The scope of a comprehension and its first loop. -/
def openLoops : Nat → Scope → List Code.Clause → Work (Scope × List Loop)
  | 0, _, _ => Work.tooDeep ""
  | n + 1, sc, clauses => do
    match clauses with
    | [] => return (sc, [])
    | .mk target source conditions _ :: rest =>
      let it ← (← eval n sc source).iterator
      let names : Code.BlockNames := ⟨Code.clauseNames clauses, [], []⟩
      let frame : Frame := ⟨← Work.newCell (.names []), names, true⟩
      return ({ sc with frames := frame :: sc.frames }, [⟨target, conditions, it, rest⟩])

/-- The next round of a comprehension: what it makes, if there is another round, and the loops
    after it. -/
def advanceLoops : Nat → Scope → Element → List Loop → Work (Option (Datum × List Loop))
  | 0, _, _, _ => Work.tooDeep ""
  | n + 1, sc, element, loops => do
    match loops with
    | [] => return none
    | loop :: outer =>
      match ← advance n loop.source with
      | none => advanceLoops n sc element outer
      | some d =>
        assignTarget n sc loop.target d
        if ← allTrue n sc loop.conditions then
          match loop.inner with
          | [] =>
            match element with
            | .item e => return some (← eval n sc e, loops)
            | .entry k v =>
              let key ← eval n sc k
              let value ← eval n sc v
              key.needKey
              return some (.tuple [key, value], loops)
          | .mk target source conditions _ :: rest =>
            let it ← (← eval n sc source).iterator
            advanceLoops n sc element (⟨target, conditions, it, rest⟩ :: loops)
        else advanceLoops n sc element loops

/-- Whether all conditions hold. -/
def allTrue : Nat → Scope → List Expr → Work Bool
  | 0, _, _ => Work.tooDeep ""
  | n + 1, sc, es => do
    match es with
    | [] => return true
    | e :: es => if ← (← eval n sc e).truth then allTrue n sc es else return false

/-- What all rounds of a comprehension make. -/
def collect : Nat → Scope → Element → List Loop → Array Datum → Work (Array Datum)
  | 0, _, _, _, _ => Work.tooDeep ""
  | n + 1, sc, element, loops, acc => do
    match ← advanceLoops n sc element loops with
    | some (d, loops) => collect n sc element loops (acc.push d)
    | none => return acc

/-- All items of an iterator. -/
def drain : Nat → Datum → Array Datum → Work (Array Datum)
  | 0, _, _ => Work.tooDeep ""
  | n + 1, it, acc => do
    match ← advance n it with
    | some d => drain n it (acc.push d)
    | none => return acc

/-- The items of a value. -/
def itemsOf : Nat → Datum → Work (List Datum)
  | 0, _ => Work.tooDeep ""
  | n + 1, d => do
    match ← d.sequence? with
    | some (_, xs) => return xs
    | none => return (← drain n (← d.iterator) #[]).toList

/-- The next item of an iterator. -/
def advance : Nat → Datum → Work (Option Datum)
  | 0, _ => Work.tooDeep ""
  | n + 1, d => do
    match d with
    | .cell a =>
      match ← Work.read a with
      | .iterator it =>
        let move := fun (next : Iterator) => Work.write a (.iterator next)
        let finish : Work (Option Datum) := do
          move .finished
          return none
        match it with
        | .finished => return none
        | .items kind (x :: xs) ending =>
          move (.items kind xs ending)
          return some x
        | .items _ [] ending =>
          move .finished
          match ending with
          | some e => throw e
          | none => return none
        | .range next left step =>
          match left with
          | 0 => finish
          | k + 1 =>
            move (.range (next + step) k step)
            return some (.int next)
        | .list source i =>
          match ← Work.read source with
          | .list xs =>
            match xs[i]? with
            | some x =>
              move (.list source (i + 1))
              return some x
            | none => finish
          | _ => finish
        | .listReversed source left =>
          match ← Work.read source, left with
          | .list xs, k + 1 =>
            match xs[k]? with
            | some x =>
              move (.listReversed source k)
              return some x
            | none => finish
          | _, _ => finish
        | .dict kind source i size =>
          let es ← Work.entriesOf source
          if es.length != size then
            Work.raise "RuntimeError" "dictionary changed size during iteration"
          match es[i]? with
          | some (k, v) =>
            move (.dict kind source (i + 1) size)
            match kind with
            | .keys => return some k
            | .values => return some v
            | .items => return some (.tuple [k, v])
          | none => finish
        | .set rest source size =>
          match ← Work.read source with
          | .set ms _ =>
            if ms.length != size then
              Work.raise "RuntimeError" "Set changed size during iteration"
            match rest with
            | x :: xs =>
              move (.set xs source size)
              return some x
            | [] => finish
          | _ => finish
        | .numbered source next =>
          match ← advance n source with
          | some x =>
            move (.numbered source (next + 1))
            return some (.tuple [.int next, x])
          | none => return none
        | .zipped sources strict =>
          if sources.isEmpty then return none
          match ← advanceAll n sources with
          | some ds => return some (.tuple ds)
          | none =>
            if strict then checkLengths n sources 0
            return none
        | .mapped f sources =>
          match ← advanceAll n sources with
          | some ds => return some (← callDatum n f (.ofList ds))
          | none => return none
        | .filtered f source => sift n f source
        | .comprehension sc element loops =>
          move .finished
          match ← advanceLoops n sc element loops with
          | some (x, loops) =>
            move (.comprehension sc element loops)
            return some x
          | none => return none
        | .suspended f frame =>
          move .finished
          let results ← Work.newCell (.list #[])
          let inner : Scope := { f.scope with
            frames := ⟨frame, f.names, false⟩ :: f.scope.frames
            path := f.fullName ++ ".<locals>."
            results := some results }
          let outcome ← Work.attempt (Work.nested (runBody n f inner))
          let ending := match outcome with
            | .ok _ => none
            | .error e =>
              if e.kind.isEmpty then none
              else if e.kind == "StopIteration" then
                some ⟨"RuntimeError", [.text "generator raised StopIteration"]⟩
              else some e
          match ← Work.read results with
          | .list xs => move (.items "generator" xs.toList ending)
          | _ => pure ()
          advance n d
      | _ => return none
    | _ => return none

/-- The next items of all iterators, if each has one. -/
def advanceAll : Nat → List Datum → Work (Option (List Datum))
  | 0, _ => Work.tooDeep ""
  | n + 1, sources => do
    match sources with
    | [] => return some []
    | source :: more =>
      match ← advance n source with
      | none => return none
      | some d =>
        match ← advanceAll n more with
        | some ds => return some (d :: ds)
        | none => return none

/-- Checks that iterators that were walked through together end together. The number is that of
    the iterators before. -/
def checkLengths : Nat → List Datum → Nat → Work Unit
  | 0, _, _ => Work.tooDeep ""
  | n + 1, sources, i => do
    match sources with
    | [] => return
    | source :: more =>
      match ← advance n source with
      | some _ =>
        if 0 < i then
          let others := if i == 1 then "argument 1" else "arguments 1-" ++ Text.ofNat i
          Work.valueError
            ("zip() argument " ++ Text.ofNat (i + 1) ++ " is longer than " ++ others)
        else checkLengths n more (i + 1)
      | none => checkLengths n more (i + 1)

/-- The next item that passes a test. -/
def sift : Nat → Datum → Datum → Work (Option Datum)
  | 0, _, _ => Work.tooDeep ""
  | n + 1, f, source => do
    match ← advance n source with
    | none => return none
    | some d =>
      let passes ← match f with
        | .none => d.truth
        | .type "bool" => d.truth
        | f => do (← callDatum n f (.ofList [d])).truth
      if passes then return some d else sift n f source

/-- Calls a value. -/
def callDatum : Nat → Datum → Args → Work Datum
  | 0, _, _ => Work.tooDeep ""
  | n + 1, f, args => do
    match f with
    | .type name => callType n name args
    | .builtin name => callBuiltin n name args
    | .method owner name => callMethod n owner name args
    | .unbound t name =>
      match args.positional with
      | [] =>
        Work.typeError ("unbound method " ++ t ++ "." ++ name ++ "() needs an argument")
      | owner :: rest =>
        if Builtin.isBelow (← get) owner t then callMethod n owner name ⟨rest, args.named⟩
        else
          Work.typeError ("descriptor '" ++ name ++ "' for '" ++ t ++
            "' objects doesn't apply to a '" ++ (← owner.typeName) ++ "' object")
    | .cell a =>
      match ← Work.read a with
      | .function f => callClosure n f args
      | _ => Work.typeError ("'" ++ (← f.typeName) ++ "' object is not callable")
    | f => Work.typeError ("'" ++ (← f.typeName) ++ "' object is not callable")

/-- Calls a function that code defines. -/
def callClosure : Nat → Closure → Args → Work Datum
  | 0, _, _ => Work.tooDeep ""
  | n + 1, f, args => do
    let bound ← f.bindArguments args
    let frame ← Work.newCell (.names bound)
    if f.isAsync then Work.new .coroutine
    else if f.givesResultsOneByOne then Work.new (.iterator (.suspended f frame))
    else
      let inner : Scope := { f.scope with
        frames := ⟨frame, f.names, false⟩ :: f.scope.frames
        path := f.fullName ++ ".<locals>."
        results := none }
      Work.nested (runBody n f inner)

/-- Runs the body of a function. -/
def runBody : Nat → Closure → Scope → Work Datum
  | 0, _, _ => Work.tooDeep ""
  | n + 1, f, sc => do
    match f.body with
    | .value e => eval n sc e
    | .block body =>
      match ← execBlock n sc body with
      | .returned d => return d
      | _ => return .none

/-- Makes a value of a type. -/
def callType : Nat → String → Args → Work Datum
  | 0, _, _ => Work.tooDeep ""
  | n + 1, name, args => do
    if ErrorKind.exists? name then
      if !args.named.isEmpty then Work.typeError (name ++ "() takes no keyword arguments")
      return (ErrorKind.make name args.positional).datum
    match name with
    | "enumerate" =>
      let ds ← args.byName name ["iterable", "start"]
      match ds.getD 0 none with
      | none => Work.typeError "enumerate() missing required argument 'iterable' (pos 1)"
      | some d =>
        let start ← match ds.getD 1 none with
          | some s => Args.integer s
          | none => pure 0
        Work.new (.iterator (.numbered (← d.iterator) start))
    | "zip" =>
      let strict ← match args.named.lookup "strict" with
        | some d => d.truth
        | none => pure false
      let sources ← zipSources n args.positional 1
      Work.new (.iterator (.zipped sources strict))
    | "map" =>
      match args.positional with
      | f :: d :: more =>
        let sources ← (d :: more).mapM Datum.iterator
        Work.new (.iterator (.mapped f sources))
      | _ => Work.typeError "map() must have at least two arguments."
    | "filter" =>
      let ds ← args.between name 2 2
      Work.new (.iterator (.filtered (ds.headD .none) (← (ds.getD 1 .none).iterator)))
    | "reversed" =>
      let ds ← args.between name 1 1
      (ds.headD .none).reversedIterator
    | "list" | "tuple" | "set" | "frozenset" =>
      Builtin.call name (← walkFirst n args)
    | "dict" => Builtin.call name (← walkPairs n args)
    | "bytes" =>
      match args.positional with
      | [d] =>
        match d with
        | .text _ | .bytes _ => Builtin.call name args
        | d =>
          if d.integer?.isSome then Builtin.call name args
          else Builtin.call name (← walkFirst n args)
      | _ => Builtin.call name args
    | _ => Builtin.call name args

/-- The iterators over what is walked through together. -/
def zipSources : Nat → List Datum → Nat → Work (List Datum)
  | 0, _, _ => Work.tooDeep ""
  | n + 1, ds, i => do
    match ds with
    | [] => return []
    | d :: ds =>
      match ← d.iterator? with
      | some it => return it :: (← zipSources n ds (i + 1))
      | none => Work.typeError ("'" ++ (← d.typeName) ++ "' object is not iterable")

/-- Arguments of which the first one is walked through. -/
def walkFirst : Nat → Args → Work Args
  | 0, _ => Work.tooDeep ""
  | n + 1, args => do
    match args.positional with
    | d :: ds => return { args with positional := .tuple (← itemsOf n d) :: ds }
    | [] => return args

/-- Arguments of which each one is walked through. -/
def walkAll : Nat → List Datum → Work (List Datum)
  | 0, _ => Work.tooDeep ""
  | n + 1, ds => do
    match ds with
    | [] => return []
    | d :: ds =>
      let xs ← itemsOf n d
      return .tuple xs :: (← walkAll n ds)

/-- Arguments of which the first one is a mapping or is walked through as pairs. -/
def walkPairs : Nat → Args → Work Args
  | 0, _ => Work.tooDeep ""
  | n + 1, args => do
    match args.positional with
    | [d] =>
      if ← d.isMapping then return args
      return { args with positional := [.tuple (← pairsOf n (← itemsOf n d) 0)] }
    | _ => return args

/-- Items as pairs. -/
def pairsOf : Nat → List Datum → Nat → Work (List Datum)
  | 0, _, _ => Work.tooDeep ""
  | n + 1, ds, i => do
    match ds with
    | [] => return []
    | d :: ds =>
      if (← d.iterator?).isNone then
        Work.typeError ("cannot convert dictionary update sequence element #" ++ Text.ofNat i ++
          " to a sequence")
      match ← itemsOf n d with
      | [k, v] =>
        k.needKey
        return .tuple [k, v] :: (← pairsOf n ds (i + 1))
      | xs =>
        Work.valueError ("dictionary update sequence element #" ++ Text.ofNat i ++
          " has length " ++ Text.ofNat xs.length ++ "; 2 is required")

/-- Calls a builtin function. -/
def callBuiltin : Nat → String → Args → Work Datum
  | 0, _, _ => Work.tooDeep ""
  | n + 1, name, args => do
    match name with
    | "all" => return .bool (!(← search n (← (← args.one name).iterator) false))
    | "any" => return .bool (← search n (← (← args.one name).iterator) true)
    | "sum" =>
      if args.positional.isEmpty then
        Work.typeError "sum() takes at least 1 positional argument (0 given)"
      Builtin.call name (← walkFirst n args)
    | "sorted" =>
      let (key, isReversed) ← sortOptions "sort" args.named
      let ds ← ({ args with named := [] } : Args).between name 1 1
      let items ← itemsOf n (ds.headD .none)
      Work.newList (← Sorting.sort isReversed (← keyed n key items))
    | "min" => choose n name .lt args
    | "max" => choose n name .gt args
    | "iter" => (← args.one name).iterator
    | "next" =>
      let ds ← args.between name 1 2
      let d := ds.headD .none
      match d with
      | .cell a =>
        match ← Work.read a with
        | .iterator _ => pure ()
        | _ => Work.typeError ("'" ++ (← d.typeName) ++ "' object is not an iterator")
      | _ => Work.typeError ("'" ++ (← d.typeName) ++ "' object is not an iterator")
      match ← advance n d, (ds[1]? : Option Datum) with
      | some x, _ => return x
      | none, some d => return d
      | none, none => throw ⟨"StopIteration", []⟩
    | _ => Builtin.call name args

/-- Whether an iterator gives an item whose truth is the one that is looked for. -/
def search : Nat → Datum → Bool → Work Bool
  | 0, _, _ => Work.tooDeep ""
  | n + 1, it, wanted => do
    match ← advance n it with
    | some d => if (← d.truth) == wanted then return true else search n it wanted
    | none => return false

/-- Items with the keys that they are sorted by. -/
def keyed : Nat → Datum → List Datum → Work (List (Datum × Datum))
  | 0, _, _ => Work.tooDeep ""
  | n + 1, key, ds => do
    match ds with
    | [] => return []
    | d :: ds =>
      let k ← match key with
        | .none => pure d
        | f => callDatum n f (.ofList [d])
      return (k, d) :: (← keyed n key ds)

/-- The least or the greatest of some values. -/
def choose : Nat → String → Code.CompareOp → Args → Work Datum
  | 0, _, _, _ => Work.tooDeep ""
  | n + 1, name, op, args => do
    match args.named.find? fun p => p.1 != "key" && p.1 != "default" with
    | some (k, _) =>
      Work.typeError ("'" ++ k ++ "' is an invalid keyword argument for " ++ name ++ "()")
    | none => pure ()
    let default := args.named.lookup "default"
    let key := (args.named.lookup "key").getD .none
    let items ← match args.positional with
      | [] => Work.typeError (name ++ " expected at least 1 argument, got 0")
      | [d] => itemsOf n d
      | ds =>
        if default.isSome then
          Work.typeError ("Cannot specify a default for " ++ name ++
            "() with multiple positional arguments")
        pure ds
    match ← keyed n key items, default with
    | [], some d => return d
    | [], none => Work.valueError (name ++ "() arg is an empty sequence")
    | first :: rest, _ =>
      let best ← rest.foldlM (fun (best : Datum × Datum) (p : Datum × Datum) => do
        if ← p.1.order op best.1 then return p else return best) first
      return best.2

/-- Calls a method. -/
def callMethod : Nat → Datum → String → Args → Work Datum
  | 0, _, _, _ => Work.tooDeep ""
  | n + 1, owner, name, args => do
    match owner, name with
    | .text s, "format" => Field.format s args none
    | .text s, "format_map" => Field.format s args (some (← args.one "str.format_map"))
    | .text _, "join" | .bytes _, "join" =>
      match args.positional with
      | [d] =>
        match ← d.iterator? with
        | some _ => Method.call owner name (.ofList [.tuple (← itemsOf n d)])
        | none => Work.typeError "can only join an iterable"
      | _ => Method.call owner name args
    | .type "dict", "fromkeys" =>
      let ds ← args.between name 1 2
      let keys ← itemsOf n (ds.headD .none)
      keys.forM Datum.needKey
      let v := ds.getD 1 .none
      Work.new (.dict (Method.putAll [] (keys.map fun k => (k, v))))
    | .type "str", "maketrans" => charTable n args
    | .cell a, name =>
      match ← Work.read a, name with
      | .list xs, "sort" =>
        if !args.positional.isEmpty then
          Work.typeError "sort() takes no positional arguments"
        let (key, isReversed) ← sortOptions "sort" args.named
        let sorted ← Sorting.sort isReversed (← keyed n key xs.toList)
        Work.write a (.list sorted.toArray)
        return .none
      | .dict _, "update" => Method.call owner name (← walkPairs n args)
      | .dict _, "fromkeys" => callMethod n (.type "dict") name args
      | .set _ _, "update" => Method.call owner name ⟨← walkAll n args.positional, args.named⟩
      | _, name =>
        if Method.walkingNames.contains name then
          Method.call owner name ⟨← walkAll n args.positional, args.named⟩
        else Method.call owner name args
    | _, _ => Method.call owner name args

/-- A table that replaces characters. -/
def charTable : Nat → Args → Work Datum
  | 0, _ => Work.tooDeep ""
  | n + 1, args => do
    match args.positional with
    | [d] =>
      let source ← if ← d.isMapping then pure d else Datum.tuple <$> itemsOf n d
      let pairs ← Method.entriesOf source
      let keyOf := fun (k : Datum) => match k with
        | .text s => match s.toList with
          | [c] => Datum.int c.val.toNat
          | _ => k
        | k => k
      Work.new (.dict (Method.putAll [] (pairs.map fun (k, v) => (keyOf k, v))))
    | .text a :: .text b :: more =>
      if a.length != b.length then
        Work.valueError "the first two maketrans arguments must have equal length"
      let changed := (a.toList.zip b.toList).map fun (c, d) =>
        (Datum.int c.val.toNat, Datum.int d.val.toNat)
      let gone := match more with
        | .text g :: _ => g.toList.map fun c => (Datum.int c.val.toNat, Datum.none)
        | _ => []
      Work.new (.dict (Method.putAll [] (changed ++ gone)))
    | _ => Work.typeError "maketrans() argument 2 must be str, not int"

/-- Gives a value to a target. -/
def assignTarget : Nat → Scope → Expr → Datum → Work Unit
  | 0, _, _, _ => Work.tooDeep ""
  | n + 1, sc, target, d => do
    match target with
    | .name s => sc.assign s d
    | .attribute e name => refuseMember (← eval n sc e) name
    | .subscript e i =>
      let container ← eval n sc e
      let key ← eval n sc i
      setItem n container key d
    | .tuple es => unpack n sc es d
    | .list es => unpack n sc es d
    | _ => return

/-- Replaces an item of a container. -/
def setItem : Nat → Datum → Datum → Datum → Work Unit
  | 0, _, _, _ => Work.tooDeep ""
  | n + 1, container, key, d => do
    match key with
    | .slice _ _ _ =>
      match ← container.sequence?, ← d.iterator? with
      | some (true, _), some _ => container.setItem key (.tuple (← itemsOf n d))
      | some (true, _), none => Work.typeError "can only assign an iterable"
      | _, _ => container.setItem key d
    | key => container.setItem key d

/-- Gives the items of a value to targets. -/
def unpack : Nat → Scope → List Expr → Datum → Work Unit
  | 0, _, _, _ => Work.tooDeep ""
  | n + 1, sc, es, d => do
    if (← d.iterator?).isNone then
      Work.typeError ("cannot unpack non-iterable " ++ (← d.typeName) ++ " object")
    let ds ← itemsOf n d
    let before := es.takeWhile fun e => (starTarget? e).isNone
    match es.drop before.length with
    | [] =>
      let (first, _, _) ← splitItems before.length 0 false ds
      assignAll n sc (before.zip first)
    | star :: after =>
      let (first, middle, last) ← splitItems before.length after.length true ds
      assignAll n sc (before.zip first)
      assignTarget n sc ((starTarget? star).getD star) (← Work.newList middle)
      assignAll n sc (after.zip last)

/-- Gives values to targets one by one. -/
def assignAll : Nat → Scope → List (Expr × Datum) → Work Unit
  | 0, _, _ => Work.tooDeep ""
  | n + 1, sc, pairs => do
    match pairs with
    | [] => return
    | (e, d) :: more =>
      assignTarget n sc e d
      assignAll n sc more

/-- Gives a value to targets from left to right. -/
def assignEach : Nat → Scope → List Expr → Datum → Work Unit
  | 0, _, _, _ => Work.tooDeep ""
  | n + 1, sc, es, d => do
    match es with
    | [] => return
    | e :: es =>
      assignTarget n sc e d
      assignEach n sc es d

/-- What an augmented assignment makes of a value. Lists, sets and mappings are changed in
    place. -/
def augment : Nat → BinaryOp → Datum → Datum → Work Datum
  | 0, _, _, _ => Work.tooDeep ""
  | n + 1, op, a, b => do
    match a with
    | .cell address =>
      match op, ← Work.read address with
      | .add, .list xs =>
        let news ← itemsOf n b
        Work.write address (.list (xs ++ news.toArray))
        return a
      | .mul, .list xs =>
        match b.integer? with
        | some i =>
          Work.write address (.list (Datum.repeated i xs.toList).toArray)
          return a
        | none => a.binary op true b
      | .bitOr, .dict es =>
        let more ← walkPairs n (.ofList [b])
        let pairs ← Method.entriesOf (more.positional.headD .none)
        Work.write address (.dict (Method.putAll es pairs))
        return a
      | op, .set ms false =>
        match ← b.members? with
        | some ns =>
          match Datum.combineMembers op ms ns with
          | some news =>
            Work.write address (.set news false)
            return a
          | none => a.binary op true b
        | none => a.binary op true b
      | _, _ => a.binary op true b
    | a => a.binary op true b

/-- Removes targets. -/
def deleteAll : Nat → Scope → List Expr → Work Unit
  | 0, _, _ => Work.tooDeep ""
  | n + 1, sc, es => do
    match es with
    | [] => return
    | e :: es =>
      match e with
      | .name s => sc.delete s
      | .attribute e name => refuseMember (← eval n sc e) name
      | .subscript e i =>
        let container ← eval n sc e
        container.deleteItem (← eval n sc i)
      | .tuple inner => deleteAll n sc inner
      | .list inner => deleteAll n sc inner
      | _ => pure ()
      deleteAll n sc es

/-- Runs a statement. -/
def exec : Nat → Scope → Stmt → Work Flow
  | 0, _, _ => Work.tooDeep ""
  | n + 1, sc, s => do
    match s with
    | .expr e =>
      let _ ← eval n sc e
      return .next
    | .assign targets value =>
      let d ← eval n sc value
      assignEach n sc targets d
      return .next
    | .augmented target op value =>
      execAugmented n sc target op value
      return .next
    | .annotated target typeNote value simple =>
      execAnnotated n sc target typeNote value simple
      return .next
    | .delete targets =>
      deleteAll n sc targets
      return .next
    | .pass => return .next
    | .break => return .broke
    | .continue => return .continued
    | .return e => return .returned (← evalOption n sc e)
    | .raise e cause =>
      match e with
      | none =>
        match (← get).handling with
        | e :: _ => throw e
        | [] => Work.raise "RuntimeError" "No active exception to reraise"
      | some e =>
        let raised ← toRaised (← eval n sc e)
        let _ ← evalOption n sc cause
        throw raised
    | .global _ => return .next
    | .nonlocal _ => return .next
    | .importNames _ => Work.raise "ImportError" "__import__ not found"
    | .importFrom _ _ _ => Work.raise "ImportError" "__import__ not found"
    | .assert test message =>
      if ← (← eval n sc test).truth then return .next
      match message with
      | some e => throw ⟨"AssertionError", [← eval n sc e]⟩
      | none => throw ⟨"AssertionError", []⟩
    | .ifThen test body orElse =>
      if ← (← eval n sc test).truth then execBlock n sc body else execBlock n sc orElse
    | .while test body orElse => execWhile n sc test body orElse
    | .for target source body orElse _ =>
      let it ← (← eval n sc source).iterator
      execFor n sc target it body orElse
    | .try body handlers orElse final => execTry n sc body handlers orElse final
    | .with items _ isAsync =>
      match items with
      | (e, _) :: _ =>
        let d ← eval n sc e
        Work.typeError ("'" ++ (← d.typeName) ++ "' object does not support the " ++
          (if isAsync then "asynchronous " else "") ++ "context manager protocol")
      | [] => return .next
    | .function name params body decorators isAsync =>
      let ds ← evalItems n sc none decorators
      let said := Code.blockMentions body
      let names := Code.BlockNames.of (namesOfParams params) said
      let params ← evalParams n sc params
      let f ← Work.new (.function ⟨name, sc.path ++ name, params, .block body, names,
        Code.yieldsResults said, isAsync, sc⟩)
      sc.assign name (← decorate n ds.reverse f)
      return .next
    | .class _ _ _ _ decorators =>
      let _ ← evalItems n sc none decorators
      Work.raise "NameError" "__build_class__ not found"

/-- What decorators make of a function, the last one first. -/
def decorate : Nat → List Datum → Datum → Work Datum
  | 0, _, _ => Work.tooDeep ""
  | n + 1, ds, f => do
    match ds with
    | [] => return f
    | d :: ds => decorate n ds (← callDatum n d (.ofList [f]))

/-- Runs an augmented assignment. The parts of the target are evaluated once. -/
def execAugmented : Nat → Scope → Expr → BinaryOp → Expr → Work Unit
  | 0, _, _, _, _ => Work.tooDeep ""
  | n + 1, sc, target, op, value => do
    match target with
    | .name s =>
      let a ← sc.load s
      let b ← eval n sc value
      sc.assign s (← augment n op a b)
    | .subscript e i =>
      let container ← eval n sc e
      let key ← eval n sc i
      let a ← container.item key
      let b ← eval n sc value
      setItem n container key (← augment n op a b)
    | .attribute e name =>
      let d ← eval n sc e
      let a ← Method.memberOf d name
      let b ← eval n sc value
      let _ ← augment n op a b
      refuseMember d name
    | _ => return

/-- Runs an assignment with a type note. The note is kept for names of the whole code only. -/
def execAnnotated : Nat → Scope → Expr → Expr → Option Expr → Bool → Work Unit
  | 0, _, _, _, _, _ => Work.tooDeep ""
  | n + 1, sc, target, typeNote, value, simple => do
    match value with
    | some e =>
      let d ← eval n sc e
      assignTarget n sc target d
    | none => pure ()
    if sc.frames.isEmpty then
      let d ← eval n sc typeNote
      match simple, target with
      | true, .name s => (← sc.load "__annotations__").setItem (.text s) d
      | _, _ => pure ()

/-- Runs statements in order until one does not go on to the next. -/
def execBlock : Nat → Scope → List Stmt → Work Flow
  | 0, _, _ => Work.tooDeep ""
  | n + 1, sc, ss => do
    match ss with
    | [] => return .next
    | s :: ss =>
      match ← exec n sc s with
      | .next => execBlock n sc ss
      | flow => return flow

/-- Runs a loop with a condition. -/
def execWhile : Nat → Scope → Expr → List Stmt → List Stmt → Work Flow
  | 0, _, _, _, _ => Work.tooDeep ""
  | n + 1, sc, test, body, orElse => do
    if ← (← eval n sc test).truth then
      match ← execBlock n sc body with
      | .broke => return .next
      | .returned d => return .returned d
      | _ => execWhile n sc test body orElse
    else execBlock n sc orElse

/-- Runs a loop over the items of an iterator. -/
def execFor : Nat → Scope → Expr → Datum → List Stmt → List Stmt → Work Flow
  | 0, _, _, _, _, _ => Work.tooDeep ""
  | n + 1, sc, target, it, body, orElse => do
    match ← advance n it with
    | none => execBlock n sc orElse
    | some d =>
      assignTarget n sc target d
      match ← execBlock n sc body with
      | .broke => return .next
      | .returned d => return .returned d
      | _ => execFor n sc target it body orElse

/-- Runs a block whose errors are handled, and what is to be done however it ends. -/
def execTry : Nat → Scope → List Stmt → List Code.Handler → List Stmt → List Stmt → Work Flow
  | 0, _, _, _, _, _ => Work.tooDeep ""
  | n + 1, sc, body, handlers, orElse, final => do
    let guarded : Work Flow := do
      match ← Work.attempt (execBlock n sc body) with
      | .ok .next => execBlock n sc orElse
      | .ok flow => return flow
      | .error e => execHandlers n sc e handlers
    if final.isEmpty then guarded
    else
      match ← Work.attempt guarded with
      | .ok flow =>
        match ← execBlock n sc final with
        | .next => return flow
        | other => return other
      | .error e =>
        match ← Work.whileHandling e (execBlock n sc final) with
        | .next => throw e
        | other => return other

/-- Runs the handler that takes an error. -/
def execHandlers : Nat → Scope → Raised → List Code.Handler → Work Flow
  | 0, _, _, _ => Work.tooDeep ""
  | n + 1, sc, e, handlers => do
    match handlers with
    | [] => throw e
    | .mk kind name body :: more =>
      let takes ← match kind with
        | none => pure (!e.kind.isEmpty)
        | some k => Work.whileHandling e (do isHandled (← eval n sc k) e)
      if takes then
        Work.whileHandling e (runHandler n sc e name body)
      else execHandlers n sc e more

/-- Runs the body of a handler. The name of the error is removed at the end. -/
def runHandler : Nat → Scope → Raised → Option String → List Stmt → Work Flow
  | 0, _, _, _, _ => Work.tooDeep ""
  | n + 1, sc, e, name, body => do
    match name with
    | none => execBlock n sc body
    | some s =>
      sc.assign s e.datum
      let outcome ← Work.attempt (execBlock n sc body)
      let _ ← Work.attempt (sc.delete s)
      match outcome with
      | .ok flow => return flow
      | .error e => throw e

end

end SessionScript.Evaluator
