import SessionScript.Code.Tree

/-!
# Names in code

What a block of code says about names: which ones it uses, which ones it binds, which ones it
declares to belong to a block around it. Code inside a function or a class belongs to a block of
its own; the parts of a comprehension belong to the block around it, except for the names of its
loops.
-/

namespace SessionScript.Code

/-- Something that a block says. -/
inductive Mention where
  | uses (name : String)
  | binds (name : String)
  | declaresGlobal (name : String)
  | declaresOuter (name : String)
  | yields
  | notesType
  deriving DecidableEq, Repr

/-- The name of a parameter; the lone star has none. -/
def Param.names : Param → List String
  | .mk _ name _ _ => if name.isEmpty then [] else [name]

mutual

/-- What an expression says, in order. -/
def Expr.mentions : Expr → List Mention
  | .constant _ => []
  | .formatted parts => partsMentions parts
  | .name s => [.uses s]
  | .attribute e _ => e.mentions
  | .subscript e i => e.mentions ++ i.mentions
  | .slice low high step => optionMentions low ++ optionMentions high ++ optionMentions step
  | .call f args keywords => f.mentions ++ listMentions args ++ keywordMentions keywords
  | .unary _ e => e.mentions
  | .binary _ l r => l.mentions ++ r.mentions
  | .boolean _ es => listMentions es
  | .compare first rest => first.mentions ++ comparisonMentions rest
  | .conditional test body orElse => test.mentions ++ body.mentions ++ orElse.mentions
  | .lambda params _ => paramMentions params
  | .list es => listMentions es
  | .tuple es => listMentions es
  | .set es => listMentions es
  | .dict es => entryMentions es
  | .comprehension _ element clauses => clauseMentions clauses ++ element.mentions
  | .dictComprehension key value clauses =>
    clauseMentions clauses ++ key.mentions ++ value.mentions
  | .starred e => e.mentions
  | .assigned name e => e.mentions ++ [.binds name]
  | .await e => e.mentions
  | .yield e => .yields :: optionMentions e
  | .yieldFrom e => .yields :: e.mentions

/-- What an expression says, if there is one. -/
def optionMentions : Option Expr → List Mention
  | none => []
  | some e => e.mentions

/-- What expressions say. -/
def listMentions : List Expr → List Mention
  | [] => []
  | e :: es => e.mentions ++ listMentions es

/-- What keyword arguments say. -/
def keywordMentions : List (Option String × Expr) → List Mention
  | [] => []
  | (_, e) :: es => e.mentions ++ keywordMentions es

/-- What compared operands say. -/
def comparisonMentions : List (CompareOp × Expr) → List Mention
  | [] => []
  | (_, e) :: es => e.mentions ++ comparisonMentions es

/-- What entries of a mapping say. -/
def entryMentions : List (Option Expr × Expr) → List Mention
  | [] => []
  | (k, e) :: es => optionMentions k ++ e.mentions ++ entryMentions es

/-- What the parts of a formatted string say. -/
def partsMentions : List FormatPart → List Mention
  | [] => []
  | p :: ps => p.mentions ++ partsMentions ps

/-- What a part of a formatted string says. -/
def FormatPart.mentions : FormatPart → List Mention
  | .text _ => []
  | .field e _ none => e.mentions
  | .field e _ (some parts) => e.mentions ++ partsMentions parts

/-- What the defaults of parameters say. -/
def paramMentions : List Param → List Mention
  | [] => []
  | p :: ps => p.mentions ++ paramMentions ps

/-- What the default of a parameter says. -/
def Param.mentions : Param → List Mention
  | .mk _ _ typeNote default => optionMentions default ++ optionMentions typeNote

/-- What the sources and conditions of loops say. -/
def clauseMentions : List Clause → List Mention
  | [] => []
  | c :: cs => c.mentions ++ clauseMentions cs

/-- What the source and the conditions of a loop say. -/
def Clause.mentions : Clause → List Mention
  | .mk _ source conditions _ => source.mentions ++ listMentions conditions

end

mutual

/-- The names that are bound by giving a value to a target. -/
def Expr.targetNames : Expr → List String
  | .name s => [s]
  | .tuple es => targetsNames es
  | .list es => targetsNames es
  | .starred e => e.targetNames
  | _ => []

/-- The names that are bound by giving values to targets. -/
def targetsNames : List Expr → List String
  | [] => []
  | e :: es => e.targetNames ++ targetsNames es

end

mutual

/-- What a target says besides the names that it binds. -/
def Expr.targetMentions : Expr → List Mention
  | .name s => [.binds s]
  | .tuple es => targetsMentions es
  | .list es => targetsMentions es
  | .starred e => e.targetMentions
  | e => e.mentions

/-- What targets say. -/
def targetsMentions : List Expr → List Mention
  | [] => []
  | e :: es => e.targetMentions ++ targetsMentions es

end

/-- The name that an import binds: the first part of a dotted name, or the name it is given. -/
def Alias.bound (a : Alias) : String :=
  match a.boundAs with
  | some s => s
  | none => String.ofList (a.name.toList.takeWhile (· != '.'))

/-- What the items of a with statement say. -/
def contextMentions (items : List (Expr × Option Expr)) : List Mention :=
  items.flatMap fun (e, target) =>
    e.mentions ++ (match target with
      | some t => t.targetMentions
      | none => [])

mutual

/-- What a statement says, in order. -/
def Stmt.mentions : Stmt → List Mention
  | .expr e => e.mentions
  | .assign targets value => value.mentions ++ targetsMentions targets
  | .augmented target _ value => target.mentions ++ target.targetMentions ++ value.mentions
  | .annotated target typeNote value _ =>
    .notesType :: target.targetMentions ++ typeNote.mentions ++ optionMentions value
  | .delete targets => targetsMentions targets
  | .pass => []
  | .break => []
  | .continue => []
  | .return e => optionMentions e
  | .raise e cause => optionMentions e ++ optionMentions cause
  | .global names => names.map .declaresGlobal
  | .nonlocal names => names.map .declaresOuter
  | .importNames names => names.map fun a => .binds a.bound
  | .importFrom _ _ names => names.map fun a => .binds a.bound
  | .assert test message => test.mentions ++ optionMentions message
  | .ifThen test body orElse => test.mentions ++ blockMentions body ++ blockMentions orElse
  | .while test body orElse => test.mentions ++ blockMentions body ++ blockMentions orElse
  | .for target source body orElse _ =>
    target.targetMentions ++ source.mentions ++ blockMentions body ++ blockMentions orElse
  | .try body handlers orElse final =>
    blockMentions body ++ handlersMentions handlers ++ blockMentions orElse ++
      blockMentions final
  | .with items body _ => contextMentions items ++ blockMentions body
  | .function name params _ decorators _ =>
    listMentions decorators ++ paramMentions params ++ [.binds name]
  | .class name bases keywords _ decorators =>
    listMentions decorators ++ listMentions bases ++ keywordMentions keywords ++ [.binds name]

/-- What the statements of a block say. -/
def blockMentions : List Stmt → List Mention
  | [] => []
  | s :: ss => s.mentions ++ blockMentions ss

/-- What handlers say. -/
def handlersMentions : List Handler → List Mention
  | [] => []
  | h :: hs => h.mentions ++ handlersMentions hs

/-- What a handler says. -/
def Handler.mentions : Handler → List Mention
  | .mk kind name body =>
    optionMentions kind ++ (match name with
      | some s => [.binds s]
      | none => []) ++ blockMentions body

end

/-- The names of a block and where they belong. -/
structure BlockNames where
  locals : List String
  globals : List String
  outer : List String
  deriving Repr, Inhabited

/-- The names of the block of a function with some parameters: what it binds is local to it unless
    it says otherwise. -/
def BlockNames.of (params : List String) (mentions : List Mention) : BlockNames :=
  let globals := mentions.filterMap fun m => match m with
    | .declaresGlobal s => some s
    | _ => none
  let outer := mentions.filterMap fun m => match m with
    | .declaresOuter s => some s
    | _ => none
  let bound := mentions.filterMap fun m => match m with
    | .binds s => some s
    | _ => none
  ⟨(params ++ bound).filter (fun s => !globals.contains s && !outer.contains s), globals, outer⟩

/-- Whether a function whose body says this gives its results one by one. -/
def yieldsResults (mentions : List Mention) : Bool := mentions.contains .yields

end SessionScript.Code
