import SessionScript.Code.Names

/-!
# Rules of code beyond its grammar

Code that fits the grammar is still rejected if a statement or an expression stands where it has
no meaning: a return outside a function, a break outside a loop, a name declared to belong to two
blocks. Main definition: `Stmt.areAllowed`.
-/

namespace SessionScript.Code

/-- What is around a piece of code. -/
structure Surroundings where
  inFunction : Bool := false
  isAsync : Bool := false
  inLoop : Bool := false
  inClass : Bool := false
  inComprehension : Bool := false
  /-- Inside the source of a loop of a comprehension. -/
  inSource : Bool := false
  /-- The names of the loops of the comprehensions around. -/
  loopNames : List String := []
  /-- The names of the functions around, innermost first. -/
  functions : List (List String) := []
  deriving Inhabited

/-- The surroundings of the body of a function. -/
def Surroundings.enter (c : Surroundings) (isAsync : Bool) (own : List String) : Surroundings :=
  { inFunction := true, isAsync := isAsync, functions := own :: c.functions }

/-- Whether no name stands twice in a list. -/
def areDistinct : List String → Bool
  | [] => true
  | s :: ss => !ss.contains s && areDistinct ss

/-- The name that nothing may be bound to. -/
def reservedName : String := "__debug__"

/-- Whether the declarations of a block agree with what it said before them. -/
def declarationsAgree (functions : List (List String)) : List String → List Mention → Bool
  | _, [] => true
  | seen, .uses s :: ms => declarationsAgree functions (s :: seen) ms
  | seen, .binds s :: ms => s != reservedName && declarationsAgree functions (s :: seen) ms
  | seen, .yields :: ms => declarationsAgree functions seen ms
  | seen, .notesType :: ms => declarationsAgree functions seen ms
  | seen, .declaresGlobal s :: ms => !seen.contains s && declarationsAgree functions seen ms
  | seen, .declaresOuter s :: ms =>
    !seen.contains s && functions.any (·.contains s) && declarationsAgree functions seen ms

/-- Whether no name is declared to belong both to the whole code and to a function around. -/
def declarationsDiffer (mentions : List Mention) : Bool :=
  mentions.all fun m => match m with
    | .declaresOuter s => !mentions.contains (.declaresGlobal s)
    | _ => true

/-- Whether what a block says about names is consistent. -/
def namesAgree (functions : List (List String)) (params : List String)
    (mentions : List Mention) : Bool :=
  declarationsAgree functions params mentions && declarationsDiffer mentions

mutual

/-- Whether an expression may stand where a value is wanted. -/
def Expr.isAllowed (c : Surroundings) : Expr → Bool
  | .constant _ => true
  | .formatted parts => partsAllowed c parts
  | .name _ => true
  | .attribute e _ => e.isAllowed c
  | .subscript e i => e.isAllowed c && i.isAllowed c
  | .slice low high step => optionAllowed c low && optionAllowed c high && optionAllowed c step
  | .call f args keywords =>
    f.isAllowed c && itemsAllowed c args && keywordsAllowed c keywords &&
      areDistinct (keywords.filterMap (·.1))
  | .unary _ e => e.isAllowed c
  | .binary _ l r => l.isAllowed c && r.isAllowed c
  | .boolean _ es => listAllowed c es
  | .compare first rest => first.isAllowed c && comparisonsAllowed c rest
  | .conditional test body orElse => test.isAllowed c && body.isAllowed c && orElse.isAllowed c
  | .lambda params body =>
    let names := params.flatMap Param.names
    paramsAllowed c params && areDistinct names && !names.contains reservedName &&
      body.isAllowed (c.enter false (names ++ (BlockNames.of names body.mentions).locals))
  | .list es => itemsAllowed c es
  | .tuple es => itemsAllowed c es
  | .set es => itemsAllowed c es
  | .dict es => entriesAllowed c es
  | .comprehension kind element clauses =>
    let inner := { c with inComprehension := true, loopNames := clauseNames clauses ++ c.loopNames }
    clausesAllowed c inner (kind == .generator) true clauses && element.isAllowed inner
  | .dictComprehension key value clauses =>
    let inner := { c with inComprehension := true, loopNames := clauseNames clauses ++ c.loopNames }
    clausesAllowed c inner false true clauses && key.isAllowed inner && value.isAllowed inner
  | .starred _ => false
  | .assigned name e =>
    !c.inSource && !(c.inComprehension && (c.inClass || c.loopNames.contains name)) &&
      name != reservedName && e.isAllowed c
  | .await e => c.inFunction && c.isAsync && e.isAllowed c
  | .yield e => c.inFunction && !c.inComprehension && optionAllowed c e
  | .yieldFrom e => c.inFunction && !c.isAsync && !c.inComprehension && e.isAllowed c

/-- Whether an expression is allowed, if there is one. -/
def optionAllowed (c : Surroundings) : Option Expr → Bool
  | none => true
  | some e => e.isAllowed c

/-- Whether all expressions are allowed. -/
def listAllowed (c : Surroundings) : List Expr → Bool
  | [] => true
  | e :: es => e.isAllowed c && listAllowed c es

/-- Whether items of a container are allowed, which may be spread. -/
def itemsAllowed (c : Surroundings) : List Expr → Bool
  | [] => true
  | .starred e :: es => e.isAllowed c && itemsAllowed c es
  | e :: es => e.isAllowed c && itemsAllowed c es

/-- Whether keyword arguments are allowed. -/
def keywordsAllowed (c : Surroundings) : List (Option String × Expr) → Bool
  | [] => true
  | (name, e) :: es => name != some reservedName && e.isAllowed c && keywordsAllowed c es

/-- Whether compared operands are allowed. -/
def comparisonsAllowed (c : Surroundings) : List (CompareOp × Expr) → Bool
  | [] => true
  | (_, e) :: es => e.isAllowed c && comparisonsAllowed c es

/-- Whether the entries of a mapping are allowed. -/
def entriesAllowed (c : Surroundings) : List (Option Expr × Expr) → Bool
  | [] => true
  | (k, e) :: es => optionAllowed c k && e.isAllowed c && entriesAllowed c es

/-- Whether the parts of a formatted string are allowed. -/
def partsAllowed (c : Surroundings) : List FormatPart → Bool
  | [] => true
  | p :: ps => p.isAllowed c && partsAllowed c ps

/-- Whether a part of a formatted string is allowed. -/
def FormatPart.isAllowed (c : Surroundings) : FormatPart → Bool
  | .text _ => true
  | .field e _ none => e.isAllowed c
  | .field e _ (some parts) => e.isAllowed c && partsAllowed c parts

/-- Whether the defaults and type notes of parameters are allowed. -/
def paramsAllowed (c : Surroundings) : List Param → Bool
  | [] => true
  | p :: ps => p.isAllowed c && paramsAllowed c ps

/-- Whether the default and the type note of a parameter are allowed. -/
def Param.isAllowed (c : Surroundings) : Param → Bool
  | .mk _ _ typeNote default => optionAllowed c typeNote && optionAllowed c default

/-- Whether an expression may be given a value. -/
def Expr.isAllowedTarget (c : Surroundings) : Expr → Bool
  | .name s => s != reservedName
  | .attribute e name => name != reservedName && e.isAllowed c
  | .subscript e i => e.isAllowed c && i.isAllowed c
  | .tuple es => targetsAllowed c false es
  | .list es => targetsAllowed c false es
  | _ => false

/-- Whether expressions may be given values together; one of them may take all that are left. -/
def targetsAllowed (c : Surroundings) (starSeen : Bool) : List Expr → Bool
  | [] => true
  | .starred e :: es => !starSeen && e.isAllowedTarget c && targetsAllowed c true es
  | e :: es => e.isAllowedTarget c && targetsAllowed c starSeen es

/-- The names of the loops of a comprehension. -/
def clauseNames : List Clause → List String
  | [] => []
  | .mk target _ _ _ :: cs => target.targetNames ++ clauseNames cs

/-- Whether the loops of a comprehension are allowed. The source of the first one belongs to the
    code around the comprehension. -/
def clausesAllowed (outer inner : Surroundings) (isGenerator first : Bool) : List Clause → Bool
  | [] => true
  | clause :: cs =>
    clause.isAllowed outer inner isGenerator first && clausesAllowed outer inner isGenerator false cs

/-- Whether a loop of a comprehension is allowed. -/
def Clause.isAllowed (outer inner : Surroundings) (isGenerator first : Bool) : Clause → Bool
  | .mk target source conditions isAsync =>
    let around := if first then outer else inner
    (!isAsync || isGenerator || (outer.inFunction && outer.isAsync)) &&
      target.isAllowedTarget inner && source.isAllowed { around with inSource := true } &&
      listAllowed inner conditions

end

/-- The features that code can switch on. -/
def features : List String :=
  ["nested_scopes", "generators", "division", "absolute_import", "with_statement",
    "print_function", "unicode_literals", "barry_as_FLUFL", "generator_stop", "annotations"]

/-- Whether a statement switches on features. -/
def Stmt.switchesFeatures : Stmt → Bool
  | .importFrom module level _ => module == "__future__" && level == 0
  | _ => false

/-- Whether a statement switches on features that exist. -/
def Stmt.featuresExist : Stmt → Bool
  | .importFrom _ _ names => names.all fun a => features.contains a.name
  | _ => false

/-- Whether the items of a with statement are allowed. -/
def contextsAllowed (c : Surroundings) (items : List (Expr × Option Expr)) : Bool :=
  items.all fun (e, target) =>
    e.isAllowed c && (match target with
      | some t => t.isAllowedTarget c
      | none => true)

/-- Whether a handler without a kind stands last. -/
def handlersOrdered : List Handler → Bool
  | [] => true
  | .mk none _ _ :: hs => hs.isEmpty
  | _ :: hs => handlersOrdered hs

mutual

/-- Whether a statement is allowed inside a block. -/
def Stmt.isAllowed (c : Surroundings) : Stmt → Bool
  | .expr e => e.isAllowed c
  | .assign targets value => targets.all (·.isAllowedTarget c) && value.isAllowed c
  | .augmented target _ value => target.isAllowedTarget c && value.isAllowed c
  | .annotated target typeNote value _ =>
    target.isAllowedTarget c && typeNote.isAllowed c && optionAllowed c value
  | .delete targets => targets.all (·.isAllowedTarget c)
  | .pass => true
  | .break => c.inLoop
  | .continue => c.inLoop
  | .return e => c.inFunction && optionAllowed c e
  | .raise e cause => optionAllowed c e && optionAllowed c cause
  | .global _ => true
  | .nonlocal _ => true
  | .importNames _ => true
  | .importFrom module level names =>
    !(module == "__future__" && level == 0) &&
      (!(c.inFunction || c.inClass) || names.all fun a => a.name != "*")
  | .assert test message => test.isAllowed c && optionAllowed c message
  | .ifThen test body orElse => test.isAllowed c && blockAllowed c body && blockAllowed c orElse
  | .while test body orElse =>
    test.isAllowed c && blockAllowed { c with inLoop := true } body && blockAllowed c orElse
  | .for target source body orElse isAsync =>
    (!isAsync || (c.inFunction && c.isAsync)) && target.isAllowedTarget c && source.isAllowed c &&
      blockAllowed { c with inLoop := true } body && blockAllowed c orElse
  | .try body handlers orElse final =>
    blockAllowed c body && handlersOrdered handlers && handlersAllowed c handlers &&
      blockAllowed c orElse && blockAllowed c final
  | .with items body isAsync =>
    (!isAsync || (c.inFunction && c.isAsync)) && contextsAllowed c items && blockAllowed c body
  | .function _ params body decorators isAsync =>
    let names := params.flatMap Param.names
    let said := blockMentions body
    listAllowed c decorators && paramsAllowed c params && areDistinct names &&
      !names.contains reservedName && namesAgree c.functions names said &&
      blockAllowed (c.enter isAsync (BlockNames.of names said).locals) body
  | .class _ bases keywords body decorators =>
    listAllowed c decorators && itemsAllowed c bases && keywordsAllowed c keywords &&
      areDistinct (keywords.filterMap (·.1)) && namesAgree c.functions [] (blockMentions body) &&
      blockAllowed { inClass := true, functions := c.functions } body

/-- Whether the statements of a block are allowed. -/
def blockAllowed (c : Surroundings) : List Stmt → Bool
  | [] => true
  | s :: ss => s.isAllowed c && blockAllowed c ss

/-- Whether handlers are allowed. -/
def handlersAllowed (c : Surroundings) : List Handler → Bool
  | [] => true
  | h :: hs => h.isAllowed c && handlersAllowed c hs

/-- Whether a handler is allowed. -/
def Handler.isAllowed (c : Surroundings) : Handler → Bool
  | .mk kind name body => optionAllowed c kind && name != some reservedName && blockAllowed c body

end

/-- The text that stands alone as a statement. -/
def Stmt.text? : Stmt → Option String
  | .expr (.constant (.text s _)) => some s
  | _ => none

/-- The statements after a text at the start and after those that switch on features. -/
def afterFeatures : List Stmt → List Stmt
  | [] => []
  | s :: ss => if s.switchesFeatures && s.featuresExist then afterFeatures ss else s :: ss

/-- Whether statements may stand together as a piece of code. -/
def Stmt.areAllowed (body : List Stmt) : Bool :=
  let body := if (body.head?.bind Stmt.text?).isSome then body.drop 1 else body
  blockAllowed {} (afterFeatures body) && namesAgree [] [] (blockMentions body)

end SessionScript.Code
