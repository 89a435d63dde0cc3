import SessionScript.Evaluator.Args

/-!
# Places

What running code works with mentions cells of a store by their places. Values can be carried to
other places: every place that they mention is replaced, and nothing else about them changes.
-/

namespace SessionScript.Evaluator

/-- Things that mention places of cells. Carried to where their places are, they stay what they
    are, and carrying them twice is carrying them once. -/
class Movable (α : Type) where
  /-- The places that are mentioned. -/
  places : α → List Nat
  /-- The thing with its places replaced. -/
  moved : (Nat → Nat) → α → α
  moved_eq_self : ∀ {f : Nat → Nat} {x : α}, (∀ a ∈ places x, f a = a) → moved f x = x
  moved_moved : ∀ (f g : Nat → Nat) (x : α), moved f (moved g x) = moved (fun a => f (g a)) x

export Movable (places moved)

/-- What has no instance of its own mentions no places. -/
instance (priority := low) Movable.constant {α : Type} : Movable α where
  places _ := []
  moved _ x := x
  moved_eq_self _ := rfl
  moved_moved _ _ _ := rfl

@[simp, grind =] theorem moved_constant {α : Type} (f : Nat → Nat) (x : α) :
    @moved α Movable.constant f x = x := rfl

@[simp] theorem moved_constant_eq_id {α : Type} (f : Nat → Nat) :
    @moved α Movable.constant f = id := rfl

variable {α β : Type} {f : Nat → Nat}

/-! ## Lists, options and pairs -/

section
variable [Movable α] [Movable β]

theorem map_moved_eq_self {xs : List α} (h : ∀ a ∈ xs.flatMap places, f a = a) :
    xs.map (moved f) = xs := by
  refine (List.map_congr_left fun x hx => ?_).trans (List.map_id xs)
  exact Movable.moved_eq_self fun a ha => h a (List.mem_flatMap.2 ⟨x, hx, ha⟩)

theorem map_moved_moved (f g : Nat → Nat) (xs : List α) :
    (xs.map (moved g)).map (moved f) = xs.map (moved fun a => f (g a)) := by
  rw [List.map_map]
  exact List.map_congr_left fun x _ => Movable.moved_moved f g x

instance : Movable (List α) where
  places xs := xs.flatMap places
  moved f xs := xs.map (moved f)
  moved_eq_self := map_moved_eq_self
  moved_moved := map_moved_moved

instance : Movable (Array α) where
  places xs := xs.toList.flatMap places
  moved f xs := xs.map (moved f)
  moved_eq_self h := by
    apply Array.toList_inj.1
    rw [Array.toList_map]
    exact map_moved_eq_self h
  moved_moved f g xs := by
    apply Array.toList_inj.1
    rw [Array.toList_map, Array.toList_map, Array.toList_map]
    exact map_moved_moved f g xs.toList

instance : Movable (Option α) where
  places o := o.toList.flatMap places
  moved f o := o.map (moved f)
  moved_eq_self {f o} h := by
    cases o with
    | none => rfl
    | some x => exact congrArg some (Movable.moved_eq_self (by simpa using h))
  moved_moved f g o := by
    cases o with
    | none => rfl
    | some x => exact congrArg some (Movable.moved_moved f g x)

instance : Movable (α × β) where
  places p := places p.1 ++ places p.2
  moved f p := (moved f p.1, moved f p.2)
  moved_eq_self h :=
    Prod.ext (Movable.moved_eq_self fun a ha => h a (List.mem_append_left _ ha))
      (Movable.moved_eq_self fun a ha => h a (List.mem_append_right _ ha))
  moved_moved f g p := by rw [Movable.moved_moved, Movable.moved_moved]

/-- Characters are not carried one by one. -/
instance : Movable (List Char) := .constant

@[simp, grind =] theorem moved_list (xs : List α) : moved f xs = xs.map (moved f) := rfl

@[simp, grind =] theorem moved_array (xs : Array α) : moved f xs = xs.map (moved f) := rfl

@[simp, grind =] theorem moved_option (o : Option α) : moved f o = o.map (moved f) := rfl

@[simp, grind =] theorem moved_pair (p : α × β) : moved f p = (moved f p.1, moved f p.2) := rfl

omit [Movable α] in
theorem moved_constants (f : Nat → Nat) (xs : List α) :
    @moved (List α) (@instMovableList α .constant) f xs = xs := List.map_id xs

omit [Movable α] in
theorem moved_constant? (f : Nat → Nat) (o : Option α) :
    @moved (Option α) (@instMovableOption α .constant) f o = o := Option.map_id'

end

/-! ## Values -/

mutual

/-- The places that a value mentions. -/
def Datum.addresses : Datum → List Nat
  | .tuple items => Datum.allAddresses items
  | .slice low high step => low.addresses ++ (high.addresses ++ step.addresses)
  | .cell a => [a]
  | .view _ a => [a]
  | .method owner _ => owner.addresses
  | .error _ args => Datum.allAddresses args
  | _ => []

/-- The places that values mention. -/
def Datum.allAddresses : List Datum → List Nat
  | [] => []
  | d :: ds => d.addresses ++ Datum.allAddresses ds

end

mutual

/-- A value with its places replaced. -/
def Datum.carried (f : Nat → Nat) : Datum → Datum
  | .none => .none
  | .bool b => .bool b
  | .int i => .int i
  | .float x => .float x
  | .complex re im => .complex re im
  | .text s => .text s
  | .bytes b => .bytes b
  | .ellipsis => .ellipsis
  | .tuple items => .tuple (Datum.allCarried f items)
  | .range start stop step => .range start stop step
  | .slice low high step => .slice (low.carried f) (high.carried f) (step.carried f)
  | .cell a => .cell (f a)
  | .view kind a => .view kind (f a)
  | .type name => .type name
  | .builtin name => .builtin name
  | .method owner name => .method (owner.carried f) name
  | .unbound typeName name => .unbound typeName name
  | .error kind args => .error kind (Datum.allCarried f args)
  | .host v => .host v

/-- Values with their places replaced. -/
def Datum.allCarried (f : Nat → Nat) : List Datum → List Datum
  | [] => []
  | d :: ds => d.carried f :: Datum.allCarried f ds

end

mutual

theorem Datum.carried_eq_self : (d : Datum) → (∀ a ∈ d.addresses, f a = a) → d.carried f = d
  | .tuple items, h => congrArg _ (Datum.allCarried_eq_self items h)
  | .slice low high step, h => by
    simp only [Datum.addresses, List.mem_append] at h
    simp only [Datum.carried, Datum.carried_eq_self low fun a ha => h a (.inl ha),
      Datum.carried_eq_self high fun a ha => h a (.inr (.inl ha)),
      Datum.carried_eq_self step fun a ha => h a (.inr (.inr ha))]
  | .cell a, h => congrArg _ (h a (List.mem_singleton_self a))
  | .view _ a, h => congrArg _ (h a (List.mem_singleton_self a))
  | .method owner _, h => congrArg (Datum.method · _) (Datum.carried_eq_self owner h)
  | .error _ args, h => congrArg _ (Datum.allCarried_eq_self args h)
  | .none, _ | .bool _, _ | .int _, _ | .float _, _ | .complex _ _, _ | .text _, _ | .bytes _, _
  | .ellipsis, _ | .range _ _ _, _ | .type _, _ | .builtin _, _ | .unbound _ _, _ | .host _, _ =>
    rfl

theorem Datum.allCarried_eq_self :
    (ds : List Datum) → (∀ a ∈ Datum.allAddresses ds, f a = a) → Datum.allCarried f ds = ds
  | [], _ => rfl
  | d :: ds, h => by
    simp only [Datum.allAddresses, List.mem_append] at h
    rw [Datum.allCarried, Datum.carried_eq_self d fun a ha => h a (.inl ha),
      Datum.allCarried_eq_self ds fun a ha => h a (.inr ha)]

end

mutual

theorem Datum.carried_carried (f g : Nat → Nat) :
    (d : Datum) → (d.carried g).carried f = d.carried fun a => f (g a)
  | .tuple items => congrArg _ (Datum.allCarried_allCarried f g items)
  | .slice low high step => by
    simp only [Datum.carried, Datum.carried_carried f g low, Datum.carried_carried f g high,
      Datum.carried_carried f g step]
  | .method owner _ => congrArg (Datum.method · _) (Datum.carried_carried f g owner)
  | .error _ args => congrArg _ (Datum.allCarried_allCarried f g args)
  | .cell _ | .view _ _ | .none | .bool _ | .int _ | .float _ | .complex _ _ | .text _ | .bytes _
  | .ellipsis | .range _ _ _ | .type _ | .builtin _ | .unbound _ _ | .host _ => rfl

theorem Datum.allCarried_allCarried (f g : Nat → Nat) :
    (ds : List Datum) → Datum.allCarried f (Datum.allCarried g ds) =
      Datum.allCarried (fun a => f (g a)) ds
  | [] => rfl
  | d :: ds => by
    simp only [Datum.allCarried, Datum.carried_carried f g d, Datum.allCarried_allCarried f g ds]

end

instance : Movable Datum where
  places := Datum.addresses
  moved := Datum.carried
  moved_eq_self := Datum.carried_eq_self _
  moved_moved := Datum.carried_carried

theorem Datum.allCarried_eq_map (f : Nat → Nat) (ds : List Datum) :
    Datum.allCarried f ds = ds.map (moved f) := by
  induction ds with
  | nil => rfl
  | cons d ds ih => exact congrArg _ ih

namespace Datum

@[simp, grind =] theorem moved_none : moved f Datum.none = .none := rfl

@[simp, grind =] theorem moved_bool (b : Bool) : moved f (Datum.bool b) = .bool b := rfl

@[simp, grind =] theorem moved_int (i : Int) : moved f (Datum.int i) = .int i := rfl

@[simp, grind =] theorem moved_float (x : Binary64) : moved f (Datum.float x) = .float x := rfl

@[simp, grind =] theorem moved_complex (re im : Binary64) :
    moved f (Datum.complex re im) = .complex re im := rfl

@[simp, grind =] theorem moved_text (s : String) : moved f (Datum.text s) = .text s := rfl

@[simp] theorem moved_ofChars (cs : List Char) : moved f (ofChars cs) = ofChars cs := rfl

@[simp, grind =] theorem moved_bytes (b : List UInt8) : moved f (Datum.bytes b) = .bytes b := rfl

@[simp, grind =] theorem moved_ellipsis : moved f Datum.ellipsis = .ellipsis := rfl

@[simp, grind =] theorem moved_tuple (items : List Datum) :
    moved f (Datum.tuple items) = .tuple (items.map (moved f)) :=
  congrArg _ (allCarried_eq_map f items)

@[simp, grind =] theorem moved_range (start stop step : Int) :
    moved f (Datum.range start stop step) = .range start stop step := rfl

@[simp, grind =] theorem moved_slice (low high step : Datum) :
    moved f (Datum.slice low high step) = .slice (moved f low) (moved f high) (moved f step) := rfl

@[simp, grind =] theorem moved_cell (a : Nat) : moved f (Datum.cell a) = .cell (f a) := rfl

@[simp, grind =] theorem moved_view (kind : ViewKind) (a : Nat) :
    moved f (Datum.view kind a) = .view kind (f a) := rfl

@[simp, grind =] theorem moved_type (name : String) : moved f (Datum.type name) = .type name := rfl

@[simp, grind =] theorem moved_builtin (name : String) :
    moved f (Datum.builtin name) = .builtin name := rfl

@[simp, grind =] theorem moved_method (owner : Datum) (name : String) :
    moved f (Datum.method owner name) = .method (moved f owner) name := rfl

@[simp, grind =] theorem moved_unbound (typeName name : String) :
    moved f (Datum.unbound typeName name) = .unbound typeName name := rfl

@[simp, grind =] theorem moved_error (kind : String) (args : List Datum) :
    moved f (Datum.error kind args) = .error kind (args.map (moved f)) :=
  congrArg _ (allCarried_eq_map f args)

@[simp, grind =] theorem moved_host (v : Value) : moved f (Datum.host v) = .host v := rfl

/-! ### What a carried value was -/

variable {d : Datum}

@[simp, grind =] theorem moved_eq_none :
    moved f d = Datum.none ↔ d = Datum.none := by
  cases d <;> simp

@[simp, grind =] theorem moved_eq_bool {b : Bool} :
    moved f d = Datum.bool b ↔ d = Datum.bool b := by
  cases d <;> simp

@[simp, grind =] theorem moved_eq_int {i : Int} :
    moved f d = Datum.int i ↔ d = Datum.int i := by
  cases d <;> simp

@[simp, grind =] theorem moved_eq_float {x : Binary64} :
    moved f d = Datum.float x ↔ d = Datum.float x := by
  cases d <;> simp

@[simp, grind =] theorem moved_eq_complex {re im : Binary64} :
    moved f d = Datum.complex re im ↔ d = Datum.complex re im := by
  cases d <;> simp

@[simp, grind =] theorem moved_eq_text {s : String} :
    moved f d = Datum.text s ↔ d = Datum.text s := by
  cases d <;> simp

@[simp, grind =] theorem moved_eq_bytes {b : List UInt8} :
    moved f d = Datum.bytes b ↔ d = Datum.bytes b := by
  cases d <;> simp

@[simp, grind =] theorem moved_eq_range {start stop step : Int} :
    moved f d = Datum.range start stop step ↔ d = Datum.range start stop step := by
  cases d <;> simp

@[simp, grind =] theorem moved_eq_type {name : String} :
    moved f d = Datum.type name ↔ d = Datum.type name := by
  cases d <;> simp

@[simp, grind =] theorem moved_eq_builtin {name : String} :
    moved f d = Datum.builtin name ↔ d = Datum.builtin name := by
  cases d <;> simp

@[simp, grind =] theorem moved_eq_host {v : Value} :
    moved f d = Datum.host v ↔ d = Datum.host v := by
  cases d <;> simp

@[simp, grind =] theorem moved_eq_tuple {items : List Datum} :
    moved f d = Datum.tuple items ↔ ∃ xs, d = .tuple xs ∧ xs.map (moved f) = items := by
  cases d <;> simp

@[simp, grind =] theorem moved_eq_cell {b : Nat} :
    moved f d = Datum.cell b ↔ ∃ a, d = .cell a ∧ f a = b := by
  cases d <;> simp

@[simp, grind =] theorem moved_eq_view {kind : ViewKind} {b : Nat} :
    moved f d = Datum.view kind b ↔ ∃ a, d = .view kind a ∧ f a = b := by
  cases d <;> simp [and_assoc]

@[simp, grind =] theorem moved_eq_slice {low high step : Datum} :
    moved f d = Datum.slice low high step ↔
      ∃ l h s, d = .slice l h s ∧ moved f l = low ∧ moved f h = high ∧ moved f s = step := by
  cases d <;> simp [and_assoc]

@[simp, grind =] theorem moved_eq_error {kind : String} {args : List Datum} :
    moved f d = Datum.error kind args ↔ ∃ xs, d = .error kind xs ∧ xs.map (moved f) = args := by
  cases d <;> simp [and_assoc]

end Datum

/-! ### Values in lists -/

theorem headD_moved (ds : List Datum) :
    (ds.map (moved f)).headD .none = moved f (ds.headD .none) := by cases ds <;> rfl

theorem option_getD_moved (d : Option Datum) :
    (d.map (moved f)).getD .none = moved f (d.getD .none) := by cases d <;> rfl

theorem getD_moved (ds : List Datum) (i : Nat) :
    (ds.map (moved f)).getD i .none = moved f (ds.getD i .none) := by
  rw [List.getD_eq_getElem?_getD, List.getElem?_map, List.getD_eq_getElem?_getD, option_getD_moved]

theorem getD_none_moved (ds : List (Option Datum)) (i : Nat) :
    (ds.map (moved f)).getD i none = moved f (ds.getD i none) := by
  rw [List.getD_eq_getElem?_getD, List.getElem?_map, List.getD_eq_getElem?_getD]
  cases ds[i]? <;> rfl

theorem lookup_moved (bound : List (String × Datum)) (name : String) :
    (bound.map (moved f)).lookup name = (bound.lookup name).map (moved f) := by
  induction bound with
  | nil => rfl
  | cons b bound ih =>
    obtain ⟨bind, d⟩ := b
    simp only [List.map_cons, moved_pair, moved_constant, List.lookup_cons, ih]
    split <;> rfl

/-! ## Errors, scopes and functions -/

instance : Movable Raised where
  places e := places e.args
  moved f e := ⟨e.kind, moved f e.args⟩
  moved_eq_self h := congrArg (Raised.mk _) (Movable.moved_eq_self h)
  moved_moved f g e := congrArg (Raised.mk _) (Movable.moved_moved f g e.args)

instance : Movable Frame where
  places fr := [fr.address]
  moved f fr := { fr with address := f fr.address }
  moved_eq_self h := congrArg (Frame.mk · _ _) (h _ (List.mem_singleton_self _))
  moved_moved _ _ _ := rfl

instance : Movable Scope where
  places sc := sc.globals :: (places sc.builtins ++ (places sc.frames ++ sc.results.toList))
  moved f sc :=
    { sc with
      globals := f sc.globals
      builtins := moved f sc.builtins
      frames := moved f sc.frames
      results := sc.results.map f }
  moved_eq_self {f sc} h := by
    obtain ⟨globals, builtins, frames, path, results⟩ := sc
    simp only [List.mem_cons, List.mem_append, forall_eq_or_imp] at h
    have res : results.map f = results := by
      cases results with
      | none => rfl
      | some a => exact congrArg some (h.2 a (.inr (.inr (by simp))))
    simp only [h.1, Movable.moved_eq_self fun a ha => h.2 a (.inl ha),
      Movable.moved_eq_self fun a ha => h.2 a (.inr (.inl ha)), res]
  moved_moved f g sc := by
    simp only [Movable.moved_moved, Option.map_map]
    rfl

instance : Movable Parameter where
  places p := places p.default
  moved f p := { p with default := moved f p.default }
  moved_eq_self h := congrArg (Parameter.mk _ _) (Movable.moved_eq_self h)
  moved_moved f g p := congrArg (Parameter.mk _ _) (Movable.moved_moved f g p.default)

instance : Movable Closure where
  places c := places c.params ++ places c.scope
  moved f c := { c with params := moved f c.params, scope := moved f c.scope }
  moved_eq_self {f c} h := by
    simp only [List.mem_append] at h
    rw [Movable.moved_eq_self fun a ha => h a (.inl ha),
      Movable.moved_eq_self fun a ha => h a (.inr ha)]
  moved_moved f g c := by simp only [Movable.moved_moved]

instance : Movable Loop where
  places l := places l.source
  moved f l := { l with source := moved f l.source }
  moved_eq_self h := congrArg (Loop.mk _ _ · _) (Movable.moved_eq_self h)
  moved_moved f g l := congrArg (Loop.mk _ _ · _) (Movable.moved_moved f g l.source)

@[simp, grind =] theorem Raised.moved_kind (e : Raised) :
    (Movable.moved f e).kind = e.kind := rfl

@[simp, grind =] theorem Raised.moved_args (e : Raised) :
    (Movable.moved f e).args = e.args.map (Movable.moved f) := rfl

@[simp, grind =] theorem Frame.moved_address (fr : Frame) :
    (Movable.moved f fr).address = f fr.address := rfl

@[simp, grind =] theorem Frame.moved_names (fr : Frame) :
    (Movable.moved f fr).names = fr.names := rfl

@[simp, grind =] theorem Frame.moved_isComprehension (fr : Frame) :
    (Movable.moved f fr).isComprehension = fr.isComprehension := rfl

@[simp, grind =] theorem Scope.moved_globals (sc : Scope) :
    (Movable.moved f sc).globals = f sc.globals := rfl

@[simp, grind =] theorem Scope.moved_builtins (sc : Scope) :
    (Movable.moved f sc).builtins = Movable.moved f sc.builtins := rfl

@[simp, grind =] theorem Scope.moved_frames (sc : Scope) :
    (Movable.moved f sc).frames = sc.frames.map (Movable.moved f) := rfl

@[simp, grind =] theorem Scope.moved_path (sc : Scope) :
    (Movable.moved f sc).path = sc.path := rfl

@[simp, grind =] theorem Scope.moved_results (sc : Scope) :
    (Movable.moved f sc).results = sc.results.map f := rfl

@[simp, grind =] theorem Parameter.moved_kind (p : Parameter) :
    (Movable.moved f p).kind = p.kind := rfl

@[simp, grind =] theorem Parameter.moved_name (p : Parameter) :
    (Movable.moved f p).name = p.name := rfl

@[simp, grind =] theorem Parameter.moved_default (p : Parameter) :
    (Movable.moved f p).default = p.default.map (Movable.moved f) := rfl

@[simp, grind =] theorem Closure.moved_name (c : Closure) :
    (Movable.moved f c).name = c.name := rfl

@[simp, grind =] theorem Closure.moved_fullName (c : Closure) :
    (Movable.moved f c).fullName = c.fullName := rfl

@[simp, grind =] theorem Closure.moved_params (c : Closure) :
    (Movable.moved f c).params = c.params.map (Movable.moved f) := rfl

@[simp, grind =] theorem Closure.moved_body (c : Closure) :
    (Movable.moved f c).body = c.body := rfl

@[simp, grind =] theorem Closure.moved_names (c : Closure) :
    (Movable.moved f c).names = c.names := rfl

@[simp, grind =] theorem Closure.moved_givesResultsOneByOne (c : Closure) :
    (Movable.moved f c).givesResultsOneByOne = c.givesResultsOneByOne := rfl

@[simp, grind =] theorem Closure.moved_isAsync (c : Closure) :
    (Movable.moved f c).isAsync = c.isAsync := rfl

@[simp, grind =] theorem Closure.moved_scope (c : Closure) :
    (Movable.moved f c).scope = Movable.moved f c.scope := rfl

@[simp, grind =] theorem Loop.moved_target (l : Loop) :
    (Movable.moved f l).target = l.target := rfl

@[simp, grind =] theorem Loop.moved_conditions (l : Loop) :
    (Movable.moved f l).conditions = l.conditions := rfl

@[simp, grind =] theorem Loop.moved_source (l : Loop) :
    (Movable.moved f l).source = Movable.moved f l.source := rfl

@[simp, grind =] theorem Loop.moved_inner (l : Loop) :
    (Movable.moved f l).inner = l.inner := rfl

/-! ## Cells -/

instance : Movable Iterator where
  places
    | .finished | .range _ _ _ => []
    | .items _ rest ending => places rest ++ places ending
    | .list a _ | .listReversed a _ | .dict _ a _ _ => [a]
    | .set rest a _ => a :: places rest
    | .numbered source _ => places source
    | .zipped sources _ => places sources
    | .mapped f sources => places f ++ places sources
    | .filtered f source => places f ++ places source
    | .comprehension sc _ loops => places sc ++ places loops
    | .suspended c frame => frame :: places c
  moved f
    | .finished => .finished
    | .range next left step => .range next left step
    | .items kind rest ending => .items kind (moved f rest) (moved f ending)
    | .list a position => .list (f a) position
    | .listReversed a left => .listReversed (f a) left
    | .dict kind a position size => .dict kind (f a) position size
    | .set rest a size => .set (moved f rest) (f a) size
    | .numbered source next => .numbered (moved f source) next
    | .zipped sources strict => .zipped (moved f sources) strict
    | .mapped g sources => .mapped (moved f g) (moved f sources)
    | .filtered g source => .filtered (moved f g) (moved f source)
    | .comprehension sc element loops => .comprehension (moved f sc) element (moved f loops)
    | .suspended c frame => .suspended (moved f c) (f frame)
  moved_eq_self {f it} h := by
    cases it <;> simp only [List.mem_append, List.mem_cons, List.not_mem_nil, or_false,
      forall_eq, or_imp, forall_and] at h
    case finished | range => rfl
    case list | listReversed | dict => simp only [h]
    case numbered | zipped => simp only [Movable.moved_eq_self h]
    case set | suspended => simp only [h.1, Movable.moved_eq_self h.2]
    all_goals simp only [Movable.moved_eq_self h.1, Movable.moved_eq_self h.2]
  moved_moved f g it := by cases it <;> simp only [Movable.moved_moved]

@[simp, grind =] theorem Iterator.moved_items (kind : String) (rest : List Datum)
    (ending : Option Raised) :
    Movable.moved f (Iterator.items kind rest ending) =
      .items kind (rest.map (Movable.moved f)) (ending.map (Movable.moved f)) := rfl

@[simp, grind =] theorem Iterator.moved_zipped (sources : List Datum) (strict : Bool) :
    Movable.moved f (Iterator.zipped sources strict) =
      .zipped (sources.map (Movable.moved f)) strict := rfl

instance : Movable Cell where
  places
    | .list items => places items
    | .dict entries => places entries
    | .set members _ => places members
    | .names bound => places bound
    | .function c => places c
    | .iterator it => places it
    | .coroutine => []
  moved f
    | .list items => .list (moved f items)
    | .dict entries => .dict (moved f entries)
    | .set members frozen => .set (moved f members) frozen
    | .names bound => .names (moved f bound)
    | .function c => .function (moved f c)
    | .iterator it => .iterator (moved f it)
    | .coroutine => .coroutine
  moved_eq_self {f c} h := by
    cases c
    case coroutine => rfl
    all_goals simp only [Movable.moved_eq_self h]
  moved_moved f g c := by cases c <;> simp only [Movable.moved_moved]

instance : Movable Args where
  places args := places args.positional ++ places args.named
  moved f args := ⟨moved f args.positional, moved f args.named⟩
  moved_eq_self {f args} h := by
    simp only [List.mem_append] at h
    rw [Movable.moved_eq_self fun a ha => h a (.inl ha),
      Movable.moved_eq_self fun a ha => h a (.inr ha)]
  moved_moved f g args := by simp only [Movable.moved_moved]

@[simp, grind =] theorem Args.moved_positional (args : Args) :
    (Movable.moved f args).positional = args.positional.map (Movable.moved f) := rfl

@[simp, grind =] theorem Args.moved_named (args : Args) :
    (Movable.moved f args).named = args.named.map (Movable.moved f) := rfl

@[simp, grind =] theorem moved_args (positional : List Datum) (named : List (String × Datum)) :
    moved f (⟨positional, named⟩ : Args) = ⟨positional.map (moved f), named.map (moved f)⟩ := rfl

@[simp, grind =] theorem moved_raised (kind : String) (args : List Datum) :
    moved f (⟨kind, args⟩ : Raised) = ⟨kind, args.map (moved f)⟩ := rfl

namespace Cell

@[simp, grind =] theorem moved_list (items : Array Datum) :
    moved f (Cell.list items) = .list (items.map (moved f)) := rfl

@[simp, grind =] theorem moved_dict (entries : List (Datum × Datum)) :
    moved f (Cell.dict entries) = .dict (entries.map (moved f)) := rfl

@[simp, grind =] theorem moved_set (members : List Datum) (frozen : Bool) :
    moved f (Cell.set members frozen) = .set (members.map (moved f)) frozen := rfl

@[simp, grind =] theorem moved_names (bound : List (String × Datum)) :
    moved f (Cell.names bound) = .names (bound.map (moved f)) := rfl

@[simp, grind =] theorem moved_function (c : Closure) :
    moved f (Cell.function c) = .function (moved f c) := rfl

@[simp, grind =] theorem moved_iterator (it : Iterator) :
    moved f (Cell.iterator it) = .iterator (moved f it) := rfl

@[simp, grind =] theorem moved_coroutine : moved f Cell.coroutine = .coroutine := rfl

end Cell

end SessionScript.Evaluator
