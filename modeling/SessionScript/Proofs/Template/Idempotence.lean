import SessionScript.Proofs.Template.Filling
import SessionScript.Proofs.Template.Logging
import SessionScript.Proofs.Template.Traversal

/-!
# Resolving a value again

A value without calls is resolved by filling its variables in, and what comes of that may be
resolved again. If the variables are braceless, every text of it is then shown as it stands, unless
a marker has come up from braces that the filling left next to each other.
-/

namespace SessionScript.Template

/-! ## Texts that stay as they are -/

/-- A text is resolved to itself, whatever functions are bound: no call is made in it, and if its
    variables are to be replaced, it has none. -/
inductive IsStable (cs : List Char) : Prop where
  | callless (calls : CallMarker.find? cs = none)
    (bare : ∀ path, .variable path ∉ Piece.ofText cs)
  /-- The first call marker holds an expression that is no call. -/
  | expression {marker : CallMarker} (found : CallMarker.find? cs = some marker)
    (read : Call.parse marker.call = .ok none) (bare : ∀ path, .variable path ∉ Piece.ofText cs)
  /-- The arguments in the first call marker are no literals, or they have keywords. -/
  | left {marker : CallMarker} {fault : Call.Fault} (found : CallMarker.find? cs = some marker)
    (read : Call.parse marker.call = .error fault) (grammar : ∀ e why, fault ≠ .syntaxFault e why)

variable {σ : Type}

theorem plan_none {funcs : Functions σ} {cs : List Char} (none : CallMarker.find? cs = none) :
    plan funcs cs = .render := by
  rw [plan, none]

theorem IsStable.exec_resolveText {cs : List Char} (stable : IsStable cs) (funcs : Functions σ)
    (limit : Nat) (m : Memory σ) :
    ∃ m', exec (resolveText funcs (limit + 1) cs) m = (.ok cs, m') := by
  rw [resolveText_succ]
  have shown (bare : ∀ path, .variable path ∉ Piece.ofText cs) :
      interpolate m.vars cs = .ok cs := by
    rw [interpolate, Piece.ofText_of_no_variable bare, renderPieces_chars]
  cases stable with
  | callless calls bare =>
    rw [plan_none calls, exec_render, shown bare]
    exact ⟨m, rfl⟩
  | expression found read bare =>
    have planned : plan funcs cs = .render := by
      rw [plan, found]
      simp only [read]
    rw [planned, exec_render, shown bare]
    exact ⟨m, rfl⟩
  | @left marker fault found read grammar =>
    rw [plan, found]
    simp only [read]
    cases fault with
    | syntaxFault e why => exact absurd rfl (grammar e why)
    | _ => exact ⟨_, rfl⟩

/-- A table with one function, which fails. -/
def failing (name : String) : Functions Unit :=
  [(name, fun _ vars host => (.error endless, vars, host))]

/-- A text is stable if it is resolved to itself where no function is bound that returns. -/
theorem isStable_of_failing {vars : Entries}
    (braceless : ∀ path, IsBraceless (lookup vars path)) {cs : List Char}
    (kept : ∀ name, ∃ m m' : Memory Unit, m.vars = vars ∧
      exec (resolveText (failing name) 1 cs) m = (.ok cs, m')) : IsStable cs := by
  have bare {m m' : Memory Unit} (here : m.vars = vars)
      (same : exec (Plan.carryOut (resolveText (failing "") 0) cs .render) m = (.ok cs, m')) :
      ∀ path, .variable path ∉ Piece.ofText cs := by
    rw [exec_render, here] at same
    exact (interpolate_eq_self_iff braceless).mp (congrArg Prod.fst same)
  cases found : CallMarker.find? cs with
  | none =>
    obtain ⟨m, m', here, same⟩ := kept ""
    rw [resolveText_succ, plan_none found] at same
    exact .callless found (bare here same)
  | some marker =>
    rcases read : Call.parse marker.call with fault | _ | call
    · refine .left found read ?_
      rintro e why rfl
      obtain ⟨m, m', -, same⟩ := kept ""
      rw [resolveText_succ, plan, found] at same
      simp only [read, exec_refuse] at same
      cases same
    · obtain ⟨m, m', here, same⟩ := kept ""
      have planned : plan (failing "") cs = .render := by
        rw [plan, found]
        simp only [read]
      rw [resolveText_succ, planned] at same
      exact .expression found read (bare here same)
    · obtain ⟨m, m', -, same⟩ := kept call.name
      have bound : (failing call.name).get? call.name = some fun _ vars host =>
          (.error endless, vars, host) := List.lookup_cons_self
      rw [resolveText_succ, plan_call found read bound, exec_make, exec_invoke] at same
      cases same

/-! ## Texts of values -/

/-- Texts that are resolved to themselves one after the other are so each on its own, with a memory
    that the ones before it lead to. -/
theorem Functions.Resolves.each {R : Memory σ → Memory σ → Prop} [IsPreorder (Memory σ) R]
    {funcs : Functions σ} {limit : Nat} (leads : ∀ cs, Leads R (resolveText funcs limit cs))
    {texts results : List String} {m m' : Memory σ}
    (resolves : funcs.Resolves limit texts m results m') (same : results = texts) :
    ∀ s ∈ texts, ∃ there there', R m there ∧
      exec (resolveText funcs limit s.toList) there = (.ok s.toList, there') := by
  induction resolves with
  | none m => exact List.forall_mem_nil _
  | @one s m cs there texts results m' first rest ih =>
    obtain ⟨own, others⟩ := List.cons.inj same
    have shown : cs = s.toList := by rw [← own, String.toList_ofList]
    refine List.forall_mem_cons.mpr ⟨⟨m, there, refl_of R m, by rw [first, shown]⟩, ?_⟩
    intro t among
    obtain ⟨here, behind, led, kept⟩ := ih others t among
    have step := leads s.toList m
    rw [first] at step
    exact ⟨here, behind, trans_of R step led, kept⟩

/-- Stable texts are resolved to themselves one after the other. -/
theorem resolves_of_stable {texts : List String} (stable : ∀ s ∈ texts, IsStable s.toList)
    (funcs : Functions σ) (limit : Nat) :
    ∀ m, ∃ m', funcs.Resolves (limit + 1) texts m texts m' := by
  induction texts with
  | nil => exact fun m => ⟨m, .none m⟩
  | cons s texts ih =>
    intro m
    obtain ⟨first, others⟩ := List.forall_mem_cons.mp stable
    obtain ⟨there, kept⟩ := first.exec_resolveText funcs limit m
    obtain ⟨m', rest⟩ := ih others there
    refine ⟨m', ?_⟩
    have resolves := Functions.Resolves.one kept rest
    rwa [String.ofList_toList] at resolves

/-- Texts without calls are resolved by filling their variables in, and nothing else happens. -/
theorem resolves_callless {texts : List String}
    (callless : ∀ s ∈ texts, CallMarker.find? s.toList = none) {funcs : Functions σ} {limit : Nat} :
    ∀ {results : List String} {m m' : Memory σ},
      funcs.Resolves (limit + 1) texts m results m' ↔
        m' = m ∧ List.Forall₂ (fun s t => interpolate m.vars s.toList = .ok t.toList) texts
          results := by
  induction texts with
  | nil =>
    intro results m m'
    constructor
    · rintro ⟨⟩
      exact ⟨rfl, .nil⟩
    · rintro ⟨rfl, ⟨⟩⟩
      exact .none _
  | cons s texts ih =>
    obtain ⟨first, others⟩ := List.forall_mem_cons.mp callless
    have once (m : Memory σ) : exec (resolveText funcs (limit + 1) s.toList) m =
        (interpolate m.vars s.toList, m) := by
      rw [resolveText_succ, plan_none first, exec_render]
    intro results m m'
    constructor
    · rintro (_ | ⟨ran, rest⟩)
      rw [once] at ran
      obtain ⟨shown, rfl⟩ := Prod.mk.inj ran
      obtain ⟨rfl, each⟩ := (ih others).mp rest
      exact ⟨rfl, .cons (by rw [shown, String.toList_ofList]) each⟩
    · rintro ⟨rfl, each⟩
      cases each with
      | @cons _ t _ results shown each =>
        have ran : exec (resolveText funcs (limit + 1) s.toList) m' = (.ok t.toList, m') := by
          rw [once, shown]
        have resolves := Functions.Resolves.one ran ((ih others).mpr ⟨rfl, each⟩)
        rwa [String.ofList_toList] at resolves

/-- A value whose texts are resolved one after the other is resolved to another one. -/
theorem exists_resolved {funcs : Functions σ} {limit : Nat} {v : Value} (free : v.isSetFree)
    {m m' : Memory σ} {results : List String}
    (resolves : funcs.Resolves limit v.texts m results m') :
    ∃ w, w.texts = results ∧ exec (resolve funcs limit v) m = (.ok w, m') := by
  obtain ⟨ended, left⟩ := exec_resolve_parts funcs limit free m
  rw [exec_mapM_ok_iff.mpr resolves] at ended left
  rcases ran : exec (resolve funcs limit v) m with ⟨f | w, there⟩
  · rw [ran] at ended
    cases ended
  · rw [ran] at ended left
    obtain ⟨-, texts⟩ : w.outline = v.outline ∧ w.texts = results := by
      simpa [Except.map] using ended
    exact ⟨w, texts, by rw [show there = m' from left]⟩

/-- With these variables a value is resolved to another one, whatever functions are bound, and
    nothing else happens. -/
def ResolvesTo (vars : Entries) (v w : Value) : Prop :=
  ∀ (σ : Type) (funcs : Functions σ) (limit : Nat) (m : Memory σ), m.vars = vars →
    exec (resolve funcs (limit + 1) v) m = (.ok w, m)

/-- Without calls, a value is resolved by filling the variables of its texts in. -/
theorem resolvesTo_iff {vars : Entries} {v w : Value} (free : v.isSetFree)
    (callless : ∀ s ∈ v.texts, CallMarker.find? s.toList = none) :
    ResolvesTo vars v w ↔ w.outline = v.outline ∧
      List.Forall₂ (fun s t => interpolate vars s.toList = .ok t.toList) v.texts w.texts := by
  have once {σ : Type} (funcs : Functions σ) (limit : Nat) (m : Memory σ) :=
    (resolve_text_by_text funcs (limit + 1) free m m).1 w
  constructor
  · intro resolves
    obtain ⟨outline, texts⟩ := (once [] 0 _).mp (resolves Unit [] 0 ⟨vars, (), []⟩ rfl)
    exact ⟨outline, ((resolves_callless callless).mp texts).2⟩
  · rintro ⟨outline, each⟩ σ funcs limit m rfl
    exact (once funcs limit m).mpr ⟨outline, (resolves_callless callless).mpr ⟨rfl, each⟩⟩

section Again

variable {vars : Entries} (braceless : ∀ path, IsBraceless (lookup vars path))
include braceless

theorem exists_filled (texts : List String) :
    ∃ results : List String,
      List.Forall₂ (fun s t => interpolate vars s.toList = .ok t.toList) texts results := by
  induction texts with
  | nil => exact ⟨[], .nil⟩
  | cons s texts ih =>
    obtain ⟨results, each⟩ := ih
    obtain ⟨r, rendered, -⟩ := renderPieces_fills braceless (Piece.ofText s.toList)
    exact ⟨String.ofList r :: results, .cons (by rw [String.toList_ofList]; exact rendered) each⟩

/-- Where variables are braceless, a value without calls is resolved. -/
theorem exists_resolvesTo {v : Value} (free : v.isSetFree)
    (callless : ∀ s ∈ v.texts, CallMarker.find? s.toList = none) : ∃ w, ResolvesTo vars v w := by
  obtain ⟨results, each⟩ := exists_filled braceless v.texts
  let m : Memory Unit := ⟨vars, (), []⟩
  have resolves : Functions.Resolves [] 1 v.texts m results m :=
    (resolves_callless callless).mpr ⟨rfl, each⟩
  obtain ⟨w, rfl, ran⟩ := exists_resolved free resolves
  refine ⟨w, (resolvesTo_iff free callless).mpr ⟨?_, each⟩⟩
  exact (((resolve_text_by_text [] 1 free m m).1 w).mp ran).1

/-- A value is resolved to itself, whatever functions are bound, if all its texts are stable, and
    only then. -/
theorem resolves_to_itself_iff {w : Value} (free : w.isSetFree) :
    (∀ (σ : Type) (funcs : Functions σ) (limit : Nat) (m : Memory σ), m.vars = vars →
      (exec (resolve funcs (limit + 1) w) m).1 = .ok w) ↔ ∀ s ∈ w.texts, IsStable s.toList := by
  constructor
  · intro again s among
    refine isStable_of_failing braceless fun name => ?_
    let m : Memory Unit := ⟨vars, (), []⟩
    have ran : exec (resolve (failing name) 1 w) m =
        (.ok w, (exec (resolve (failing name) 1 w) m).2) := by
      rw [← again Unit (failing name) 0 m rfl]
    have texts := (((resolve_text_by_text (failing name) 1 free m _).1 w).mp ran).2
    let same : Memory Unit → Memory Unit → Prop := fun m m' => m'.vars = m.vars
    have : IsPreorder (Memory Unit) same :=
      { refl := fun _ => rfl, trans := fun _ _ _ first second => second.trans first }
    have leads : ∀ cs, Leads same (resolveText (failing name) 1 cs) := by
      refine resolveText_leads (fun _ _ _ => rfl) (fun other fn bound args there => ?_) 1
      cases List.mem_singleton.mp (Functions.mem_of_get? bound)
      rw [exec_invoke]
    obtain ⟨there, there', here, kept⟩ := texts.each leads rfl s among
    exact ⟨there, there', here, kept⟩
  · intro stable σ funcs limit m here
    obtain ⟨m', resolves⟩ := resolves_of_stable stable funcs limit m
    rw [((resolve_text_by_text funcs (limit + 1) free m m').1 w).mpr ⟨rfl, resolves⟩]

end Again

/-- What each element of a list is related to may be known by itself. -/
theorem forall_of_forall₂ {α β : Type} {p : β → Prop} {as : List α} {bs : List β}
    (each : List.Forall₂ (fun _ b => p b) as bs) : ∀ b ∈ bs, p b := by
  induction each with
  | nil => exact List.forall_mem_nil _
  | cons first _ ih => exact List.forall_mem_cons.mpr ⟨first, ih⟩

/-- Without calls and with braceless variables a value is resolved, and nothing else happens. What
    comes of it is resolved to itself if all its texts are stable, and only then. They are so if no
    text of the value encloses anything outside of its markers; then again nothing else happens. -/
theorem resolve_again {vars : Entries} (braceless : ∀ e ∈ vars, IsBraceless e.2) {v : Value}
    (free : v.isSetFree) (callless : ∀ s ∈ v.texts, CallMarker.find? s.toList = none) :
    ∃ w, ResolvesTo vars v w ∧
      ((∀ (σ : Type) (funcs : Functions σ) (limit : Nat) (m : Memory σ), m.vars = vars →
        (exec (resolve funcs (limit + 1) w) m).1 = .ok w) ↔ ∀ s ∈ w.texts, IsStable s.toList) ∧
      ((∀ s ∈ v.texts, ¬ Encloses (outside (Piece.ofText s.toList))) → ResolvesTo vars w w) := by
  have everywhere := lookup_isBraceless braceless
  obtain ⟨w, resolves⟩ := exists_resolvesTo everywhere free callless
  obtain ⟨outline, each⟩ := (resolvesTo_iff free callless).mp resolves
  have free' : w.isSetFree := by
    rw [← Value.isSetFree_outline, outline, Value.isSetFree_outline, free]
  refine ⟨w, resolves, resolves_to_itself_iff everywhere free', fun bare => ?_⟩
  have markerless : ∀ t ∈ w.texts, CallMarker.find? t.toList = none ∧
      ∀ path, .variable path ∉ Piece.ofText t.toList := by
    have both := (List.forall₂_and_left _ _).mpr ⟨bare, each⟩
    refine forall_of_forall₂ (both.imp fun s t known => ?_)
    exact markerless_of_filled everywhere known.1 known.2
  refine (resolvesTo_iff free' fun t among => (markerless t among).1).mpr ⟨rfl, ?_⟩
  rw [List.forall₂_same]
  intro t among
  exact (interpolate_eq_self_iff everywhere).mpr (markerless t among).2

/-- Braces that open in front of a marker and others that close behind one enclose nothing. -/
theorem resolve_again_of_open :
    let vars : Entries := [(.text "x", .list [.text "a", .int 1])]
    let v : Value := .tuple [.text "\x7b\x7b y \x7b\x7bx.0\x7d\x7d", .int 2,
      .dict [(.text "k", .text "\x7b\x7b\x7b x.1 \x7d\x7d\x7d \x7d\x7d")]]
    (∀ e ∈ vars, IsBraceless e.2) ∧ v.isSetFree ∧
      (∀ s ∈ v.texts, CallMarker.find? s.toList = none) ∧
      ∃ w, ResolvesTo vars v w ∧ ResolvesTo vars w w ∧
        w.texts = ["\x7b\x7b y a", "1 \x7d\x7d"] := by
  intro vars v
  have braceless : ∀ e ∈ vars, IsBraceless e.2 := by
    intro e among
    cases List.mem_singleton.mp among
    exact ⟨"[\"a\", 1]", rfl, List.all_eq_true.mp (by decide)⟩
  have callless : ∀ s ∈ v.texts, CallMarker.find? s.toList = none := by decide
  obtain ⟨w, resolves, -, again⟩ := resolve_again braceless (v := v) rfl callless
  refine ⟨braceless, rfl, callless, w, resolves, again ?_, ?_⟩
  · intro s among
    rintro ⟨before, inner, after, same⟩
    have opens : '\x7b' ∈ outside (Piece.ofText s.toList) := by rw [same]; simp
    have closes : '\x7d' ∈ outside (Piece.ofText s.toList) := by rw [same]; simp
    rcases List.mem_pair.mp among with rfl | rfl
    · exact absurd closes (by decide)
    · exact absurd opens (by decide)
  · obtain ⟨-, each⟩ := (resolvesTo_iff (v := v) rfl callless).mp resolves
    let shows (s t : String) : Prop := (interpolate vars s.toList).toOption = some t.toList
    have first : shows "\x7b\x7b y \x7b\x7bx.0\x7d\x7d" "\x7b\x7b y a" := by
      decide +kernel
    have second : shows "\x7b\x7b\x7b x.1 \x7d\x7d\x7d \x7d\x7d" "1 \x7d\x7d" := by
      decide +kernel
    have unique : Relator.RightUnique shows := by
      intro s t t' one other
      exact String.toList_inj.mp (Option.some.inj (one.symm.trans other))
    have filled : List.Forall₂ shows v.texts w.texts :=
      each.imp fun s t shown => congrArg Except.toOption shown
    exact unique.forall₂ filled (.cons first (.cons second .nil))

/-- A marker around another one is a marker of its own when the inner one is filled in. So what
    comes of the text is not what comes of it again, and at last even a function is called. -/
theorem resolve_again_of_nested :
    let vars : Entries := [(.text "x", .text "a"), (.text "y", .text "$f()")]
    let m : Memory Unit := ⟨vars, (), []⟩
    let v : Value := .text "\x7b\x7b \x7b\x7bx\x7d\x7d \x7d\x7d"
    let u : Value := .text "\x7b\x7b \x7b\x7by\x7d\x7d \x7d\x7d"
    (∀ e ∈ vars, IsBraceless e.2) ∧
      (∀ s ∈ v.texts ++ u.texts, CallMarker.find? s.toList = none) ∧
      exec (resolve (failing "f") callLimit v) m = (.ok (.text "\x7b\x7b a \x7d\x7d"), m) ∧
      exec (resolve (failing "f") callLimit (.text "\x7b\x7b a \x7d\x7d")) m =
        (.ok (.text ""), m) ∧
      exec (resolve (failing "f") callLimit u) m = (.ok (.text (invocation "f")), m) ∧
      exec (resolve (failing "f") callLimit (.text (invocation "f"))) m = (.error endless, m) := by
  intro vars m v u
  have braceless : ∀ e ∈ vars, IsBraceless e.2 := by
    intro e among
    rcases List.mem_pair.mp among with rfl | rfl
    · exact ⟨"a", rfl, List.all_eq_true.mp (by decide)⟩
    · exact ⟨"$f()", rfl, List.all_eq_true.mp (by decide)⟩
  have filled {s t : String} (callless : CallMarker.find? s.toList = none)
      (shown : (interpolate vars s.toList).toOption = some t.toList) :
      exec (resolve (failing "f") callLimit (.text s)) m = (.ok (.text t), m) := by
    have shows : interpolate vars s.toList = .ok t.toList := by
      cases ended : interpolate vars s.toList with
      | error f =>
        rw [ended] at shown
        cases shown
      | ok cs =>
        rw [ended] at shown
        rw [Option.some.inj shown]
    have only : ∀ s' ∈ (Value.text s).texts, CallMarker.find? s'.toList = none := by
      intro s' among
      cases List.mem_singleton.mp among
      exact callless
    have resolves : ResolvesTo vars (.text s) (.text t) :=
      (resolvesTo_iff rfl only).mpr ⟨rfl, .cons shows .nil⟩
    exact resolves Unit (failing "f") 899 m rfl
  refine ⟨braceless, by decide, filled (by decide) (by decide +kernel),
    filled (by decide) (by decide +kernel), filled (by decide) (by decide +kernel), ?_⟩
  rw [callLimit, resolve_invocation (by decide) (by decide) rfl]
  rfl

end SessionScript.Template
