import SessionScript.Proofs.Effect
import SessionScript.Scenario.Source

/-!
# Faults of texts

Where a document is read without tags of the host, nothing but the text itself can keep a value
from being read: every part of a document gives a value or a fault, whatever its depth.
-/

namespace SessionScript.Yaml

theorem mapError_eq_error {ε ε' α : Type} {f : ε → ε'} {x : Except ε α} {e : ε'} :
    x.mapError f = .error e ↔ ∃ d, x = .error d ∧ f d = e := by
  cases x with
  | ok a => exact ⟨fun failed => (nomatch failed), fun ⟨_, failed, _⟩ => (nomatch failed)⟩
  | error d =>
    constructor
    · exact fun failed => ⟨d, rfl, Except.error.inj failed⟩
    · rintro ⟨_, failed, rfl⟩
      cases failed
      rfl

namespace Node

variable {α β : Type}

/-- If there is no result, it is the text that is at fault. -/
def Building.LiesInText : Building α → Prop
  | .ok _ => True
  | .error e => ∃ f, e.2 = .text f

namespace Building.LiesInText

theorem atDepth (depth : Nat) (x : Except Fault α) : LiesInText (atDepth depth x) := by
  cases x with
  | ok a => trivial
  | error f => exact ⟨f, rfl⟩

theorem bind {b : Building α} {next : α → Building β} (first : LiesInText b)
    (second : ∀ a, LiesInText (next a)) : LiesInText (b >>= next) := by
  cases b with
  | ok a => exact second a
  | error e => exact first

theorem map {b : Building α} (g : α → β) (source : LiesInText b) : LiesInText (b.map g) := by
  cases b with
  | ok a => trivial
  | error e => exact source

theorem both {b : Building α} {c : Building β} (first : LiesInText b) (second : LiesInText c) :
    LiesInText (both b c) := by
  cases b with
  | ok _ =>
    cases c with
    | ok _ => trivial
    | error _ => exact second
  | error _ =>
    cases c with
    | ok _ => exact first
    | error _ =>
      rw [Node.both]
      split
      · exact second
      · exact first

theorem ite {p : Prop} [Decidable p] {b c : Building α} (yes : LiesInText b) (no : LiesInText c) :
    LiesInText (if p then b else c) := by
  split
  · exact yes
  · exact no

theorem all {bs : List (Building α)} (each : ∀ b ∈ bs, LiesInText b) : LiesInText (all bs) := by
  induction bs with
  | nil => trivial
  | cons b bs ih =>
    obtain ⟨first, others⟩ := List.forall_mem_cons.mp each
    exact (first.both (ih others)).map _

/-- Without tags of the host a part of a document has a value, or the text is at fault. -/
theorem ofNode (n depth : Nat) (node : Node) : LiesInText (value [] n depth node) := by
  induction n generalizing depth node with
  | zero => cases node <;> trivial
  | succ n ih =>
    have each {γ δ : Type} (f : γ → Building δ) (known : ∀ c, LiesInText (f c)) (cs : List γ) :
        LiesInText (Node.all (cs.map f)) := by
      refine all fun b among => ?_
      obtain ⟨c, -, rfl⟩ := List.mem_map.mp among
      exact known c
    -- The branches of each shape are those of the tags: a sequence, a mapping, a set, an ordered
    -- mapping, pairs, and the tags of scalars.
    cases node with
    | enclosing tag isMapping start => trivial
    | scalar tag text start stop =>
      simp only [value, List.lookup_nil]
      exact ite (atDepth _ _) (ite (map _ (atDepth _ _)) (ite (map _ (atDepth _ _))
        (ite (atDepth _ _) (ite (atDepth _ _) (atDepth _ _)))))
    | sequence tag nodes start stop =>
      have ordered (doing : String) : LiesInText (do
          let pairs ← Node.all (nodes.map fun item => do
            let e ← Node.atDepth (depth + 1) (onlyEntry doing start item)
            Node.both (value [] n (depth + 1) e.1) (value [] n (depth + 1) e.2))
          return Value.list (pairs.map fun p => .tuple [p.1, p.2])) :=
        bind (each _ (fun item => bind (atDepth _ (onlyEntry doing start item)) fun e =>
          both (ih _ e.1) (ih _ e.2)) nodes) fun _ => trivial
      simp only [value, List.lookup_nil]
      exact ite (map _ (each _ (ih _) nodes)) (ite (map _ (atDepth _ _)) (ite (map _ (atDepth _ _))
        (ite (ordered _) (ite (ordered _) (atDepth _ _)))))
    | mapping tag es start stop =>
      have entries : LiesInText (do
          let es ← Node.atDepth (depth + 1) (mergedEntries n start es)
          let pairs ← Node.all (es.map fun e => Node.both
            (if collectionTags.contains e.1.tag then
              Node.atDepth (depth + 1)
                (.error (partFault "a mapping" start "found unhashable key" e.1.start))
            else value [] n (depth + 1) e.1)
            (value [] n (depth + 1) e.2))
          return Entries.ofPairs pairs) :=
        bind (atDepth _ _) fun es => bind
          (each _ (fun e => both (ite (atDepth _ _) (ih _ e.1)) (ih _ e.2)) es) fun _ => trivial
      simp only [value, List.lookup_nil]
      exact ite (atDepth _ _) (ite (map _ entries) (ite (map _ entries)
        (ite (atDepth _ _) (ite (atDepth _ _) (atDepth _ _)))))

end Building.LiesInText

end Node

/-- If nothing is read from a text without tags of the host, the text is at fault. -/
theorem read_error {text : List Char} {e : ReadError} (failed : read [] text = .error e) :
    ∃ f, e = .text f := by
  rw [read] at failed
  rcases bind_error failed with failed | ⟨node?, -, failed⟩
  · obtain ⟨f, -, rfl⟩ := mapError_eq_error.mp failed
    exact ⟨f, rfl⟩
  · cases node? with
    | none => cases failed
    | some node =>
      rcases bind_error failed with failed | ⟨v, -, failed⟩
      · obtain ⟨d, built, rfl⟩ := mapError_eq_error.mp failed
        have lies := Node.Building.LiesInText.ofNode (node.height + 1) 0 node
        rwa [built] at lies
      · cases failed

/-- Whether a scalar without a value is what keeps a text from being read. -/
instance {α : Type} (x : Except ReadError α) (e : ConversionError) :
    Decidable (x = .error (.text (.value e))) :=
  match x with
  | .error (.text (.value d)) => decidable_of_iff (d = e) (by simp)
  | .error (.text (.character _)) | .error (.text (.marked _ _)) | .error (.tag _) | .ok _ =>
    isFalse (by simp)

end SessionScript.Yaml
