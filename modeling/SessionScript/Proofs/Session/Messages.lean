import SessionScript.Proofs.Json.RoundTrip
import SessionScript.Proofs.Session.Acts

/-!
# JSON messages

The message that is made from a JSON payload is read back as a tree of the shape of the payload.
Only the texts of its leaves differ: each is what its template resolved to, in document order.
Nothing that a template brings in can change keys, lengths or other leaves.
-/

namespace SessionScript

namespace Json

mutual

/-- A tree with every text of a leaf left out. -/
def Tree.outline : Tree → Tree
  | .text _ => .text ""
  | .array items => .array (Tree.outlines items)
  | .object members => .object (Tree.outlineMembers members)
  | t => t

/-- Items with every text of a leaf left out. -/
def Tree.outlines : List Tree → List Tree
  | [] => []
  | t :: ts => t.outline :: Tree.outlines ts

/-- Members with every text of a leaf left out. -/
def Tree.outlineMembers : List (String × Tree) → List (String × Tree)
  | [] => []
  | (k, t) :: ms => (k, t.outline) :: Tree.outlineMembers ms

end

end Json

namespace Template

open Json

variable {σ : Type} {funcs : Functions σ}

mutual

/-- A tree is another one with its texts resolved, from a memory on and leaving a memory. -/
inductive Mirrors (funcs : Functions σ) : Memory σ → Tree → Tree → Memory σ → Prop where
  | null (m : Memory σ) : Mirrors funcs m .null .null m
  | bool (m : Memory σ) (b : Bool) : Mirrors funcs m (.bool b) (.bool b) m
  | int (m : Memory σ) (i : Int) : Mirrors funcs m (.int i) (.int i) m
  | text {m m' : Memory σ} {s : String} {cs : List Char}
    (resolved : exec (resolveText funcs callLimit s.toList) m = (.ok cs, m')) :
    Mirrors funcs m (.text s) (.text (String.ofList cs)) m'
  | array {m m' : Memory σ} {items items' : List Tree} (each : MirrorsItems funcs m items items' m') :
    Mirrors funcs m (.array items) (.array items') m'
  | object {m m' : Memory σ} {members members' : List (String × Tree)}
    (each : MirrorsMembers funcs m members members' m') :
    Mirrors funcs m (.object members) (.object members') m'

/-- The same for items, from left to right. -/
inductive MirrorsItems (funcs : Functions σ) :
    Memory σ → List Tree → List Tree → Memory σ → Prop where
  | nil (m : Memory σ) : MirrorsItems funcs m [] [] m
  | cons {m m₁ m' : Memory σ} {t t' : Tree} {ts ts' : List Tree} (first : Mirrors funcs m t t' m₁)
    (rest : MirrorsItems funcs m₁ ts ts' m') : MirrorsItems funcs m (t :: ts) (t' :: ts') m'

/-- The same for members, whose keys stay as they are. -/
inductive MirrorsMembers (funcs : Functions σ) :
    Memory σ → List (String × Tree) → List (String × Tree) → Memory σ → Prop where
  | nil (m : Memory σ) : MirrorsMembers funcs m [] [] m
  | cons {m m₁ m' : Memory σ} {k : String} {t t' : Tree} {ms ms' : List (String × Tree)}
    (first : Mirrors funcs m t t' m₁) (rest : MirrorsMembers funcs m₁ ms ms' m') :
    MirrorsMembers funcs m ((k, t) :: ms) ((k, t') :: ms') m'

end

mutual

/-- A tree with its texts resolved has the same outline. -/
theorem Mirrors.outline {m m' : Memory σ} {t t' : Tree} :
    Mirrors funcs m t t' m' → t'.outline = t.outline
  | .null _ => rfl
  | .bool _ _ => rfl
  | .int _ _ => rfl
  | .text _ => by simp [Tree.outline]
  | .array each => by simp [Tree.outline, each.outline]
  | .object each => by simp [Tree.outline, each.outline]

theorem MirrorsItems.outline {m m' : Memory σ} {ts ts' : List Tree} :
    MirrorsItems funcs m ts ts' m' → Tree.outlines ts' = Tree.outlines ts
  | .nil _ => rfl
  | .cons first rest => by simp [Tree.outlines, first.outline, rest.outline]

theorem MirrorsMembers.outline {m m' : Memory σ} {ms ms' : List (String × Tree)} :
    MirrorsMembers funcs m ms ms' m' → Tree.outlineMembers ms' = Tree.outlineMembers ms
  | .nil _ => rfl
  | .cons first rest => by simp [Tree.outlineMembers, first.outline, rest.outline]

end

mutual

/-- Resolving a value that has a tree mirrors that tree. -/
theorem resolve_mirrors : ∀ (v : Value) {w : Value} {shape : Tree} {m m' : Memory σ},
    treeOf? v = some shape → exec (resolve funcs callLimit v) m = (.ok w, m') →
      ∃ t, treeOf? w = some t ∧ Mirrors funcs m shape t m'
  | .null, w, shape, m, m', tree, resolved => by
    cases tree
    cases resolved
    exact ⟨_, rfl, .null m⟩
  | .bool b, w, shape, m, m', tree, resolved => by
    cases tree
    cases resolved
    exact ⟨_, rfl, .bool m b⟩
  | .int i, w, shape, m, m', tree, resolved => by
    cases tree
    cases resolved
    exact ⟨_, rfl, .int m i⟩
  | .text s, w, shape, m, m', tree, resolved => by
    cases tree
    have ran : exec (resolveText funcs callLimit s.toList >>= fun cs =>
        pure (.text (String.ofList cs))) m = (.ok w, m') := resolved
    obtain ⟨cs, there, text, done⟩ := exec_bind_ok ran
    cases done
    exact ⟨_, rfl, .text text⟩
  | .list xs, w, shape, m, m', tree, resolved
  | .tuple xs, w, shape, m, m', tree, resolved => by
    obtain ⟨shapes, trees, rfl⟩ := Option.map_eq_some_iff.mp tree
    rw [resolve, Value.mapLeavesM] at resolved
    obtain ⟨ws, there, items, done⟩ := exec_bind_ok resolved
    cases done
    obtain ⟨ts, trees', each⟩ := resolveItems_mirrors xs trees items
    exact ⟨.array ts, by rw [treeOf?, trees']; rfl, .array each⟩
  | .dict es, w, shape, m, m', tree, resolved => by
    obtain ⟨shapes, members, rfl⟩ := Option.map_eq_some_iff.mp tree
    rw [resolve, Value.mapLeavesM] at resolved
    obtain ⟨ws, there, entries, done⟩ := exec_bind_ok resolved
    cases done
    obtain ⟨ms, members', each⟩ := resolveEntries_mirrors es members entries
    exact ⟨.object ms, by rw [treeOf?, members']; rfl, .object each⟩
  | .float _, _, _, _, _, tree, _ | .bytes _, _, _, _, _, tree, _ | .set _, _, _, _, _, tree, _
  | .date _, _, _, _, _, tree, _ | .datetime _, _, _, _, _, tree, _ | .object _, _, _, _, _, tree, _
  | .error _ _, _, _, _, _, tree, _ | .other _ _, _, _, _, _, tree, _ => by
    cases tree

theorem resolveItems_mirrors : ∀ (vs : List Value) {ws : List Value} {shapes : List Tree}
    {m m' : Memory σ}, treesOf? vs = some shapes →
      exec (Value.mapItemsM (resolveLeaf funcs callLimit) vs) m = (.ok ws, m') →
        ∃ ts, treesOf? ws = some ts ∧ MirrorsItems funcs m shapes ts m'
  | [], ws, shapes, m, m', trees, resolved => by
    cases trees
    cases resolved
    exact ⟨[], rfl, .nil m⟩
  | v :: vs, ws, shapes, m, m', trees, resolved => by
    obtain ⟨shape, tree, shapes, rest, rfl⟩ : ∃ shape, treeOf? v = some shape ∧
        ∃ ss, treesOf? vs = some ss ∧ shape :: ss = shapes := by
      simpa [treesOf?, Option.bind_eq_some_iff] using trees
    rw [Value.mapItemsM] at resolved
    obtain ⟨w, m₁, first, resolved⟩ := exec_bind_ok resolved
    obtain ⟨ws, m₂, others, done⟩ := exec_bind_ok resolved
    cases done
    obtain ⟨t, tree', mirrors⟩ := resolve_mirrors v tree first
    obtain ⟨ts, trees', each⟩ := resolveItems_mirrors vs rest others
    exact ⟨t :: ts, by rw [treesOf?, tree', trees']; rfl, .cons mirrors each⟩

theorem resolveEntries_mirrors : ∀ (es : List (Value × Value)) {ws : List (Value × Value)}
    {shapes : List (String × Tree)} {m m' : Memory σ}, membersOf? es = some shapes →
      exec (Value.mapEntriesM (resolveLeaf funcs callLimit) es) m = (.ok ws, m') →
        ∃ ms, membersOf? ws = some ms ∧ MirrorsMembers funcs m shapes ms m'
  | [], ws, shapes, m, m', members, resolved => by
    cases members
    cases resolved
    exact ⟨[], rfl, .nil m⟩
  | (.text k, v) :: es, ws, shapes, m, m', members, resolved => by
    obtain ⟨shape, tree, shapes, rest, rfl⟩ : ∃ shape, treeOf? v = some shape ∧
        ∃ ss, membersOf? es = some ss ∧ (k, shape) :: ss = shapes := by
      simpa [membersOf?, Option.bind_eq_some_iff] using members
    rw [Value.mapEntriesM] at resolved
    obtain ⟨w, m₁, first, resolved⟩ := exec_bind_ok resolved
    obtain ⟨ws, m₂, others, done⟩ := exec_bind_ok resolved
    cases done
    obtain ⟨t, tree', mirrors⟩ := resolve_mirrors v tree first
    obtain ⟨ms, members', each⟩ := resolveEntries_mirrors es rest others
    exact ⟨(k, t) :: ms, by rw [membersOf?, tree', members']; rfl, .cons mirrors each⟩

end

end Template

variable {σ ω : Type}

/-- The message of a JSON payload is read back with the outline of the payload, and its texts are
    what the templates of the payload resolved to. -/
theorem encode_json_reads {body : Value} {shape : Json.Tree} (plain : Json.treeOf? body = some shape)
    {r r' : Running σ ω} {message : Message}
    (encoded : exec ((Payload.json body).encode Act.resolve : Act σ ω Message) r =
      (.ok message, r')) :
    ∃ text tree m', message = .text text ∧ Json.read text = some tree ∧
      tree.outline = shape.outline ∧
      Template.Mirrors r.context.funcs r.situation.memory shape tree m' ∧
      r'.situation = r.situation.remember m' := by
  obtain ⟨r₁, ran, reached⟩ := Act.encode_answers (.json body) r
  rw [ran, Prod.mk.injEq] at encoded
  obtain ⟨result, rfl⟩ := encoded
  have situated := reached.situation
  rcases resolved : exec (Template.resolve r.context.funcs Template.callLimit body)
    r.situation.memory with ⟨f | w, m'⟩
  · have answer : (r.situation.encode (.json body)).1 = .error f := by
      simp [Situation.encode, Situation.resolve, resolved, Except.bind]
    simp only [answer] at result
    cases result
  · obtain ⟨tree, treeOf, mirrors⟩ := Template.resolve_mirrors body plain resolved
    cases written : Json.write w with
    | error e =>
      have answer : (r.situation.encode (.json body)).1 = .error (.raise e.kind e.message) := by
        simp [Situation.encode, Situation.resolve, resolved, Except.bind, jsonMessage, written]
      simp only [answer] at result
      cases result
    | ok text =>
      have read := (Json.read_write written).trans (Json.readTree?_of_treeOf? w treeOf)
      have answer : r.situation.encode (.json body) =
          (.ok (.text text), r.situation.remember m') := by
        simp [Situation.encode, Situation.resolve, resolved, Except.bind, jsonMessage, written]
      simp only [answer] at result situated
      cases result
      exact ⟨text, tree, m', rfl, read, mirrors.outline, mirrors, situated⟩

/-- A variable that holds quotes and brackets stays a text. -/
theorem encode_json_reads_brackets :
    Json.treeOf? (.dict [(.text "a", .list [.text "\x7b\x7bx\x7d\x7d", .int 1])]) =
        some (.object [("a", .array [.text "\x7b\x7bx\x7d\x7d", .int 1])]) ∧
      ∃ tree, Json.read "\x7b\"a\": [\"\\\"], [\\\\\", 1]\x7d" = some tree ∧
        tree.outline = .object [("a", .array [.text "", .int 1])] := by
  obtain ⟨start, message⟩ : ∃ start : Running Unit Unit,
      (exec ((Payload.json (.dict [(.text "a", .list [.text "\x7b\x7bx\x7d\x7d", .int 1])])).encode
        Act.resolve : Act Unit Unit Message) start).1.toOption =
          some (.text "\x7b\"a\": [\"\\\"], [\\\\\", 1]\x7d") :=
    ⟨{ context := { vars := [(.text "x", .text "\"], [\\")] }
       world := { host := (), audience := () } }, by decide⟩
  generalize ran : exec _ start = ended at message
  obtain ⟨f | m, after⟩ := ended
  · cases message
  · obtain ⟨text, tree, m', same, read, outline, -⟩ := encode_json_reads rfl ran
    cases message
    cases same
    exact ⟨rfl, tree, read, outline⟩

end SessionScript
