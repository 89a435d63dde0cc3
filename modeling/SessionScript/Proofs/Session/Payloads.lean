import SessionScript.Proofs.Json.Validity
import SessionScript.Proofs.Session.Acts

/-!
# JSON payloads that can be sent

Which JSON payloads of an accepted document become messages once their templates are resolved, and
which of these messages are JSON. Templates have no part in it: they only put texts in place of
texts.
-/

namespace SessionScript

/-! ## Resolving keeps what is no text -/

namespace Value

/-- Whether a value may be held and has the leaves of another one, apart from texts. -/
structure Keeps (v w : Value) : Prop where
  admitted : w.Admitted
  leaves : ∀ leaf, (∀ s, leaf ≠ .text s) → (leaf ∈ w.leaves ↔ leaf ∈ v.leaves)

theorem Keeps.items {vs ws : List Value} (each : List.Forall₂ Keeps vs ws) :
    (∀ w ∈ ws, w.Admitted) ∧
      ∀ leaf, (∀ s, leaf ≠ .text s) → (leaf ∈ itemLeaves ws ↔ leaf ∈ itemLeaves vs) := by
  induction each with
  | nil => exact ⟨List.forall_mem_nil _, fun _ _ => Iff.rfl⟩
  | cons first _ ih =>
    refine ⟨List.forall_mem_cons.mpr ⟨first.admitted, ih.1⟩, fun leaf other => ?_⟩
    rw [itemLeaves, itemLeaves, List.mem_append, List.mem_append, first.leaves leaf other,
      ih.2 leaf other]

theorem Keeps.entries {es ds : List (Value × Value)}
    (each : List.Forall₂ (fun e d => d.1 = e.1 ∧ Keeps e.2 d.2) es ds) :
    ds.map (·.1) = es.map (·.1) ∧ (∀ d ∈ ds, d.2.Admitted) ∧
      ∀ leaf, (∀ s, leaf ≠ .text s) → (leaf ∈ entryLeaves ds ↔ leaf ∈ entryLeaves es) := by
  induction each with
  | nil => exact ⟨rfl, List.forall_mem_nil _, fun _ _ => Iff.rfl⟩
  | @cons e d es ds first _ ih =>
    obtain ⟨key, first⟩ := first
    obtain ⟨keys, admitted, leaves⟩ := ih
    refine ⟨by rw [List.map_cons, List.map_cons, key, keys],
      List.forall_mem_cons.mpr ⟨first.admitted, admitted⟩, fun leaf other => ?_⟩
    rw [entryLeaves, entryLeaves, List.mem_append, List.mem_append, first.leaves leaf other,
      leaves leaf other]

section Mapped

variable {τ : Type} {g : Value → ExceptT Failure (StateM τ) Value} {P : Value → Value → Prop}

/-- What relates each item to what it is mapped to relates the lists. -/
theorem mapItemsM_related : ∀ {vs ws : List Value} {t t' : τ},
    (∀ v ∈ vs, ∀ w t t', exec (mapLeavesM g v) t = (.ok w, t') → P v w) →
      exec (mapItemsM g vs) t = (.ok ws, t') → List.Forall₂ P vs ws
  | [], ws, t, t', _, mapped => by
    cases mapped
    exact .nil
  | v :: vs, ws, t, t', each, mapped => by
    obtain ⟨first, rest⟩ := List.forall_mem_cons.mp each
    rw [mapItemsM] at mapped
    obtain ⟨w, there, one, mapped⟩ := exec_bind_ok mapped
    obtain ⟨others, left, more, done⟩ := exec_bind_ok mapped
    cases done
    exact .cons (first w t there one) (mapItemsM_related rest more)

/-- The same for the values of entries, which keep their keys. -/
theorem mapEntriesM_related : ∀ {es ds : List (Value × Value)} {t t' : τ},
    (∀ e ∈ es, ∀ w t t', exec (mapLeavesM g e.2) t = (.ok w, t') → P e.2 w) →
      exec (mapEntriesM g es) t = (.ok ds, t') →
        List.Forall₂ (fun e d => d.1 = e.1 ∧ P e.2 d.2) es ds
  | [], ds, t, t', _, mapped => by
    cases mapped
    exact .nil
  | (k, v) :: es, ds, t, t', each, mapped => by
    obtain ⟨first, rest⟩ := List.forall_mem_cons.mp each
    rw [mapEntriesM] at mapped
    obtain ⟨w, there, one, mapped⟩ := exec_bind_ok mapped
    obtain ⟨others, left, more, done⟩ := exec_bind_ok mapped
    cases done
    exact .cons ⟨rfl, first w t there one⟩ (mapEntriesM_related rest more)

end Mapped

end Value

namespace Template

open Value

variable {σ : Type} {funcs : Functions σ} {limit : Nat}

/-- Resolving changes nothing but the texts of a value. -/
theorem resolve_keeps {v : Value} (admitted : v.Admitted) :
    ∀ w m m', exec (resolve funcs limit v) m = (.ok w, m') → v.Keeps w := by
  induction admitted with
  | null | bool b | int i | float x | bytes b =>
    rintro w m m' resolved
    cases resolved
    exact ⟨by constructor, fun _ _ => Iff.rfl⟩
  | text s =>
    rintro w m m' resolved
    have ran : exec (resolveText funcs limit s.toList >>= fun cs =>
        pure (.text (String.ofList cs))) m = (.ok w, m') := resolved
    obtain ⟨cs, there, -, done⟩ := exec_bind_ok ran
    cases done
    refine ⟨.text _, fun leaf other => ?_⟩
    simp [leaves, other]
  | @list xs _ ih | @tuple xs _ ih =>
    rintro w m m' resolved
    rw [resolve, mapLeavesM] at resolved
    obtain ⟨ws, there, items, done⟩ := exec_bind_ok resolved
    cases done
    obtain ⟨admitted, leaves⟩ := Keeps.items (mapItemsM_related ih items)
    exact ⟨by constructor; exact admitted, leaves⟩
  | @dict es keys _ ih =>
    rintro w m m' resolved
    rw [resolve, mapLeavesM] at resolved
    obtain ⟨ds, there, entries, done⟩ := exec_bind_ok resolved
    cases done
    obtain ⟨same, admitted, leaves⟩ := Keeps.entries (mapEntriesM_related ih entries)
    refine ⟨.dict (fun d among => ?_) admitted, leaves⟩
    have key : d.1 ∈ es.map (·.1) := same ▸ List.mem_map_of_mem among
    obtain ⟨e, known, same⟩ := List.mem_map.mp key
    exact same ▸ keys e known

end Template

/-! ## Messages -/

variable {σ ω : Type}

/-- A payload whose templates resolve is encoded as the JSON text of what they resolve to. -/
theorem exec_encode_json {body w : Value} {r : Running σ ω} {m' : Template.Memory σ}
    (resolved : exec (Template.resolve r.context.funcs Template.callLimit body)
      r.situation.memory = (.ok w, m')) :
    ∃ r', exec ((Payload.json body).encode Act.resolve : Act σ ω Message) r =
      (jsonMessage w, r') := by
  obtain ⟨r', ran, -⟩ := Act.encode_answers (.json body) r
  have answer : (r.situation.encode (.json body)).1 = jsonMessage w := by
    simp [Situation.encode, Situation.resolve, resolved, Except.bind]
  exact ⟨r', answer ▸ ran⟩

/-- A JSON payload of an accepted document whose templates resolve becomes a message if it holds
    neither bytes nor an integer with too many digits, and only then. The message is JSON if all
    numbers of the payload are finite, and only then. -/
theorem encode_json_valid_iff {doc body w : Value}
    (accepted : Step.ofValue doc = .ok (.send (.json body))) {r : Running σ ω}
    {m' : Template.Memory σ}
    (resolved : exec (Template.resolve r.context.funcs Template.callLimit body)
      r.situation.memory = (.ok w, m')) :
    ((∃ text r', exec ((Payload.json body).encode Act.resolve : Act σ ω Message) r =
        (.ok (.text text), r')) ↔
      (∀ b, .bytes b ∉ body.leaves) ∧ ∀ i, .int i ∈ body.leaves → ¬ Text.Numeral.isLong i) ∧
    ∀ text r', exec ((Payload.json body).encode Act.resolve : Act σ ω Message) r =
        (.ok (.text text), r') →
      ((Json.read text).isSome ↔ ∀ x, .float x ∈ body.leaves → x.isFinite) := by
  have keeps := Template.resolve_keeps (Step.ofValue_admitted accepted) w _ m' resolved
  obtain ⟨after, ran⟩ := exec_encode_json resolved
  have bytes (b : List UInt8) : .bytes b ∈ w.leaves ↔ .bytes b ∈ body.leaves :=
    keeps.leaves _ (by simp)
  have ints (i : Int) : .int i ∈ w.leaves ↔ .int i ∈ body.leaves := keeps.leaves _ (by simp)
  have floats (x : Binary64) : .float x ∈ w.leaves ↔ .float x ∈ body.leaves :=
    keeps.leaves _ (by simp)
  have writes : Json.HasText w ↔
      (∀ b, .bytes b ∉ body.leaves) ∧ ∀ i, .int i ∈ body.leaves → ¬ Text.Numeral.isLong i := by
    simp only [Json.hasText_iff keeps.admitted, Json.Writes, ← bytes, ← ints]
    grind
  constructor
  · rw [← writes, ran]
    constructor
    · rintro ⟨text, r', sent⟩
      cases written : Json.write w with
      | ok s => exact ⟨s, written⟩
      | error e => simp [jsonMessage, written] at sent
    · rintro ⟨s, written⟩
      exact ⟨s, after, by simp [jsonMessage, written]⟩
  · rw [ran]
    intro text r' sent
    cases written : Json.write w with
    | error e => simp [jsonMessage, written] at sent
    | ok s =>
      obtain rfl : s = text := by simpa [jsonMessage, written] using (Prod.mk.inj sent).1
      have none := (writes.mp ⟨s, written⟩).1
      rw [Json.read_write written, Json.readTree?_isSome_iff keeps.admitted]
      simp only [← bytes, ← floats] at none ⊢
      grind

/-- A payload with a template, an integer and a number with a fraction is sent as JSON. -/
theorem encode_json_valid_of_numbers :
    let body : Value :=
      .dict [(.text "a", .list [.text "\x7b\x7bx\x7d\x7d", .int 1, .float ⟨0x3FF8000000000000⟩])]
    let start : Running Unit Unit :=
      { context := { vars := [(.text "x", .text "\"")] }, world := { host := (), audience := () } }
    ∃ text r', exec ((Payload.json body).encode Act.resolve : Act Unit Unit Message) start =
      (.ok (.text text), r') ∧ (Json.read text).isSome := by
  intro body start
  let doc : Value := .dict [(.text "send", .dict [(.text "json", body)])]
  have accepted : Step.ofValue doc = .ok (.send (.json body)) := rfl
  obtain ⟨w, m', resolved⟩ : ∃ w m', exec (Template.resolve start.context.funcs
      Template.callLimit body) start.situation.memory = (.ok w, m') := ⟨_, _, rfl⟩
  obtain ⟨sent, valid⟩ := encode_json_valid_iff accepted resolved
  have leaves : body.leaves =
      [.text "\x7b\x7bx\x7d\x7d", .int 1, .float ⟨0x3FF8000000000000⟩] := rfl
  obtain ⟨text, r', ran⟩ := sent.mpr (by
    rw [leaves]
    refine ⟨by simp, fun i known => ?_⟩
    obtain rfl : i = 1 := by simpa using known
    decide)
  refine ⟨text, r', ran, (valid text r' ran).mpr fun x known => ?_⟩
  rw [leaves] at known
  obtain rfl : x = ⟨0x3FF8000000000000⟩ := by simpa using known
  decide

/-- Bytes and a number that is not finite are accepted and resolve to themselves. But there is no
    message for the bytes, and the message for the number is no JSON. -/
theorem encode_json_of_bytes_and_nan :
    let start : Running Unit Unit := { context := {}, world := { host := (), audience := () } }
    let Accepts (body : Value) : Prop :=
      Step.ofValue (.dict [(.text "send", .dict [(.text "json", body)])]) =
          .ok (.send (.json body)) ∧
        exec (Template.resolve start.context.funcs Template.callLimit body)
          start.situation.memory = (.ok body, start.situation.memory)
    let encoded (body : Value) : Except Failure Message :=
      (exec ((Payload.json body).encode Act.resolve : Act Unit Unit Message) start).1
    (Accepts (.bytes [120]) ∧ encoded (.bytes [120]) =
        .error (.raise "TypeError" "Object of type bytes is not JSON serializable")) ∧
      Accepts (.float Binary64.nan) ∧ encoded (.float Binary64.nan) = .ok (.text "NaN") ∧
        Json.read "NaN" = none :=
  ⟨⟨⟨rfl, rfl⟩, rfl⟩, ⟨rfl, rfl⟩, rfl, rfl⟩

end SessionScript
