import AccessLog.Proofs.Event
import AccessLog.Proofs.Plain
import AccessLog.Proofs.Trace.Recorded

/-!
# The line of a trace

Whatever stands in the fields of a trace, it is written as one line, and that line is read back as the trace: the
message apart, each field under its own name with its own value, and beside them the identifier that the diagnostic
context held.
-/

namespace AccessLog

open Diagnostic (requestIdKey)

namespace FieldValue

def Textual (v : FieldValue) : Prop := ∃ s, v = .text s ∨ v = .shown s

/-- The JSON value that says what a field says. Real numbers have none here: they are written rounded. -/
inductive Denotes : FieldValue → Json.Value → Prop where
  | text (s : String) : Denotes (.text s) (.text s)
  | shown (s : String) : Denotes (.shown s) (.text s)
  | signed (n : Int) : Denotes (.signed n) (.number n 0)
  | unsigned (n : Nat) : Denotes (.unsigned n) (.number n 0)
  | flag (b : Bool) : Denotes (.flag b) (.flag b)

def IsReal (v : FieldValue) : Prop := ∃ x, v = .real x

end FieldValue

namespace Trace

theorem textual?_eq_some {v : FieldValue} {s : String} :
    textual? v = some s ↔ v = .text s ∨ v = .shown s := by
  cases v <;> simp [textual?]

theorem isMessage_iff {f : String × FieldValue} : IsMessage f ↔ f.1 = messageName ∧ f.2.Textual := by
  simp only [IsMessage, FieldValue.Textual, Option.isSome_iff_exists, textual?_eq_some]

theorem denotes_iff {v : FieldValue} (h : ¬ v.IsReal) {w : Json.Value} :
    v.Denotes w ↔ w = (scalar v).value := by
  constructor
  · rintro ⟨⟩ <;> rfl
  · rintro rfl
    cases v with
    | text s => exact .text s
    | shown s => exact .shown s
    | signed n => exact .signed n
    | unsigned n => exact .unsigned n
    | real x => exact absurd ⟨x, rfl⟩ h
    | flag b => exact .flag b

theorem exact_scalar {v : FieldValue} (h : ¬ v.IsReal) : (scalar v).Exact := by
  cases v with
  | real x => exact absurd ⟨x, rfl⟩ h
  | _ => trivial

variable {t : Trace} {service time : String} {requestId : Option String}

theorem exact_contextMembers : ∀ m ∈ contextMembers service requestId, m.2.Exact := by
  intro m hm
  cases requestId with
  | none =>
    obtain rfl := List.mem_singleton.mp hm
    trivial
  | some id =>
    simp only [contextMembers, List.mem_cons, List.not_mem_nil, or_false] at hm
    rcases hm with rfl | rfl <;> trivial

theorem exact_members (h : ∀ m ∈ t.recorded.data, m.2.Exact) :
    ∀ m ∈ t.members service time requestId, m.2.Exact := by
  intro m hm
  simp only [members, List.mem_cons, List.not_mem_nil, or_false] at hm
  rcases hm with rfl | rfl | rfl | rfl | rfl | rfl
  · trivial
  · trivial
  · trivial
  · trivial
  · exact exact_contextMembers
  · exact h

theorem read?_line (h : ∀ m ∈ t.recorded.data, m.2.Exact) :
    Json.read? (t.line service time requestId) =
      some (.object ((t.members service time requestId).map fun m => (m.1, m.2.value))) :=
  Json.read?_document (exact_members h)

theorem newline_notMem_line (h : ∀ m ∈ t.recorded.data, m.2.Exact) :
    10 ∉ utf8 (t.line service time requestId) :=
  Json.newline_notMem_of_visible (Json.visible_document (exact_members h))

section Fields

variable (named : (t.fields.map (·.1)).Nodup)
include named

theorem mem_recorded {m : String × Scalar} :
    m ∈ t.recorded.data ↔ ∃ f ∈ t.fields, ¬ IsMessage f ∧ member f = m := by
  simp [(perm_recorded named).mem_iff, and_assoc]

theorem exact_recorded (exact : ∀ f ∈ t.fields, ¬ f.2.IsReal) : ∀ m ∈ t.recorded.data, m.2.Exact := by
  intro m hm
  obtain ⟨f, hf, -, rfl⟩ := (mem_recorded named).mp hm
  exact exact_scalar (exact f hf)

theorem mem_values_recorded (exact : ∀ f ∈ t.fields, ¬ f.2.IsReal) {name : String} {w : Json.Value} :
    (name, w) ∈ t.recorded.data.values ↔
      ∃ v, (name, v) ∈ t.fields ∧ ¬ (name = messageName ∧ v.Textual) ∧ v.Denotes w := by
  simp only [Members.values, List.mem_map, mem_recorded named]
  constructor
  · rintro ⟨_, ⟨f, hf, hm, rfl⟩, same⟩
    obtain ⟨rfl, rfl⟩ := Prod.mk.inj same
    exact ⟨f.2, hf, mt isMessage_iff.mpr hm, (denotes_iff (exact f hf)).mpr rfl⟩
  · rintro ⟨v, hf, hm, hw⟩
    obtain rfl := (denotes_iff (exact _ hf)).mp hw
    exact ⟨_, ⟨(name, v), hf, mt isMessage_iff.mp hm, rfl⟩, rfl⟩

end Fields

/-- What a line says of a trace besides its level and kind: the message, the context and the data, which are the other
fields. -/
structure Told (t : Trace) (service : String) (requestId : Option String) (message : String)
    (context data : List (String × Json.Value)) : Prop where
  message_of_textual : ∀ text, (messageName, .text text) ∈ t.fields ∨ (messageName, .shown text) ∈ t.fields →
    message = text
  message_of_none : (∀ v, (messageName, v) ∈ t.fields → ¬ v.Textual) → message = ""
  service_eq : context.lookup "service" = some (.text service)
  request_id_eq : context.lookup "request_id" = requestId.map .text
  context_keys : context.map (·.1) = "service" :: if requestId.isSome then ["request_id"] else []
  data_iff : ∀ name w, (name, w) ∈ data ↔
    ∃ v, (name, v) ∈ t.fields ∧ ¬ (name = messageName ∧ v.Textual) ∧ v.Denotes w
  names_ascending : (data.map (·.1)).Pairwise (· < ·)

theorem told_recorded (named : (t.fields.map (·.1)).Nodup) (exact : ∀ f ∈ t.fields, ¬ f.2.IsReal) :
    t.Told service requestId (t.recorded.message.getD "") (contextMembers service requestId).values
      t.recorded.data.values where
  message_of_textual text h := by
    obtain ⟨v, hf, hv⟩ : ∃ v, (messageName, v) ∈ t.fields ∧ (v = .text text ∨ v = .shown text) := by
      rcases h with h | h
      · exact ⟨_, h, .inl rfl⟩
      · exact ⟨_, h, .inr rfl⟩
    rw [message_recorded named hf (isMessage_iff.mpr ⟨rfl, text, hv⟩), textual?_eq_some.mpr hv]
    rfl
  message_of_none h := by
    rw [message_recorded_of_none]
    · rfl
    · rintro ⟨name, v⟩ hf hm
      obtain ⟨rfl, hv⟩ := isMessage_iff.mp hm
      exact h v hf hv
  service_eq := by cases requestId <;> rfl
  request_id_eq := by cases requestId <;> rfl
  context_keys := by cases requestId <;> rfl
  data_iff name w := mem_values_recorded named exact
  names_ascending := by
    rw [Members.values, List.map_map]
    exact List.pairwise_map.mpr t.ascending_recorded

/-- A trace whose fields have names of their own is written with one newline, at the end of a JSON object. The object
tells the message, the identifier in the context, and every other field once, in the order of the names. -/
theorem line_tells_fields {σ : Type} (t : Trace) (named : (t.fields.map (·.1)).Nodup)
    (exact : ∀ f ∈ t.fields, ¬ f.2.IsReal) (s : Scene σ) (service time : String) :
    ∃ entry text message context data,
      s.note t = { s with journal := s.journal ++ [entry] } ∧
      entry.lineBytes service time = text ++ [10] ∧ 10 ∉ text ∧
      Json.ofBytes? text = some (.object [
        ("ts", .text time), ("level", .text t.level.word), ("type", .text t.kind), ("msg", .text message),
        ("ctx", .object context), ("data", .object data)]) ∧
      t.Told service (s.context.get requestIdKey) message context data := by
  have exact_data := exact_recorded named exact
  refine ⟨_, _, _, _, _, rfl, rfl, newline_notMem_line exact_data, ?_, told_recorded named exact⟩
  rw [Json.ofBytes?_utf8]
  exact read?_line exact_data

/-- Quotes and newlines in names and texts, a message that is a number, and an identifier in the context. -/
theorem line_tells_fields_hostile :
    let t : Trace := ⟨.trace, "access", [
      ("zeta\n", .text "two\nlines \"quoted\""), (messageName, .signed (-3)), ("\"ctx\":", .shown "\x01")]⟩
    let s := { plainScene with context := plainScene.context.put requestIdKey "an\"id" }
    ∃ entry text context data,
      s.note t = { s with journal := s.journal ++ [entry] } ∧
      entry.lineBytes "svc" "now" = text ++ [10] ∧ 10 ∉ text ∧
      context.lookup "request_id" = some (.text "an\"id") ∧
      ("zeta\n", .text "two\nlines \"quoted\"") ∈ data ∧ ("message", .number (-3) 0) ∈ data ∧
      t.Told "svc" (some "an\"id") "" context data := by
  intro t s
  have named : (t.fields.map (·.1)).Nodup := by decide
  have exact : ∀ f ∈ t.fields, ¬ f.2.IsReal := by simp [t, FieldValue.IsReal]
  obtain ⟨entry, text, message, context, data, hn, hb, hl, -, told⟩ :=
    line_tells_fields t named exact s "svc" "now"
  obtain rfl : message = "" := told.message_of_none (by simp [t, messageName, FieldValue.Textual])
  refine ⟨entry, text, context, data, hn, hb, hl, told.request_id_eq, ?_, ?_, told⟩
  · exact (told.data_iff ..).mpr ⟨_, List.mem_cons_self, by simp [messageName], .text _⟩
  · exact (told.data_iff ..).mpr ⟨.signed (-3), by simp [t, messageName], by simp [FieldValue.Textual], .signed _⟩

end Trace

end AccessLog
