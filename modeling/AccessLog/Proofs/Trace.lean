import AccessLog.Proofs.Event
import AccessLog.Proofs.Trace.Line

/-!
# The two forms of an event

An event goes out as a JSON object of its own, or as a trace, of which a line of the log is made. The line holds
the same members under the same names in other letters, and its message is that of the object.
-/

namespace AccessLog

section Present

variable {α β : Type}

theorem present_map (rename : String → String) (f : α → β) (slots : List (String × Option α)) :
    present (slots.map fun slot => (rename slot.1, slot.2.map f)) =
      (present slots).map fun m => (rename m.1, f m.2) := by
  induction slots with
  | nil => rfl
  | cons slot slots ih =>
    obtain ⟨k, o⟩ := slot
    rw [List.map_cons, present_cons, present_cons, ih, List.map_append]
    cases o <;> rfl

theorem present_filter (keep : String → Bool) (slots : List (String × Option α)) :
    present (slots.filter fun slot => keep slot.1) =
      (present slots).filter fun m => keep m.1 := by
  induction slots with
  | nil => rfl
  | cons slot slots ih =>
    obtain ⟨k, o⟩ := slot
    rw [present_cons, List.filter_append, ← ih, List.filter_cons]
    cases hk : keep k <;> cases o <;> simp [present, Event.optional, hk]

end Present

def snakeCase (s : String) : String :=
  String.ofList (s.toList.flatMap fun c => if c.isUpper then ['_', c.toLower] else [c])

example : snakeCase "headerXForwardedFor" = "header_x_forwarded_for" := by decide

namespace Event

def traceSlots (e : Event) : List (String × Option FieldValue) := [
  ("log_name", some (.text logName)),
  ("service_type", e.serviceType.map .text),
  ("event_id", some (.shown e.eventId.text)),
  ("timestamp", some (.shown e.timestampText)),
  ("method", some (.text e.method)),
  ("url", some (.text e.url)),
  ("url_querystring", e.urlQuery.map .text),
  ("status", some (.unsigned e.status)),
  ("incoming", some (.flag e.incoming)),
  ("duration_micros", some (.unsigned e.durationMicros)),
  ("body_size", e.bodySize.map .unsigned),
  ("response_size", e.responseSize.map .unsigned),
  ("request_id", e.requestId.map fun id : Uuid => .text id.text),
  ("user_id", e.userId.map .text),
  ("session_id", e.sessionId.map .text),
  ("referring_host", e.referringHost.map .text),
  ("referring_service", e.referringService.map .text),
  ("domain", e.domain.map .text),
  ("anonymous_id", e.anonymousId.map .text),
  ("user_agent", e.userAgent.map .text),
  ("accept_language", e.acceptLanguage.map .text),
  ("referer", e.referer.map .text),
  ("remote_address", e.remoteAddress.map .text),
  ("header_ot_originaluri", e.originalUri.map .text),
  ("header_host", e.host.map .text),
  ("header_accept", e.accept.map .text),
  ("header_x_forwarded_for", e.forwardedFor.map .text),
  ("header_x_forwarded_port", e.forwardedPort.map .text),
  ("header_x_forwarded_proto", e.forwardedProto.map .text)]

theorem traceFields_eq (e : Event) : e.traceFields = present e.traceSlots := by
  simp only [traceFields, optional_eq (α := String), optional_eq (α := Nat),
    optional_eq (α := Uuid)]
  rfl

theorem nodup_traceSlots (e : Event) : (e.traceSlots.map (·.1)).Nodup := by
  simp [traceSlots]

theorem message_notMem_traceFields (e : Event) :
    Trace.messageName ∉ e.traceFields.map (·.1) := by
  intro h
  obtain ⟨⟨name, v⟩, hv, hname⟩ := List.mem_map.mp h
  rw [traceFields_eq, mem_present, show name = Trace.messageName from hname] at hv
  simp [traceSlots, Trace.messageName] at hv

theorem traceSlots_eq (e : Event) :
    e.traceSlots.map (fun slot => (slot.1, slot.2.map Trace.scalar)) =
      (e.slots.filter fun slot => slot.1 ≠ "message").map
        fun slot => (snakeCase slot.1, slot.2.map id) := by
  simp only [traceSlots, slots, Trace.scalar, List.map_cons, List.map_nil, Option.map_some,
    Option.map_map, Option.map_id, Function.comp_def, id_eq, ne_eq, decide_not, String.reduceEq,
    decide_false, decide_true, Bool.not_false, Bool.not_true, Bool.false_eq_true,
    not_false_eq_true, List.filter_cons_of_pos, List.filter_cons_of_neg, List.filter_nil,
    List.cons.injEq, Prod.mk.injEq, and_true]
  decide +kernel

theorem traceFields_scalar (e : Event) :
    (e.traceFields.map fun f => (f.1, Trace.scalar f.2)) =
      (e.members.filter fun m => m.1 ≠ "message").map fun m => (snakeCase m.1, m.2) := by
  have hf := present_map id Trace.scalar e.traceSlots
  have hm := present_map snakeCase id (e.slots.filter fun slot => slot.1 ≠ "message")
  rw [present_filter (· ≠ "message")] at hm
  rw [traceFields_eq, members_eq]
  exact hf.symm.trans ((congrArg present e.traceSlots_eq).trans hm)

theorem nodup_traceFields (e : Event) : (e.traceFields.map (·.1)).Nodup := by
  rw [traceFields_eq]
  exact nodup_keys_present e.nodup_traceSlots

theorem nodup_fields_trace (e : Event) : (e.trace.fields.map (·.1)).Nodup :=
  List.nodup_cons.mpr ⟨e.message_notMem_traceFields, e.nodup_traceFields⟩

theorem message_recorded_trace (e : Event) : e.trace.recorded.message = some e.message :=
  Trace.message_recorded e.nodup_fields_trace List.mem_cons_self ⟨rfl, rfl⟩

theorem perm_recorded_trace (e : Event) : e.trace.recorded.data.Perm (e.traceFields.map Trace.member) := by
  have message : Trace.IsMessage (Trace.messageName, .shown e.message) := ⟨rfl, rfl⟩
  have others : ∀ f ∈ e.traceFields, ¬ Trace.IsMessage f := fun f hf hm =>
    e.message_notMem_traceFields (List.mem_map.mpr ⟨f, hf, hm.1⟩)
  have data : e.trace.fields.filter (¬ Trace.IsMessage ·) = e.traceFields := by
    rw [trace, List.filter_cons_of_neg (by simpa using message)]
    exact List.filter_eq_self.mpr fun f hf => by simpa using others f hf
  rw [← data]
  exact Trace.perm_recorded e.nodup_fields_trace

theorem recorded_trace (e : Event) :
    e.trace.recorded.message = some e.message ∧
      e.trace.recorded.data.Perm
        ((e.members.filter fun m => m.1 ≠ "message").map fun m => (snakeCase m.1, m.2)) := by
  refine ⟨e.message_recorded_trace, ?_⟩
  rw [← traceFields_scalar]
  exact e.perm_recorded_trace

theorem nodup_recorded_trace (e : Event) : (e.trace.recorded.data.map (·.1)).Nodup := by
  have hp := e.recorded_trace.2.map (·.1)
  rw [← traceFields_scalar, List.map_map] at hp
  refine (List.Perm.nodup_iff hp).mpr ?_
  exact e.nodup_traceFields

theorem recorded_trace_exact (e : Event) : ∀ m ∈ e.trace.recorded.data, m.2.Exact := by
  intro m hm
  obtain ⟨own, ho, rfl⟩ := List.mem_map.mp (e.recorded_trace.2.mem_iff.mp hm)
  exact (e.members_exact own (List.mem_filter.mp ho).1).1

theorem read?_line (e : Event) (service time : String) (requestId : Option String) :
    Json.read? (e.trace.line service time requestId) =
      some (.object ((e.trace.members service time requestId).map fun m => (m.1, m.2.value))) :=
  Trace.read?_line e.recorded_trace_exact

/-- Whatever stands in an exchange and in the diagnostic context, the line of the log and the line of its own
agree on the event: the same members, and the same message. -/
theorem forms_agree {σ : Type} (exchange : Exchange) (service : Service) (id : Uuid) (s : Scene σ)
    (name time : String) :
    let e := Event.assemble exchange service id
    ∃ entry line data members message,
      Sink.journal e s = (.returned, { s with journal := s.journal ++ [entry] }) ∧
      Json.read? (entry.line name time) = some (.object line) ∧
      line.map (·.1) = ["ts", "level", "type", "msg", "ctx", "data"] ∧
      line.lookup "msg" = some message ∧ line.lookup "data" = some (.object data) ∧
      Json.ofBytes? e.lineBytes.dropLast = some (.object members) ∧
      members.lookup "message" = some message ∧
      (members.map (·.1)).Nodup ∧ (data.map (·.1)).Nodup ∧
      data.Perm ((members.filter (·.1 ≠ "message")).map fun m => (snakeCase m.1, m.2)) := by
  intro e
  obtain ⟨hmessage, hdata⟩ := e.recorded_trace
  have hd := e.denoted_values
  refine ⟨⟨e.trace, s.context.get Diagnostic.requestIdKey⟩, _, e.trace.recorded.data.values,
    e.members.values, .text e.message, rfl, e.read?_line name time _, rfl, ?_, rfl, ?_,
    hd.message, hd.keys_nodup, ?_, ?_⟩
  · change some (Json.Value.text (e.trace.recorded.message.getD "")) = _
    rw [hmessage, Option.getD_some]
  · rw [lineBytes, List.dropLast_concat]
    exact e.ofBytes?_json
  · rw [Members.values, List.map_map]
    exact e.nodup_recorded_trace
  · have := hdata.map fun m => (m.1, m.2.value)
    rw [Members.values, Members.values, List.filter_map, List.map_map]
    rwa [List.map_map] at this

end Event

end AccessLog
