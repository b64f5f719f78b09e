import AccessLog.Proofs.Logged
import AccessLog.Proofs.Trace

/-!
# Header fields of an event

Fifteen request headers go into an event, each into a field of its own: the first value of the header, in the event and
in both its forms. No other header has a say in it.
-/

namespace AccessLog

section Lookup

variable {α : Type} {key : String}

theorem lookup_perm {l l' : List (String × α)} (hp : l.Perm l') (hn : (l.map (·.1)).Nodup) :
    l.lookup key = l'.lookup key := by
  induction hp with
  | nil => rfl
  | cons m _ ih =>
    rw [List.lookup_cons, List.lookup_cons, ih (List.nodup_cons.mp hn).2]
  | swap a b rest =>
    have apart : b.1 ≠ a.1 := by
      have := (List.nodup_cons.mp hn).1
      simp only [List.map_cons, List.mem_cons, not_or] at this
      exact this.1
    rw [List.lookup_cons, List.lookup_cons, List.lookup_cons, List.lookup_cons]
    by_cases ha : key = a.1
    · have first : (key == a.1) = true := by simpa using ha
      have second : (key == b.1) = false := by simpa [ha] using apart.symm
      simp only [first, second]
    · have first : (key == a.1) = false := by simpa using ha
      simp only [first]
  | trans hp _ ih ih' => exact (ih hn).trans (ih' ((hp.map (·.1)).nodup_iff.mp hn))

end Lookup

/-- A request header that goes into events: how it is spelled, the field that takes it, and the names of that field in
the two forms of an event. -/
structure HeaderField where
  spelling : String
  name : HeaderName
  get : Exchange → Option String
  key : String
  label : String

def headerFields : List HeaderField := [
  ⟨"User-Agent", .userAgent, Exchange.userAgent, "userAgent", "user_agent"⟩,
  ⟨"Accept-Language", .acceptLanguage, Exchange.acceptLanguage, "acceptLanguage", "accept_language"⟩,
  ⟨"Referer", .referer, Exchange.referer, "referer", "referer"⟩,
  ⟨"Host", .host, Exchange.host, "headerHost", "header_host"⟩,
  ⟨"Accept", .accept, Exchange.accept, "headerAccept", "header_accept"⟩,
  ⟨"X-Forwarded-For", .forwardedFor, Exchange.forwardedFor, "headerXForwardedFor", "header_x_forwarded_for"⟩,
  ⟨"X-Forwarded-Port", .forwardedPort, Exchange.forwardedPort, "headerXForwardedPort", "header_x_forwarded_port"⟩,
  ⟨"X-Forwarded-Proto", .forwardedProto, Exchange.forwardedProto, "headerXForwardedProto",
    "header_x_forwarded_proto"⟩,
  ⟨"OT-AnonymousId", .anonymousId, Exchange.anonymousId, "anonymousId", "anonymous_id"⟩,
  ⟨"OT-ReferringHost", .referringHost, Exchange.referringHost, "referringHost", "referring_host"⟩,
  ⟨"OT-ReferringService", .referringService, Exchange.referringService, "referringService", "referring_service"⟩,
  ⟨"OT-SessionId", .sessionId, Exchange.sessionId, "sessionId", "session_id"⟩,
  ⟨"OT-UserId", .userId, Exchange.userId, "userId", "user_id"⟩,
  ⟨"OT-Domain", .domain, Exchange.domain, "domain", "domain"⟩,
  ⟨"OT-OriginalUri", .originalUri, Exchange.originalUri, "headerOtOriginaluri", "header_ot_originaluri"⟩]

namespace HeaderField

theorem names_apart :
    (headerFields.map name).Nodup ∧ (headerFields.map key).Nodup ∧ (headerFields.map label).Nodup := by
  decide

theorem parse?_spelling : ∀ field ∈ headerFields, HeaderName.parse? field.spelling = some field.name := by
  decide +kernel

/-- The event says this value of the header, in its field and in both its forms; nothing where there is none. -/
structure Holds (field : HeaderField) (e : Event) (value : Option String) : Prop where
  value_eq : field.get e.toExchange = value
  member : ∃ members, Json.ofBytes? e.lineBytes.dropLast = some (.object members) ∧
    members.lookup field.key = value.map .text
  datum (service time : String) (requestId : Option String) : ∃ line data,
    Json.read? (e.trace.line service time requestId) = some (.object line) ∧
    line.lookup "data" = some (.object data) ∧ data.lookup field.label = value.map .text

variable {field : HeaderField}

theorem get_of_read (hf : field ∈ headerFields) {req : Request} {res : Response} {now : Instant}
    {built : Exchange × List Trace} (h : Exchange.read req res now = .ok built) :
    field.get built.1 = Exchange.headerText req field.name := by
  unfold Exchange.read at h
  split at h
  · cases h
  split at h
  · cases h
  obtain rfl := Except.ok.inj h
  simp only [headerFields, List.mem_cons, List.not_mem_nil, or_false] at hf
  rcases hf with rfl | rfl | rfl | rfl | rfl | rfl | rfl | rfl | rfl | rfl | rfl | rfl | rfl | rfl | rfl <;> rfl

theorem slots_lookup (hf : field ∈ headerFields) (e : Event) :
    e.slots.lookup field.key = some ((field.get e.toExchange).map .text) ∧
    e.traceSlots.lookup field.label = some ((field.get e.toExchange).map .text) := by
  simp only [headerFields, List.mem_cons, List.not_mem_nil, or_false] at hf
  rcases hf with rfl | rfl | rfl | rfl | rfl | rfl | rfl | rfl | rfl | rfl | rfl | rfl | rfl | rfl | rfl <;>
    exact ⟨rfl, rfl⟩

theorem holds_get (hf : field ∈ headerFields) (e : Event) : field.Holds e (field.get e.toExchange) where
  value_eq := rfl
  member := by
    refine ⟨e.members.values, ?_, ?_⟩
    · rw [Event.lineBytes, List.dropLast_concat]
      exact e.ofBytes?_json
    · rw [Event.lookup_slot (slots_lookup hf e).1, Option.map_map]
      rfl
  datum service time requestId := by
    refine ⟨_, e.trace.recorded.data.values, e.read?_line service time requestId, rfl, ?_⟩
    have recorded : e.trace.recorded.data.lookup field.label =
        (e.traceFields.lookup field.label).map Trace.scalar :=
      (lookup_perm e.perm_recorded_trace e.nodup_recorded_trace).trans (lookup_map_snd ..)
    rw [Json.lookup_values, recorded, Event.traceFields_eq, lookup_present e.nodup_traceSlots,
      (slots_lookup hf e).2, Option.join_some, Option.map_map, Option.map_map]
    rfl

theorem holds_of_eventAt {σ : Type} {p : Pipeline σ} (hf : field ∈ headerFields) {req : Request} {res : Response}
    {now : Instant} {id : Uuid} {e : Event} (h : p.eventAt req res now id = some e) :
    field.Holds e ((req.headers.values field.name).head?.map HeaderValue.lossy) := by
  unfold Pipeline.eventAt at h
  cases hr : Exchange.read req res now with
  | error _ =>
    rw [hr] at h
    cases h
  | ok built =>
    rw [hr] at h
    obtain rfl := Option.some.inj h
    have holds := holds_get hf (Event.assemble built.1 p.service id)
    rwa [show field.get (Event.assemble built.1 p.service id).toExchange = _ from get_of_read hf hr] at holds

end HeaderField

theorem Headers.head?_values_isSome_iff (h : Headers) (name : HeaderName) :
    (h.values name).head?.isSome = true ↔ ∃ v, (name, v) ∈ h.entries := by
  rw [List.isSome_head?, values]
  simp

/-- The fifteen headers have names and fields of their own. In every event that is made, a field is there exactly if its
header was sent; it holds the first value, character for character where that is UTF-8; and with the same values of its
header, it stays the same whatever else of the request and the response changes. -/
theorem header_fields_pass_through {σ : Type} (p : Pipeline σ) (req : Request) (res : Response) (s : Scene σ)
    {e : Event} (made : (p.createEvent req res s).1 = some e) :
    (headerFields.map HeaderField.name).Nodup ∧ (headerFields.map HeaderField.key).Nodup ∧
    (headerFields.map HeaderField.label).Nodup ∧
    ∀ field ∈ headerFields,
      let sent := req.headers.values field.name
      HeaderName.parse? field.spelling = some field.name ∧
      field.Holds e (sent.head?.map HeaderValue.lossy) ∧
      ((field.get e.toExchange).isSome = true ↔ ∃ v, (field.name, v) ∈ req.headers.entries) ∧
      (∀ text rest, sent = ⟨utf8 text⟩ :: rest → field.Holds e (some text)) ∧
      ∀ (req' : Request) (res' : Response), req'.receivedAt = req.receivedAt →
        req'.headers.values field.name = sent →
        ∃ e', (p.createEvent req' res' s).1 = some e' ∧ field.Holds e' (field.get e.toExchange) := by
  obtain ⟨names, keys, labels⟩ := HeaderField.names_apart
  refine ⟨names, keys, labels, fun field hf => ?_⟩
  rw [p.createEvent_eq_eventAt] at made
  have holds := HeaderField.holds_of_eventAt hf made
  refine ⟨HeaderField.parse?_spelling field hf, holds, ?_, fun text rest hs => ?_, fun req' res' at_ same => ?_⟩
  · rw [holds.value_eq, Option.isSome_map, Headers.head?_values_isSome_iff]
  · rw [hs] at holds
    simpa [HeaderValue.lossy] using holds
  · have dated : Exchange.Dated req' (p.clock s.own).1 := by
      have := (p.eventAt_isSome_iff ..).mp (Option.isSome_of_eq_some made)
      rwa [Exchange.Dated, at_]
    obtain ⟨e', made'⟩ := Option.isSome_iff_exists.mp
      ((p.eventAt_isSome_iff req' res' _ s.eventIds.next.1).mpr dated)
    refine ⟨e', (p.createEvent_eq_eventAt req' res' s).trans made', ?_⟩
    have holds' := HeaderField.holds_of_eventAt hf made'
    rwa [same, ← holds.value_eq] at holds'

/-- A header that is sent twice, one that is sent empty, and one that is not sent; then all others are taken away. -/
theorem header_fields_pass_through_repeated :
    let p : Pipeline (List Sighting) := { clock := fun own => (⟨1000000⟩, own), sink := .recording }
    let hosts := [(HeaderName.host, HeaderValue.mk (utf8 "één")), (.host, ⟨utf8 "two"⟩)]
    let req := Request.received .get .root ⟨hosts ++ [(.referer, ⟨[]⟩)]⟩ ⟨0⟩
    let scene := plainScene.withOwn []
    ∃ e e', (p.createEvent req (Response.empty .ok) scene).1 = some e ∧
      e.host = some "één" ∧ e.referer = some "" ∧ e.accept.isSome = false ∧
      (p.createEvent (.received .get .root ⟨hosts⟩ ⟨0⟩) (Response.empty .notFound) scene).1 = some e' ∧
      e'.host = some "één" := by
  intro p hosts req scene
  have dated : Exchange.Dated req (p.clock scene.own).1 := by decide
  obtain ⟨e, _, made, -⟩ := p.createEvent_of_dated (Response.empty .ok) dated
  have made : (p.createEvent req (Response.empty .ok) scene).1 = some e := congrArg Prod.fst made
  obtain ⟨-, -, -, pass⟩ := header_fields_pass_through p req (Response.empty .ok) scene made
  let host : HeaderField := ⟨"Host", .host, Exchange.host, "headerHost", "header_host"⟩
  let referer : HeaderField := ⟨"Referer", .referer, Exchange.referer, "referer", "referer"⟩
  let accept : HeaderField := ⟨"Accept", .accept, Exchange.accept, "headerAccept", "header_accept"⟩
  obtain ⟨-, -, -, first, alone⟩ := pass host (by simp [headerFields, host])
  obtain ⟨-, -, -, empty, -⟩ := pass referer (by simp [headerFields, referer])
  obtain ⟨-, -, sent, -⟩ := pass accept (by simp [headerFields, accept])
  have absent : ¬ ∃ v, (accept.name, v) ∈ req.headers.entries := by
    simp [accept, req, hosts, Request.received, HeaderName.accept, HeaderName.host, HeaderName.referer]
  obtain ⟨e', made', holds⟩ := alone (.received .get .root ⟨hosts⟩ ⟨0⟩) (Response.empty .notFound) rfl rfl
  have first := (first "één" [⟨utf8 "two"⟩] rfl).value_eq
  exact ⟨e, e', made, first, (empty "" [] rfl).value_eq, Bool.eq_false_iff.mpr (mt sent.mp absent), made',
    holds.value_eq.trans first⟩

end AccessLog
