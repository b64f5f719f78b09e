import AccessLog.Proofs.Calendar
import AccessLog.Proofs.Json.Reader
import AccessLog.Proofs.Lines
import AccessLog.Proofs.Uuid

/-!
# The line of an event

The JSON text of an event is one line whatever its values are, and that line is read back as the event, to the
millisecond. What stands in a value can neither end the line nor add a key.
-/

namespace AccessLog

def present {α : Type} (slots : List (String × Option α)) : List (String × α) :=
  slots.flatMap fun slot => Event.optional slot.1 id slot.2

section Present

variable {α β : Type} {slots : List (String × Option α)} {key : String}

theorem optional_eq (key : String) (wrap : α → β) (o : Option α) :
    Event.optional key wrap o = Event.optional key id (o.map wrap) := by
  cases o <;> rfl

theorem present_cons (slot : String × Option α) (slots : List (String × Option α)) :
    present (slot :: slots) = Event.optional slot.1 id slot.2 ++ present slots := rfl

theorem mem_present {a : α} : (key, a) ∈ present slots ↔ (key, some a) ∈ slots := by
  simp only [present, List.mem_flatMap]
  constructor
  · rintro ⟨⟨k, o⟩, hs, hm⟩
    cases o with
    | none => simp [Event.optional] at hm
    | some b =>
      obtain ⟨rfl, rfl⟩ : key = k ∧ a = b := by simpa [Event.optional] using hm
      exact hs
  · intro hs
    exact ⟨_, hs, List.mem_singleton_self _⟩

theorem keys_present (slots : List (String × Option α)) : (present slots).map (·.1) =
    ((slots.map fun slot => (slot.1, slot.2.isSome)).filter (·.2)).map (·.1) := by
  induction slots with
  | nil => rfl
  | cons slot slots ih =>
    obtain ⟨k, o⟩ := slot
    rw [present_cons, List.map_append, ih]
    cases o <;> rfl

theorem nodup_keys_present (h : (slots.map (·.1)).Nodup) : ((present slots).map (·.1)).Nodup := by
  rw [keys_present]
  refine List.Nodup.sublist (List.filter_sublist.map _) ?_
  simpa [List.map_map, Function.comp_def] using h

theorem lookup_eq_none (l : List (String × α)) (h : key ∉ l.map (·.1)) : l.lookup key = none := by
  rw [List.lookup_eq_none_iff]
  intro m hm
  simp only [bne_iff_ne]
  rintro rfl
  exact h (List.mem_map_of_mem hm)

theorem lookup_map_snd (f : α → β) (l : List (String × α)) :
    (l.map fun m => (m.1, f m.2)).lookup key = (l.lookup key).map f := by
  induction l with
  | nil => rfl
  | cons m rest ih =>
    rw [List.map_cons, List.lookup_cons, List.lookup_cons, ih]
    cases key == m.1 <;> rfl

theorem lookup_present (h : (slots.map (·.1)).Nodup) :
    (present slots).lookup key = (slots.lookup key).join := by
  induction slots with
  | nil => rfl
  | cons slot slots ih =>
    obtain ⟨k, o⟩ := slot
    obtain ⟨hk, hn⟩ := List.nodup_cons.mp h
    rw [present_cons, List.lookup_cons]
    by_cases he : key = k
    · subst he
      have hnone : (present slots).lookup key = none := by
        refine lookup_eq_none _ fun hm => hk ?_
        obtain ⟨⟨_, a⟩, ha, rfl⟩ := List.mem_map.mp hm
        exact List.mem_map.mpr ⟨_, mem_present.mp ha, rfl⟩
      cases o with
      | none => simpa [Event.optional] using hnone
      | some a => simp [Event.optional]
    · have hb : (key == k) = false := by simp [he]
      cases o with
      | none => simpa [Event.optional, hb] using ih hn
      | some a => simpa [Event.optional, hb, List.lookup_cons] using ih hn

end Present

namespace Json

/-- The value that the bytes denote, if they are JSON in UTF-8. -/
def ofBytes? (bytes : Bytes) : Option Value := (textOfBytes? bytes).bind read?

namespace Value

def text? : Value → Option String
  | .text s => some s
  | _ => none

def natural? : Value → Option Nat
  | .number (.ofNat n) 0 => some n
  | _ => none

def identifier? (v : Value) : Option Uuid := v.text?.bind fun s => (Uuid.parse s).toOption

def instant? (v : Value) : Option Instant := v.text?.bind Instant.ofMillisText?

end Value

section Fields

variable {α : Type} (members : List (String × Value)) (key : String) (read : Value → Option α)

def required : Option α := (members.lookup key).bind read

def allowed : Option (Option α) :=
  match members.lookup key with
  | none => some none
  | some v => (read v).map some

end Fields

theorem lookup_values (members : Members) (key : String) :
    members.values.lookup key = (members.lookup key).map Scalar.value :=
  lookup_map_snd Scalar.value members

theorem identifier?_text (id : Uuid) : Value.identifier? (.text id.text) = some id := by
  simp [Value.identifier?, Value.text?, Uuid.parse_text, Except.toOption]

theorem instant?_text (t : Instant) : Value.instant? (.text t.millisText) = some t.floorMillis := by
  rw [Value.instant?, Value.text?, Option.bind_some, Instant.ofMillisText?_millisText]

theorem ofBytes?_utf8 (s : String) : ofBytes? (utf8 s) = read? s := by
  rw [ofBytes?, textOfBytes?_utf8, Option.bind_some]

theorem newline_notMem_of_visible {s : List Char} (h : Visible s) : 10 ∉ utf8 (String.ofList s) := by
  intro hn
  have hc := newline_mem_utf8 hn
  rw [String.toList_ofList] at hc
  exact absurd (h '\n' hc) (by decide)

end Json

namespace Event

open Json (Value required allowed)

/-- Every key that an event can have, with its value if there is one. -/
def slots (e : Event) : List (String × Option Scalar) := [
  ("logName", some (.text logName)),
  ("serviceType", e.serviceType.map .text),
  ("eventId", some (.text e.eventId.text)),
  ("timestamp", some (.text e.timestampText)),
  ("message", some (.text e.message)),
  ("method", some (.text e.method)),
  ("url", some (.text e.url)),
  ("urlQuerystring", e.urlQuery.map .text),
  ("status", some (.integer e.status)),
  ("incoming", some (.flag e.incoming)),
  ("durationMicros", some (.integer e.durationMicros)),
  ("bodySize", e.bodySize.map fun n : Nat => .integer n),
  ("responseSize", e.responseSize.map fun n : Nat => .integer n),
  ("requestId", e.requestId.map fun id : Uuid => .text id.text),
  ("userId", e.userId.map .text),
  ("sessionId", e.sessionId.map .text),
  ("referringHost", e.referringHost.map .text),
  ("referringService", e.referringService.map .text),
  ("domain", e.domain.map .text),
  ("anonymousId", e.anonymousId.map .text),
  ("userAgent", e.userAgent.map .text),
  ("acceptLanguage", e.acceptLanguage.map .text),
  ("referer", e.referer.map .text),
  ("remoteAddress", e.remoteAddress.map .text),
  ("headerOtOriginaluri", e.originalUri.map .text),
  ("headerHost", e.host.map .text),
  ("headerAccept", e.accept.map .text),
  ("headerXForwardedFor", e.forwardedFor.map .text),
  ("headerXForwardedPort", e.forwardedPort.map .text),
  ("headerXForwardedProto", e.forwardedProto.map .text)]

theorem members_eq (e : Event) : e.members = present e.slots := by
  simp only [members, optional_eq (α := String), optional_eq (α := Nat), optional_eq (α := Uuid)]
  rfl

theorem nodup_slots (e : Event) : (e.slots.map (·.1)).Nodup := by
  simp [slots]

def presence (e : Event) : List (String × Bool) := [
  ("logName", true),
  ("serviceType", e.serviceType.isSome),
  ("eventId", true),
  ("timestamp", true),
  ("message", true),
  ("method", true),
  ("url", true),
  ("urlQuerystring", e.urlQuery.isSome),
  ("status", true),
  ("incoming", true),
  ("durationMicros", true),
  ("bodySize", e.bodySize.isSome),
  ("responseSize", e.responseSize.isSome),
  ("requestId", e.requestId.isSome),
  ("userId", e.userId.isSome),
  ("sessionId", e.sessionId.isSome),
  ("referringHost", e.referringHost.isSome),
  ("referringService", e.referringService.isSome),
  ("domain", e.domain.isSome),
  ("anonymousId", e.anonymousId.isSome),
  ("userAgent", e.userAgent.isSome),
  ("acceptLanguage", e.acceptLanguage.isSome),
  ("referer", e.referer.isSome),
  ("remoteAddress", e.remoteAddress.isSome),
  ("headerOtOriginaluri", e.originalUri.isSome),
  ("headerHost", e.host.isSome),
  ("headerAccept", e.accept.isSome),
  ("headerXForwardedFor", e.forwardedFor.isSome),
  ("headerXForwardedPort", e.forwardedPort.isSome),
  ("headerXForwardedProto", e.forwardedProto.isSome)]

theorem slots_presence (e : Event) :
    e.slots.map (fun slot => (slot.1, slot.2.isSome)) = e.presence := by
  simp [slots, presence]

theorem slots_exact (e : Event) :
    ∀ slot ∈ e.slots, ∀ v ∈ slot.2, v.Exact ∧ v.value ≠ .null := by
  simp [slots, Scalar.Exact, Scalar.value]

theorem lookup_slot {e : Event} {key : String} {o : Option Scalar}
    (h : e.slots.lookup key = some o) : e.members.values.lookup key = o.map Scalar.value := by
  rw [Json.lookup_values, members_eq, lookup_present e.nodup_slots, h]
  rfl

theorem required_slot {e : Event} {key : String} {v : Scalar} {α : Type} {read : Value → Option α}
    {a : α} (h : e.slots.lookup key = some (some v)) (hr : read v.value = some a) :
    required e.members.values key read = some a := by
  rw [required, lookup_slot h, Option.map_some, Option.bind_some, hr]

theorem allowed_slot {e : Event} {key : String} {α : Type} {read : Value → Option α}
    {wrap : α → Scalar} {o : Option α} (h : e.slots.lookup key = some (o.map wrap))
    (hr : ∀ a, read (wrap a).value = some a) : allowed e.members.values key read = some o := by
  rw [allowed, lookup_slot h]
  cases o with
  | none => rfl
  | some a => simp [hr]

/-- The event with its timestamp cut to the millisecond. -/
def toMillis (e : Event) : Event := { e with timestamp := e.timestamp.floorMillis }

def ofMembers? (members : List (String × Json.Value)) : Option Event := do
  let timestamp ← required members "timestamp" Value.instant?
  let method ← required members "method" Value.text?
  let url ← required members "url" Value.text?
  let urlQuery ← allowed members "urlQuerystring" Value.text?
  let status ← required members "status" Value.natural?
  let durationMicros ← required members "durationMicros" Value.natural?
  let bodySize ← allowed members "bodySize" Value.natural?
  let responseSize ← allowed members "responseSize" Value.natural?
  let requestId ← allowed members "requestId" Value.identifier?
  let userId ← allowed members "userId" Value.text?
  let sessionId ← allowed members "sessionId" Value.text?
  let referringHost ← allowed members "referringHost" Value.text?
  let referringService ← allowed members "referringService" Value.text?
  let domain ← allowed members "domain" Value.text?
  let anonymousId ← allowed members "anonymousId" Value.text?
  let userAgent ← allowed members "userAgent" Value.text?
  let acceptLanguage ← allowed members "acceptLanguage" Value.text?
  let referer ← allowed members "referer" Value.text?
  let remoteAddress ← allowed members "remoteAddress" Value.text?
  let originalUri ← allowed members "headerOtOriginaluri" Value.text?
  let host ← allowed members "headerHost" Value.text?
  let accept ← allowed members "headerAccept" Value.text?
  let forwardedFor ← allowed members "headerXForwardedFor" Value.text?
  let forwardedPort ← allowed members "headerXForwardedPort" Value.text?
  let forwardedProto ← allowed members "headerXForwardedProto" Value.text?
  let serviceType ← allowed members "serviceType" Value.text?
  let eventId ← required members "eventId" Value.identifier?
  return {
    timestamp, method, url, urlQuery, status, durationMicros, bodySize, responseSize, requestId
    userId, sessionId, referringHost, referringService, domain, anonymousId, userAgent
    acceptLanguage, referer, remoteAddress, originalUri, host, accept, forwardedFor
    forwardedPort, forwardedProto, serviceType, eventId }

theorem ofMembers?_values (e : Event) : ofMembers? e.members.values = some e.toMillis := by
  have text : ∀ key o, e.slots.lookup key = some (o.map .text) →
      allowed e.members.values key Value.text? = some o :=
    fun key o h => allowed_slot h fun _ => rfl
  have natural : ∀ key (o : Option Nat), e.slots.lookup key = some (o.map fun n => .integer n) →
      allowed e.members.values key Value.natural? = some o :=
    fun key o h => allowed_slot h fun _ => rfl
  have identifier : ∀ key (o : Option Uuid),
      e.slots.lookup key = some (o.map fun id => .text id.text) →
      allowed e.members.values key Value.identifier? = some o :=
    fun key o h => allowed_slot h Json.identifier?_text
  have textual : ∀ key s, e.slots.lookup key = some (some (.text s)) →
      required e.members.values key Value.text? = some s :=
    fun key s h => required_slot h rfl
  have counted : ∀ key (n : Nat), e.slots.lookup key = some (some (.integer n)) →
      required e.members.values key Value.natural? = some n :=
    fun key n h => required_slot h rfl
  have timestamp : required e.members.values "timestamp" Value.instant? =
      some e.timestamp.floorMillis :=
    required_slot rfl (Json.instant?_text e.timestamp)
  have eventId : required e.members.values "eventId" Value.identifier? = some e.eventId :=
    required_slot rfl (Json.identifier?_text e.eventId)
  simp only [ofMembers?, timestamp, textual "method" _ rfl, textual "url" _ rfl,
    text "urlQuerystring" _ rfl, counted "status" _ rfl, counted "durationMicros" _ rfl,
    natural "bodySize" _ rfl, natural "responseSize" _ rfl, identifier "requestId" _ rfl,
    text "userId" _ rfl, text "sessionId" _ rfl, text "referringHost" _ rfl,
    text "referringService" _ rfl, text "domain" _ rfl, text "anonymousId" _ rfl,
    text "userAgent" _ rfl, text "acceptLanguage" _ rfl, text "referer" _ rfl,
    text "remoteAddress" _ rfl, text "headerOtOriginaluri" _ rfl, text "headerHost" _ rfl,
    text "headerAccept" _ rfl, text "headerXForwardedFor" _ rfl,
    text "headerXForwardedPort" _ rfl, text "headerXForwardedProto" _ rfl,
    text "serviceType" _ rfl, eventId]
  rfl

theorem members_exact (e : Event) : ∀ m ∈ e.members, m.2.Exact ∧ m.2.value ≠ .null := by
  intro m hm
  rw [members_eq] at hm
  exact e.slots_exact _ (mem_present.mp hm) _ rfl

theorem read?_json (e : Event) : Json.read? e.json = some (.object e.members.values) :=
  Json.read?_members fun m hm => (e.members_exact m hm).1

theorem newline_notMem_json (e : Event) : 10 ∉ utf8 e.json :=
  Json.newline_notMem_of_visible (Json.visible_members fun m hm => (e.members_exact m hm).1)

theorem ofBytes?_json (e : Event) :
    Json.ofBytes? (utf8 e.json) = some (.object e.members.values) := by
  rw [Json.ofBytes?_utf8, read?_json]

theorem utf8_json_ne_nil (e : Event) : utf8 e.json ≠ [] := by
  intro h
  have hj := e.ofBytes?_json
  rw [h] at hj
  have hn : Json.ofBytes? [] = none := by decide
  rw [hn] at hj
  cases hj

/-- The members are those of the event: its own keys once each, none of them null, and with values that tell
the event to the millisecond. -/
structure Denoted (e : Event) (members : List (String × Value)) : Prop where
  keys_eq : members.map (·.1) = (e.presence.filter (·.2)).map (·.1)
  keys_nodup : (members.map (·.1)).Nodup
  no_null : ∀ m ∈ members, m.2 ≠ .null
  log_name : members.lookup "logName" = some (.text "request")
  message : members.lookup "message" = some (.text e.message)
  incoming : members.lookup "incoming" = some (.flag true)
  described : ofMembers? members = some e.toMillis

theorem denoted_values (e : Event) : e.Denoted e.members.values := by
  have hk : e.members.values.map (·.1) = (present e.slots).map (·.1) := by
    rw [Members.values, List.map_map, members_eq]
    rfl
  have value : ∀ key v, e.slots.lookup key = some (some v) →
      e.members.values.lookup key = some v.value :=
    fun key v h => lookup_slot h
  constructor
  · rw [hk, keys_present, slots_presence]
  · rw [hk]
    exact nodup_keys_present e.nodup_slots
  · intro m hm
    obtain ⟨own, ho, rfl⟩ := List.mem_map.mp hm
    exact (e.members_exact own ho).2
  · exact value _ (.text logName) rfl
  · exact value _ (.text e.message) rfl
  · exact value _ (.flag true) rfl
  · exact e.ofMembers?_values

theorem toMillis_eq_of_lineBytes_eq {e e' : Event} (h : e.lineBytes = e'.lineBytes) :
    e.toMillis = e'.toMillis := by
  have hb : utf8 e.json = utf8 e'.json := List.append_cancel_right h
  have hv : some (Json.Value.object e.members.values) = some (.object e'.members.values) := by
    rw [← ofBytes?_json, ← ofBytes?_json, hb]
  have hm : e.members.values = e'.members.values := by simpa using hv
  have := e.ofMembers?_values
  rw [hm, e'.ofMembers?_values] at this
  exact (Option.some.inj this).symm

/-- Whatever stands in an exchange, its event is one line, which tells that event and no other. -/
theorem line_denotes (exchange : Exchange) (service : Service) (id : Uuid) :
    let e := Event.assemble exchange service id
    (∀ (around : Scene Unit) (before : Bytes),
      let x := Emission.of e
        (around.withOwn { value := { toBehaviour := .willing, written := before } })
      x.Clean ∧ x.accepted = e.lineBytes) ∧
    (∃ body members, e.lineBytes = body ++ [10] ∧ 10 ∉ body ∧
      Json.ofBytes? body = some (.object members) ∧ e.Denoted members) ∧
    ∀ other : Event, other.toMillis ≠ e.toMillis → other.lineBytes ≠ e.lineBytes := by
  intro e
  refine ⟨?_, ?_, ?_⟩
  · intro around before
    exact Emission.of_willing e _ rfl rfl
  · exact ⟨utf8 e.json, e.members.values, rfl, e.newline_notMem_json, e.ofBytes?_json,
      e.denoted_values⟩
  · intro other hne h
    exact hne (toMillis_eq_of_lineBytes_eq h)

end Event

end AccessLog
