import AccessLog.Exchange
import AccessLog.Summary
import AccessLog.Text.Quoted

/-!
# Events

The report of one exchange. It is written in two forms: as a JSON object of its own, and as a trace, whose
fields end up in a line of the log. Values that are absent are left out of both.
-/

namespace AccessLog

structure Event extends Exchange where
  serviceType : Option String
  eventId : Uuid
  deriving DecidableEq, Repr

/-- What the service says about itself on every event. -/
structure Service where
  serviceType : Option String := none
  deriving DecidableEq, Repr

def Service.debugText (s : Service) : String :=
  "ServiceInfo \x7b service_type: " ++ quotedOption s.serviceType ++ " \x7d"

namespace Event

def logName : String := "request"

def assemble (exchange : Exchange) (service : Service) (id : Uuid) : Event :=
  { exchange with serviceType := service.serviceType, eventId := id }

def incoming (_ : Event) : Bool := true

/-- The identifier of the exchange if it has one, else of the event. -/
def correlationId (e : Event) : Uuid := e.requestId.getD e.eventId

def timestampText (e : Event) : String := e.timestamp.millisText

def summary (e : Event) : Summary :=
  ⟨e.method, e.url, e.status, e.responseSize, e.durationMicros⟩

def message (e : Event) : String := e.summary.text

def optional {α β : Type} (key : String) (wrap : α → β) : Option α → List (String × β)
  | some a => [(key, wrap a)]
  | none => []

def members (e : Event) : Members :=
  List.flatten [
    [("logName", .text logName)],
    optional "serviceType" .text e.serviceType,
    [("eventId", .text e.eventId.text),
     ("timestamp", .text e.timestampText),
     ("message", .text e.message),
     ("method", .text e.method),
     ("url", .text e.url)],
    optional "urlQuerystring" .text e.urlQuery,
    [("status", .integer e.status),
     ("incoming", .flag e.incoming),
     ("durationMicros", .integer e.durationMicros)],
    optional "bodySize" (fun n : Nat => .integer n) e.bodySize,
    optional "responseSize" (fun n : Nat => .integer n) e.responseSize,
    optional "requestId" (fun id : Uuid => .text id.text) e.requestId,
    optional "userId" .text e.userId,
    optional "sessionId" .text e.sessionId,
    optional "referringHost" .text e.referringHost,
    optional "referringService" .text e.referringService,
    optional "domain" .text e.domain,
    optional "anonymousId" .text e.anonymousId,
    optional "userAgent" .text e.userAgent,
    optional "acceptLanguage" .text e.acceptLanguage,
    optional "referer" .text e.referer,
    optional "remoteAddress" .text e.remoteAddress,
    optional "headerOtOriginaluri" .text e.originalUri,
    optional "headerHost" .text e.host,
    optional "headerAccept" .text e.accept,
    optional "headerXForwardedFor" .text e.forwardedFor,
    optional "headerXForwardedPort" .text e.forwardedPort,
    optional "headerXForwardedProto" .text e.forwardedProto]

def json (e : Event) : String := e.members.text

def traceFields (e : Event) : List (String × FieldValue) :=
  List.flatten [
    [("log_name", .text logName)],
    optional "service_type" .text e.serviceType,
    [("event_id", .shown e.eventId.text),
     ("timestamp", .shown e.timestampText),
     ("method", .text e.method),
     ("url", .text e.url)],
    optional "url_querystring" .text e.urlQuery,
    [("status", .unsigned e.status),
     ("incoming", .flag e.incoming),
     ("duration_micros", .unsigned e.durationMicros)],
    optional "body_size" .unsigned e.bodySize,
    optional "response_size" .unsigned e.responseSize,
    optional "request_id" (fun id : Uuid => .text id.text) e.requestId,
    optional "user_id" .text e.userId,
    optional "session_id" .text e.sessionId,
    optional "referring_host" .text e.referringHost,
    optional "referring_service" .text e.referringService,
    optional "domain" .text e.domain,
    optional "anonymous_id" .text e.anonymousId,
    optional "user_agent" .text e.userAgent,
    optional "accept_language" .text e.acceptLanguage,
    optional "referer" .text e.referer,
    optional "remote_address" .text e.remoteAddress,
    optional "header_ot_originaluri" .text e.originalUri,
    optional "header_host" .text e.host,
    optional "header_accept" .text e.accept,
    optional "header_x_forwarded_for" .text e.forwardedFor,
    optional "header_x_forwarded_port" .text e.forwardedPort,
    optional "header_x_forwarded_proto" .text e.forwardedProto]

def trace (e : Event) : Trace :=
  { level := .info
    target := Trace.accessTarget
    fields := (Trace.messageName, .shown e.message) :: e.traceFields }

end Event

end AccessLog
