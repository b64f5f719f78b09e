import AccessLog.Calendar
import AccessLog.Http.Request
import AccessLog.Http.Response
import AccessLog.RequestId

/-!
# Exchanges

What is read from a finished exchange: a request, the response to it, and the instant at which the response
left. Reading has no effect besides the traces it gives, and fails only where an instant lies outside the
calendar.
-/

namespace AccessLog

namespace HeaderName

def userAgent : HeaderName := ⟨"user-agent"⟩
def acceptLanguage : HeaderName := ⟨"accept-language"⟩
def referer : HeaderName := ⟨"referer"⟩
def host : HeaderName := ⟨"host"⟩
def accept : HeaderName := ⟨"accept"⟩
def forwardedFor : HeaderName := ⟨"x-forwarded-for"⟩
def forwardedPort : HeaderName := ⟨"x-forwarded-port"⟩
def forwardedProto : HeaderName := ⟨"x-forwarded-proto"⟩
def anonymousId : HeaderName := ⟨"ot-anonymousid"⟩
def referringHost : HeaderName := ⟨"ot-referringhost"⟩
def referringService : HeaderName := ⟨"ot-referringservice"⟩
def sessionId : HeaderName := ⟨"ot-sessionid"⟩
def userId : HeaderName := ⟨"ot-userid"⟩
def domain : HeaderName := ⟨"ot-domain"⟩
def originalUri : HeaderName := ⟨"ot-originaluri"⟩

def requestId : HeaderName := ⟨"ot-requestid"⟩

end HeaderName

/-- An instant outside the calendar was to be written as a date. -/
structure OutOfCalendar where
  instant : Instant
  deriving DecidableEq, Repr

structure Exchange where
  timestamp : Instant
  method : String
  url : String
  urlQuery : Option String
  status : Nat
  durationMicros : Nat
  bodySize : Option Nat
  responseSize : Option Nat
  requestId : Option Uuid
  userId : Option String
  sessionId : Option String
  referringHost : Option String
  referringService : Option String
  domain : Option String
  anonymousId : Option String
  userAgent : Option String
  acceptLanguage : Option String
  referer : Option String
  remoteAddress : Option String
  originalUri : Option String
  host : Option String
  accept : Option String
  forwardedFor : Option String
  forwardedPort : Option String
  forwardedProto : Option String
  deriving DecidableEq, Repr

namespace Exchange

/-- An empty query is no query. -/
def givenQuery (query : Option String) : Option String := query.filter (· ≠ "")

def fullUrl (path : String) (query : Option String) : String :=
  match givenQuery query with
  | some q => path ++ "?" ++ q
  | none => path

def bodySizeOf (contentLength : Int) : Option Nat :=
  if 0 < contentLength then some contentLength.toNat else none

def responseSizeOf (contentCount : Int) : Option Nat :=
  if 0 ≤ contentCount then some contentCount.toNat else none

def clockWarning (start now : Instant) : Trace :=
  .note .exchange .warn "Clock is behind request start, clamping duration to zero"
    [("start", .shown start.exactText), ("now", .shown now.exactText),
     ("behind_micros", .unsigned (now.microsUntil start % (longestMicros + 1)))]

/-- Whole microseconds from `start` to `now`, at most the longest duration. A clock that was set back
gives zero and a warning, for which both instants have to be in the calendar. -/
def elapsed (start now : Instant) : Except OutOfCalendar (Nat × List Trace) :=
  if start.nanos ≤ now.nanos then .ok (min (start.microsUntil now) longestMicros, [])
  else if !start.inCalendar then .error ⟨start⟩
  else if !now.inCalendar then .error ⟨now⟩
  else .ok (0, [clockWarning start now])

def headerText (req : Request) (name : HeaderName) : Option String :=
  (req.headers.get? name).map HeaderValue.lossy

def purportedId (res : Response) : Option String := res.header HeaderName.requestId.text

def read (req : Request) (res : Response) (now : Instant) :
    Except OutOfCalendar (Exchange × List Trace) :=
  if !req.receivedAt.inCalendar then .error ⟨req.receivedAt⟩
  else match elapsed req.receivedAt now with
  | .error e => .error e
  | .ok (micros, clockNotes) =>
    let (id, idNotes) := RequestId.read (purportedId res)
    let text := headerText req
    .ok
      ({ timestamp := req.receivedAt
         method := req.method.name
         url := fullUrl req.path req.query
         urlQuery := givenQuery req.query
         status := res.status.code
         durationMicros := micros
         bodySize := bodySizeOf req.contentLength
         responseSize := responseSizeOf res.contentCount
         requestId := id
         userId := text .userId
         sessionId := text .sessionId
         referringHost := text .referringHost
         referringService := text .referringService
         domain := text .domain
         anonymousId := text .anonymousId
         userAgent := text .userAgent
         acceptLanguage := text .acceptLanguage
         referer := text .referer
         remoteAddress := req.remote.map (·.ip.text)
         originalUri := text .originalUri
         host := text .host
         accept := text .accept
         forwardedFor := text .forwardedFor
         forwardedPort := text .forwardedPort
         forwardedProto := text .forwardedProto },
       clockNotes ++ idNotes)

end Exchange

end AccessLog
