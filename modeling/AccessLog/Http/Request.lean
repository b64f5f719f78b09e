import AccessLog.Address
import AccessLog.Decimal.Reader
import AccessLog.Http.Header
import AccessLog.Http.Method
import AccessLog.Http.Target
import AccessLog.Instant
import AccessLog.Text.Blank

/-!
# Requests

A request as it was when it came in: all that is logged about it, without its body.
-/

namespace AccessLog

/-- A negative content length is unknown. -/
structure Request where
  method : Method
  target : Target
  headers : Headers
  version : HttpVersion
  contentLength : Int
  receivedAt : Instant
  remote : Option SocketAddress

namespace HeaderName

def contentLength : HeaderName := ⟨"content-length"⟩

end HeaderName

namespace Request

def unknownLength : Int := -1

/-- The number in the first `Content-Length`; unknown if there is none to read. -/
def declaredLength (headers : Headers) : Int :=
  match (headers.get? HeaderName.contentLength).bind HeaderValue.visible? with
  | none => unknownLength
  | some s =>
    match (IntegerRange.signed 64).read (Text.trim s.toList) with
    | .ok n => n
    | .error _ => unknownLength

def received (method : Method) (target : Target) (headers : Headers) (at_ : Instant) : Request :=
  { method, target, headers
    version := .http11
    contentLength := declaredLength headers
    receivedAt := at_
    remote := none }

def path (r : Request) : String := r.target.path

def query (r : Request) : Option String := r.target.query

end Request

end AccessLog
