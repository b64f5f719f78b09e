import AccessLog.Trace
import AccessLog.Uuid.Parser

/-!
# Request identifiers

The identifier that a response carries for the exchange. A value that is no identifier is reported and then
treated as if there were none.
-/

namespace AccessLog

structure MalformedRequestId where
  raw : String
  cause : Uuid.ParseError
  deriving DecidableEq, Repr

namespace MalformedRequestId

def message (e : MalformedRequestId) : String :=
  "unable to parse purported request id '" ++ e.raw ++ "': " ++ e.cause.message

def warning (e : MalformedRequestId) : Trace :=
  .note .requestId .warn "Unable to parse purported request id"
    [("raw", .shown e.raw), ("error", .shown e.cause.message)]

end MalformedRequestId

namespace RequestId

def parse : Option String → Except MalformedRequestId (Option Uuid)
  | none => .ok none
  | some raw =>
    match Uuid.parse raw with
    | .ok id => .ok (some id)
    | .error cause => .error ⟨raw, cause⟩

/-- The identifier if there is one to read, and the warning if there is one to give. -/
def read (raw : Option String) : Option Uuid × List Trace :=
  match parse raw with
  | .ok id => (id, [])
  | .error e => (none, [e.warning])

end RequestId

end AccessLog
