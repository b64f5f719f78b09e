import AccessLog.Blacklist
import AccessLog.Sink

/-!
# The pipeline

What happens to a finished exchange. If its path is not to be logged, that is counted and nothing else
happens. Otherwise its event is built, and handed to the sink with its identifier in the diagnostic context
and inside a span of its own; both are taken back when the sink is done, whether it returned or not.
-/

namespace AccessLog

/-- Built once and used for every exchange. The clock may change what the pipeline owns, like the sink. -/
structure Pipeline (σ : Type) where
  blacklist : Blacklist := .empty
  service : Service := {}
  clock : σ → Instant × σ
  sink : Sink σ
  counted : Bool := false

inductive LogOutcome where
  | blacklisted
  | emitted
  deriving DecidableEq, Repr

namespace Pipeline

variable {σ : Type}

def countIf (p : Pipeline σ) (f : Counters → Counters) (s : Scene σ) : Scene σ :=
  if p.counted then s.count f else s

def readClock (p : Pipeline σ) (s : Scene σ) : Instant × Scene σ :=
  let (now, own) := p.clock s.own
  (now, { s with own })

/-- Builds the event of an exchange, whatever its path; nothing when that unwinds, which for a request from
outside the calendar is before the clock is read. An identifier that was sent but could not be read is counted. -/
def createEvent (p : Pipeline σ) (req : Request) (res : Response) (s : Scene σ) :
    Option Event × Scene σ :=
  if !req.receivedAt.inCalendar then (none, s)
  else
    let (now, s) := p.readClock s
    match Exchange.read req res now with
    | .error _ => (none, s)
    | .ok (exchange, warnings) =>
      let (id, s) := (s.notes warnings).freshEventId
      let event := Event.assemble exchange p.service id
      let malformed := (Exchange.purportedId res).isSome && event.requestId.isNone
      (some event, if malformed then p.countIf Counters.countMalformed s else s)

def emissionSpan (e : Event) : Span := ⟨"request_log", [("request_id", e.correlationId.text)]⟩

/-- Hands an event to the sink, and counts it when the sink returns. -/
def emit (p : Pipeline σ) (e : Event) (s : Scene σ) : Outcome × Scene σ :=
  let outer := s.inside
  let s := s.enterSpan (emissionSpan e)
  let (guard, context) := s.context.enter Diagnostic.requestIdKey e.correlationId.text
  let (outcome, s) := p.sink e { s with context }
  let s := match outcome with
    | .returned => p.countIf Counters.countEmitted s
    | .unwound => s
  (outcome, { s with context := s.context.release guard, inside := outer })

/-- Runs the pipeline for an exchange; nothing when that unwinds. -/
def log (p : Pipeline σ) (req : Request) (res : Response) (s : Scene σ) :
    Option LogOutcome × Scene σ :=
  if p.blacklist.shouldLog req.path then
    match p.createEvent req res s with
    | (none, s) => (none, s)
    | (some event, s) =>
      match p.emit event s with
      | (.returned, s) => (some .emitted, s)
      | (.unwound, s) => (none, s)
  else (some .blacklisted, p.countIf Counters.countBlacklisted s)

def debugText (p : Pipeline σ) : String :=
  "RequestLog \x7b blacklist: " ++ p.blacklist.debugText ++ ", service: " ++ p.service.debugText
    ++ ", metrics: " ++ (if p.counted then "true" else "false") ++ ", .. \x7d"

end Pipeline

end AccessLog
