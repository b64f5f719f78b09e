import AccessLog.Json

/-!
# Traces

What the program tells about itself: a level, a target that says which part speaks, and named fields. A line of
the log is written from a trace, the name of the service and the identifier that the diagnostic context
holds at that moment.
-/

namespace AccessLog

inductive Level where
  | trace
  | debug
  | info
  | warn
  | error
  deriving DecidableEq, Repr

namespace Level

/-- The word in a line; the two lowest levels share one. -/
def word : Level → String
  | .trace => "debug"
  | .debug => "debug"
  | .info => "info"
  | .warn => "warn"
  | .error => "error"

def gravity : Level → Nat
  | .trace => 0
  | .debug => 1
  | .info => 2
  | .warn => 3
  | .error => 4

end Level

/-- The value of a field: given as text, shown by its text, or a scalar. -/
inductive FieldValue where
  | text (s : String)
  | shown (s : String)
  | signed (n : Int)
  | unsigned (n : Nat)
  | real (x : Float)
  | flag (b : Bool)

structure Trace where
  level : Level
  target : String
  fields : List (String × FieldValue)

namespace Trace

def accessTarget : String := "access"

def messageName : String := "message"

/-- The textual fields, of which the one called `message` is the message of a line. -/
def textual? : FieldValue → Option String
  | .text s => some s
  | .shown s => some s
  | _ => none

def scalar : FieldValue → Scalar
  | .text s => .text s
  | .shown s => .text s
  | .signed n => .integer n
  | .unsigned n => .integer n
  | .real x => .real x
  | .flag b => .flag b

def insertSorted (name : String) (value : Scalar) : Members → Members
  | [] => [(name, value)]
  | (n, v) :: rest =>
    if name = n then (name, value) :: rest
    else if name < n then (name, value) :: (n, v) :: rest
    else (n, v) :: insertSorted name value rest

structure Recorded where
  message : Option String
  data : Members

def record (r : Recorded) (field : String × FieldValue) : Recorded :=
  if field.1 = messageName ∧ (textual? field.2).isSome then
    { r with message := textual? field.2 }
  else { r with data := insertSorted field.1 (scalar field.2) r.data }

def recorded (t : Trace) : Recorded := t.fields.foldl record ⟨none, []⟩

def kind (t : Trace) : String :=
  if t.target = accessTarget then "access" else if t.level = .error then "error" else "app"

def contextMembers (service : String) (requestId : Option String) : Members :=
  ("service", .text service) ::
    match requestId with
    | some id => [("request_id", .text id)]
    | none => []

def members (t : Trace) (service time : String) (requestId : Option String) :
    List (String × Json) :=
  let r := t.recorded
  [("ts", .scalar (.text time)),
   ("level", .scalar (.text t.level.word)),
   ("type", .scalar (.text t.kind)),
   ("msg", .scalar (.text (r.message.getD ""))),
   ("ctx", .object (contextMembers service requestId)),
   ("data", .object r.data)]

def line (t : Trace) (service time : String) (requestId : Option String) : String :=
  Json.documentText (t.members service time requestId)

inductive Part where
  | program
  | settings
  | host
  | requestIdHook
  | requestLogHook
  | exchange
  | requestId
  | sink
  deriving DecidableEq, Repr

/-- The target under which a part speaks; those of all parts begin like that of the program. -/
def Part.target : Part → String
  | .program => "request_log"
  | .settings => "request_log::config"
  | .host => "request_log::server"
  | .requestIdHook => "request_log::middleware::request_id"
  | .requestLogHook => "request_log::middleware::access_log"
  | .exchange => "request_log::request_log::fields"
  | .requestId => "request_log::request_log::request_id"
  | .sink => "request_log::request_log::sink"

def note (part : Part) (level : Level) (message : String)
    (fields : List (String × FieldValue) := []) : Trace :=
  { level, target := part.target, fields := fields ++ [(messageName, .text message)] }

end Trace

end AccessLog
