import AccessLog.Chain

/-!
# The host

Answers requests, with the hooks of a chain around every exchange. An exchange begins with its request,
waits for the body, and ends when the answer has gone through the chain; between its beginning and its end other
exchanges may proceed. `/health` tells that the host is alive, `/metrics` shows the counters, and anything
else is echoed.
-/

namespace AccessLog

inductive Arrival where
  | whole (body : Bytes)
  | broken (reason : String)
  deriving DecidableEq, Repr

def Arrival.lost : Arrival := .broken "error reading a body from connection"

structure Incoming where
  method : Method
  target : Target
  headers : Headers
  version : HttpVersion := .http11
  remote : SocketAddress

structure Underway where
  request : Request
  context : Context

structure Host (σ : Type) where
  chain : Chain (Scene σ)
  /-- Whether `/metrics` has counters to show. -/
  exposesCounters : Bool := false

namespace Host

variable {σ : Type}

def snapshot (i : Incoming) (at_ : Instant) : Request :=
  { Request.received i.method i.target i.headers at_ with version := i.version, remote := some i.remote }

def begin (h : Host σ) (i : Incoming) (at_ : Instant) (s : Scene σ) : Underway × Scene σ :=
  let req := snapshot i at_
  let (context, s) := h.chain.onRequest req Context.empty s
  (⟨req, context⟩, s)

def jsonType : String := "application/json"

def expositionType : String := "text/plain; version=0.0.4"

def echo (req : Request) (body : Bytes) : Members :=
  [("bytes", .integer body.length),
   ("method", .text req.method.name),
   ("path", .text req.path),
   ("query", match req.query with | some q => .text q | none => .null)]

def document (contentType body : String) : Response :=
  { ({} : Response.Builder).header "Content-Type" contentType with body := utf8 body }.build

def isHealth (req : Request) : Bool := req.method.name == "GET" && req.path == "/health"

def isMetrics (req : Request) : Bool := req.method.name == "GET" && req.path == "/metrics"

def route (h : Host σ) (req : Request) (body : Bytes) (counters : Counters) : Response :=
  if isHealth req then document jsonType "\x7b\"status\":\"ok\"\x7d"
  else if isMetrics req then
    if h.exposesCounters then document expositionType counters.exportText
    else Response.empty .notFound
  else document jsonType (echo req body).text

def unreadable : Response :=
  Response.Builder.build { status := .badRequest, body := utf8 "Failed to read request body" }

def bodyNote (reason : String) : Trace :=
  .note .host .debug "Failed to read request body" [("error", .shown reason)]

/-- The answer of the handler, before the chain has seen it. -/
def answer (h : Host σ) (req : Request) (arrival : Arrival) (s : Scene σ) : Response × Scene σ :=
  match arrival with
  | .whole body => (h.route req body s.counters, s)
  | .broken reason =>
    (unreadable, s.note (bodyNote reason))

/-- Ends an exchange. Nothing is sent when a hook unwinds. -/
def finish (h : Host σ) (u : Underway) (arrival : Arrival) (s : Scene σ) :
    Option Response × Scene σ :=
  let (res, s) := h.answer u.request arrival s
  h.chain.onResponse res u.context s

def serve (h : Host σ) (i : Incoming) (arrival : Arrival) (at_ : Instant) (s : Scene σ) :
    Option Response × Scene σ :=
  let (u, s) := h.begin i at_ s
  h.finish u arrival s

/-- The body bytes that travel to the client: none in answer to `HEAD`, nor to a successful `CONNECT`. -/
def sentBody (method : Method) (res : Response) : Bytes :=
  if method = Method.head ∨ (method = Method.connect ∧ res.status.isSuccess) then [] else res.body

def drainNote : Trace := .note .host .info "Draining open connections"

end Host

end AccessLog
