import AccessLog.Context
import AccessLog.Pipeline

/-!
# Hooks around a handler

A hook sees the request before the handler and the response after it. The hooks of a chain are ordered by
priority: lower values see the request earlier and the response later, and hooks of one priority keep the
order in which they were added.
-/

namespace AccessLog

/-- A hook may use and change a state of type `σ`; at the response it may unwind. -/
structure Hook (σ : Type) where
  name : String
  priority : Int := 0
  onRequest : Request → Context → σ → Context × σ := fun _ c s => (c, s)
  onResponse : Response → Context → σ → Option Response × σ := fun r _ s => (some r, s)

structure Chain (σ : Type) where
  hooks : List (Hook σ)

namespace Chain

variable {σ : Type}

def empty : Chain σ := ⟨[]⟩

/-- Adds a hook behind those of the same priority. -/
def add (c : Chain σ) (h : Hook σ) : Chain σ :=
  ⟨(c.hooks ++ [h]).mergeSort fun a b => a.priority ≤ b.priority⟩

def ofHooks (hooks : List (Hook σ)) : Chain σ := hooks.foldl add empty

def names (c : Chain σ) : List String := c.hooks.map (·.name)

def requestThrough (req : Request) : List (Hook σ) → Context → σ → Context × σ
  | [], ctx, s => (ctx, s)
  | h :: rest, ctx, s =>
    let (ctx, s) := h.onRequest req ctx s
    requestThrough req rest ctx s

def responseThrough (ctx : Context) : List (Hook σ) → Response → σ → Option Response × σ
  | [], res, s => (some res, s)
  | h :: rest, res, s =>
    match h.onResponse res ctx s with
    | (some res, s) => responseThrough ctx rest res s
    | (none, s) => (none, s)

def onRequest (c : Chain σ) (req : Request) (ctx : Context) (s : σ) : Context × σ :=
  requestThrough req c.hooks ctx s

/-- Each hook receives the response that the one before it returned. -/
def onResponse (c : Chain σ) (res : Response) (ctx : Context) (s : σ) : Option Response × σ :=
  responseThrough ctx c.hooks.reverse res s

end Chain

inductive HookError where
  | missingRequest (hook : String)
  deriving DecidableEq, Repr

def HookError.message : HookError → String
  | .missingRequest hook => "missing request snapshot for " ++ hook

namespace RequestIdHook

def key : String := "request_id"

def replaceNote (e : MalformedRequestId) : Trace :=
  .note .requestIdHook .debug "Replacing invalid incoming request id" [("raw", .shown e.raw)]

def resolve {σ : Type} (req : Request) (s : Scene σ) : Uuid × Scene σ :=
  match RequestId.parse (req.headers.lookup HeaderName.requestId.text) with
  | .ok (some id) => (id, s)
  | .ok none => s.freshRequestId
  | .error e => (s.note (replaceNote e)).freshRequestId

/-- Sets the identifier, unless the response has one of its own. -/
def stamp (res : Response) (ctx : Context) : Response :=
  if res.headers.contains HeaderName.requestId then res
  else match ctx.get? Uuid key with
  | some id => { res with headers := res.headers.insert HeaderName.requestId ⟨utf8 id.text⟩ }
  | none => res

def hook {σ : Type} : Hook (Scene σ) where
  name := "request_id"
  priority := -50
  onRequest req ctx s :=
    let (id, s) := resolve req s
    (ctx.set key id, s)
  onResponse res ctx s := (some (stamp res ctx), s)

end RequestIdHook

namespace RequestLogHook

def name : String := "request_log"

def key : String := "request_log.request"

def skipNote (e : HookError) : Trace :=
  .note .requestLogHook .error "Request log skipped" [("error", .shown e.message)]

/-- Logs the exchange with the request that was kept, and leaves the response as it is. -/
def onResponse {σ : Type} (p : Pipeline σ) (res : Response) (ctx : Context) (s : Scene σ) :
    Option Response × Scene σ :=
  match ctx.get? Request key with
  | none => (some res, s.note (skipNote (.missingRequest name)))
  | some req =>
    match p.log req res s with
    | (some _, s) => (some res, s)
    | (none, s) => (none, s)

def hook {σ : Type} (p : Pipeline σ) : Hook (Scene σ) where
  name := name
  priority := -90
  onRequest req ctx s := (ctx.set key req, s)
  onResponse := onResponse p

end RequestLogHook

end AccessLog
