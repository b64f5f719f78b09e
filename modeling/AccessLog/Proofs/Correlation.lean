import AccessLog.Chain
import AccessLog.Proofs.Pipeline
import AccessLog.Proofs.Plain
import AccessLog.Proofs.RequestId

/-!
# One identifier for an exchange

Where both hooks stand around a handler, the identifier that the response leaves with is the one of the event and
the one that the sink finds in the diagnostic context. It is the one that the request named, or else a new one.
-/

namespace AccessLog

open Diagnostic (requestIdKey)

variable {σ : Type}

theorem Chain.ofHooks_pair {a b : Hook σ} (h : a.priority < b.priority) :
    Chain.ofHooks [a, b] = ⟨[a, b]⟩ ∧ Chain.ofHooks [b, a] = ⟨[a, b]⟩ := by
  have hb : ¬ b.priority ≤ a.priority := by omega
  have ha : a.priority ≤ b.priority := by omega
  constructor <;> simp [ofHooks, add, empty, List.mergeSort, ha, hb]

namespace RequestIdHook

theorem resolve_of_names {req : Request} {u : Uuid} (h : req.headers.Names u) (s : Scene σ) :
    resolve req s = (u, s) := by
  rw [resolve, h.parse_eq]

theorem resolve_of_not_names {req : Request} (h : ∀ u, ¬ req.headers.Names u) (s : Scene σ) :
    (resolve req s).1 = s.freshRequestId.1 ∧
      (resolve req s).2.requestIds = s.freshRequestId.2.requestIds := by
  unfold resolve
  split
  · case h_1 id hp => exact absurd (Headers.names_of_parse hp) (h id)
  · exact ⟨rfl, rfl⟩
  · exact ⟨rfl, rfl⟩

theorem stamp_of_unnamed {res : Response} {ctx : Context} {id : Uuid}
    (hr : res.headers.contains HeaderName.requestId = false) (hc : ctx.get? Uuid key = some id) :
    stamp res ctx =
      { res with headers := res.headers.insert HeaderName.requestId ⟨utf8 id.text⟩ } := by
  rw [stamp, hr, hc]
  rfl

end RequestIdHook

namespace Pipeline

theorem log_ok (p : Pipeline σ) {req : Request} (res : Response) {s : Scene σ}
    (hp : p.blacklist.shouldLog req.path = true) (hr : req.receivedAt.inCalendar = true)
    (hn : req.receivedAt.nanos ≤ (p.clock s.own).1.nanos ∨ (p.clock s.own).1.inCalendar = true) :
    ∃ e start, e.requestId = (RequestId.read (Exchange.purportedId res)).1 ∧
      start.context.get requestIdKey = some e.correlationId.text ∧
      start.own = (p.clock s.own).2 ∧
      (p.log req res s).1 = (if (p.sink e start).1 = .returned then some .emitted else none) ∧
      (p.log req res s).2.own = (p.sink e start).2.own := by
  obtain ⟨e, built, hb, ho, hid⟩ := p.createEvent_of_dated res ⟨hr, hn⟩
  have hx := p.emit_enclosed e built
  refine ⟨e, opening e built, hid, hx.shown, hx.start_own.trans ho, ?_⟩
  rw [log_of_built hp hb, ← hx.after_own, ← p.emit_outcome e built]
  exact ⟨rfl, rfl⟩

end Pipeline

namespace RequestLogHook

theorem onResponse_of_kept (p : Pipeline σ) (res : Response) {ctx : Context} {req : Request} (s : Scene σ)
    (hk : ctx.get? Request key = some req) :
    onResponse p res ctx s = ((p.log req res s).1.map fun _ => res, (p.log req res s).2) := by
  simp only [onResponse, hk]
  generalize p.log req res s = done
  obtain ⟨outcome, after⟩ := done
  cases outcome <;> rfl

theorem onResponse_of_not_kept (p : Pipeline σ) (res : Response) {ctx : Context} (s : Scene σ)
    (hk : ctx.get? Request key = none) :
    onResponse p res ctx s = (some res, s.note (skipNote (.missingRequest name))) := by
  rw [onResponse, hk]

theorem eq_of_onResponse {p : Pipeline σ} {res answer : Response} {ctx : Context} {s : Scene σ}
    (h : (onResponse p res ctx s).1 = some answer) : answer = res := by
  cases hk : ctx.get? Request key with
  | none =>
    rw [onResponse_of_not_kept p res s hk] at h
    exact (Option.some.inj h).symm
  | some req =>
    rw [onResponse_of_kept p res s hk] at h
    obtain ⟨outcome, -, rfl⟩ := Option.map_eq_some_iff.mp h
    rfl

end RequestLogHook

def identifyingChain (p : Pipeline σ) : Chain (Scene σ) :=
  ⟨[RequestLogHook.hook p, RequestIdHook.hook]⟩

namespace identifyingChain

variable (p : Pipeline σ) {req : Request} {res : Response} {ctx : Context} {s : Scene σ}

theorem eq_of_ofHooks {chain : Chain (Scene σ)}
    (h : chain = Chain.ofHooks [RequestIdHook.hook, RequestLogHook.hook p] ∨
      chain = Chain.ofHooks [RequestLogHook.hook p, RequestIdHook.hook]) :
    chain = identifyingChain p := by
  have hp : (RequestLogHook.hook p).priority < (RequestIdHook.hook (σ := σ)).priority :=
    show (-90 : Int) < -50 by decide
  rcases h with rfl | rfl
  · exact (Chain.ofHooks_pair hp).2
  · exact (Chain.ofHooks_pair hp).1

theorem get?_id (req : Request) (ctx : Context) (s : Scene σ) :
    ((identifyingChain p).onRequest req ctx s).1.get? Uuid RequestIdHook.key =
      some (RequestIdHook.resolve req s).1 := Context.get?_set_self ..

theorem get?_request (req : Request) (ctx : Context) (s : Scene σ) :
    ((identifyingChain p).onRequest req ctx s).1.get? Request RequestLogHook.key = some req :=
  (Context.get?_set_of_ne _ _ (by decide)).trans (Context.get?_set_self ..)

theorem onResponse_eq (res : Response) (ctx : Context) (s : Scene σ) :
    (identifyingChain p).onResponse res ctx s =
      RequestLogHook.onResponse p (RequestIdHook.stamp res ctx) ctx s := by
  have hr : (identifyingChain p).hooks.reverse = [RequestIdHook.hook, RequestLogHook.hook p] := rfl
  rw [Chain.onResponse, hr]
  simp only [Chain.responseThrough, RequestIdHook.hook, RequestLogHook.hook]
  generalize RequestLogHook.onResponse p (RequestIdHook.stamp res ctx) ctx s = done
  obtain ⟨answer, after⟩ := done
  cases answer <;> rfl

theorem answer_eq (unnamed : res.headers.contains HeaderName.requestId = false) {answer : Response}
    {s₀ : Scene σ}
    (h : ((identifyingChain p).onResponse res ((identifyingChain p).onRequest req ctx s₀).1 s).1 =
      some answer) :
    let value : HeaderValue := ⟨utf8 (RequestIdHook.resolve req s₀).1.text⟩
    answer = { res with headers := res.headers.insert HeaderName.requestId value } := by
  rw [onResponse_eq] at h
  exact (RequestLogHook.eq_of_onResponse h).trans
    (RequestIdHook.stamp_of_unnamed unnamed (get?_id p req ctx s₀))

end identifyingChain

theorem Response.read_of_names {res : Response} {id : Uuid} (h : res.headers.Names id) :
    RequestId.read (Exchange.purportedId res) = (some id, []) := by
  have hp : RequestId.parse (Exchange.purportedId res) = .ok (some id) := h.parse_eq
  rw [RequestId.read, hp]

/-- An exchange that is to be logged and whose instants can be written, with a response that has no identifier
of its own. -/
structure Loggable (p : Pipeline σ) (req : Request) (res : Response) (s : Scene σ) : Prop where
  unnamed : res.headers.contains HeaderName.requestId = false
  logged : p.blacklist.shouldLog req.path = true
  dated : req.receivedAt.inCalendar = true
  clocked : req.receivedAt.nanos ≤ (p.clock s.own).1.nanos ∨ (p.clock s.own).1.inCalendar = true

/-- How an exchange ends under an identifier: its sink is called once, and if that returns, the response comes out
with the identifier as the only change. -/
structure Identified (p : Pipeline σ) (id : Uuid) (text : String) (res : Response) (s : Scene σ)
    (ended : Option Response × Scene σ) : Prop where
  handed : ∃ e start, e.requestId = some id ∧ start.context.get requestIdKey = some text ∧
    start.own = (p.clock s.own).2 ∧ ended.2.own = (p.sink e start).2.own ∧
    (ended.1.isSome ↔ (p.sink e start).1 = .returned)
  answer_eq : ∀ answer, ended.1 = some answer →
    answer = { res with headers := res.headers.insert HeaderName.requestId ⟨utf8 text⟩ }
  values_eq : ∀ answer, ended.1 = some answer →
    answer.headers.values HeaderName.requestId = [⟨utf8 text⟩]

theorem identifyingChain.values_eq (p : Pipeline σ) {req : Request} {res : Response} {ctx : Context}
    {s₀ s : Scene σ} (unnamed : res.headers.contains HeaderName.requestId = false) {answer : Response}
    (h : ((identifyingChain p).onResponse res ((identifyingChain p).onRequest req ctx s₀).1 s).1 =
      some answer) :
    answer.headers.values HeaderName.requestId = [⟨utf8 (RequestIdHook.resolve req s₀).1.text⟩] := by
  rw [identifyingChain.answer_eq p unnamed h]
  exact Headers.values_insert_self ..

theorem identifyingChain.identified {p : Pipeline σ} {req : Request} {res : Response} {s : Scene σ}
    (h : Loggable p req res s) (ctx : Context) (s₀ : Scene σ) :
    let id := (RequestIdHook.resolve req s₀).1
    Identified p id id.text res s
      ((identifyingChain p).onResponse res ((identifyingChain p).onRequest req ctx s₀).1 s) := by
  intro id
  refine ⟨?_, fun answer => answer_eq p h.unnamed, fun answer => values_eq p h.unnamed⟩
  let begun := (identifyingChain p).onRequest req ctx s₀
  let stamped := RequestIdHook.stamp res begun.1
  have hs : stamped = _ := RequestIdHook.stamp_of_unnamed h.unnamed (get?_id p req ctx s₀)
  have hn : stamped.headers.Names id := by
    refine Headers.names_of_canonical id.canonical_text ?_
    rw [hs]
    exact Headers.get?_insert_self ..
  obtain ⟨e, start, he, hc, ho, hout, hown⟩ := p.log_ok stamped h.logged h.dated h.clocked
  rw [Response.read_of_names hn] at he
  have hid : e.correlationId = id := by rw [Event.correlationId, he]; rfl
  refine ⟨e, start, he, hid ▸ hc, ho, ?_⟩
  rw [onResponse_eq, RequestLogHook.onResponse_of_kept p stamped s (get?_request p req ctx s₀),
    Option.isSome_map, hout]
  refine ⟨hown, ?_⟩
  by_cases hr : (p.sink e start).1 = .returned
  · simp [hr]
  · simp [hr]

theorem identifyingChain.isSome_of_blacklisted (p : Pipeline σ) {req : Request} (res : Response)
    (ctx : Context) (s₀ s : Scene σ) (h : p.blacklist.shouldLog req.path = false) :
    ((identifyingChain p).onResponse res
      ((identifyingChain p).onRequest req ctx s₀).1 s).1.isSome = true := by
  rw [onResponse_eq, RequestLogHook.onResponse_of_kept p _ s (get?_request p req ctx s₀), Pipeline.log,
    if_neg (by simp [h])]
  rfl

/-- The account of an exchange, from its request in `s₀` to its response in `s`, whatever happens in between. The
last part is about any other exchange whose request carries the value. -/
theorem exchange_identified {p : Pipeline σ} {chain : Chain (Scene σ)}
    (both : chain = Chain.ofHooks [RequestIdHook.hook, RequestLogHook.hook p] ∨
      chain = Chain.ofHooks [RequestLogHook.hook p, RequestIdHook.hook])
    {req : Request} {res : Response} {s : Scene σ} (h : Loggable p req res s) (ctx : Context)
    (s₀ : Scene σ) :
    let begun := chain.onRequest req ctx s₀
    ∃ id text, id.Canonical text ∧
      (∀ u, req.headers.Names u → id = u) ∧
      ((∀ u, ¬ req.headers.Names u) →
        id = s₀.freshRequestId.1 ∧ begun.2.requestIds = s₀.freshRequestId.2.requestIds) ∧
      Identified p id text res s (chain.onResponse res begun.1 s) ∧
      ∀ next other context s₁ s₂,
        next.headers.get? HeaderName.requestId = some ⟨utf8 text⟩ →
        let following := chain.onResponse other (chain.onRequest next context s₁).1 s₂
        (Loggable p next other s₂ → Identified p id text other s₂ following) ∧
        (p.blacklist.shouldLog next.path = false → following.1.isSome) ∧
        (other.headers.contains HeaderName.requestId = false → ∀ answer, following.1 = some answer →
          answer.headers.values HeaderName.requestId = [⟨utf8 text⟩]) := by
  obtain rfl := identifyingChain.eq_of_ofHooks p both
  intro begun
  let id := (RequestIdHook.resolve req s₀).1
  refine ⟨id, id.text, id.canonical_text, ?_, RequestIdHook.resolve_of_not_names (s := s₀),
    identifyingChain.identified h ctx s₀, ?_⟩
  · intro u hu
    show (RequestIdHook.resolve req s₀).1 = u
    rw [RequestIdHook.resolve_of_names hu s₀]
  · intro next other context s₁ s₂ hv following
    have hn := Headers.names_of_canonical id.canonical_text hv
    have hr : (RequestIdHook.resolve next s₁).1 = id := by rw [RequestIdHook.resolve_of_names hn s₁]
    refine ⟨?_, identifyingChain.isSome_of_blacklisted p other context s₁ s₂, ?_⟩
    · intro hl
      exact hr ▸ identifyingChain.identified hl context s₁
    · intro hu answer ha
      exact hr ▸ identifyingChain.values_eq p hu ha

def recordingAt (now : Instant) : Pipeline (List Sighting) where
  clock own := (now, own)
  sink := Sink.recording

def requestNaming (value : String) (at_ : Instant) : Request :=
  .received .get .root ⟨[(HeaderName.requestId, ⟨utf8 value⟩)]⟩ at_

theorem exchange_identified_braced :
    let p := recordingAt ⟨1000000⟩
    let chain := Chain.ofHooks [RequestIdHook.hook, RequestLogHook.hook p]
    let req := requestNaming "\x7b3FA85F64-5717-4562-B3FC-2C963F66AFA6\x7d" ⟨0⟩
    let scene := plainScene.withOwn []
    ∃ answer, (chain.onResponse (Response.empty .ok) (chain.onRequest req .empty scene).1 scene).1 =
        some answer ∧
      answer.headers.values HeaderName.requestId = [⟨utf8 "3fa85f64-5717-4562-b3fc-2c963f66afa6"⟩] := by
  intro p chain req scene
  let u : Uuid := { value := 0x3fa85f6457174562b3fc2c963f66afa6 }
  let digits := "3FA85F6457174562B3FC2C963F66AFA6".toList
  have hb : (utf8 "\x7b3FA85F64-5717-4562-B3FC-2C963F66AFA6\x7d").map Uuid.byteChar =
      '\x7b' :: (Uuid.grouped digits ++ ['\x7d']) := by decide +kernel
  have hd : u.Digits digits := ⟨by decide, Uuid.forall_mem_of_all (by decide), by decide +kernel⟩
  have named : req.headers.Names u := ⟨_, rfl, hb ▸ .braced hd⟩
  have loggable : Loggable p req (.empty .ok) scene := ⟨rfl, rfl, by decide, .inl (by decide)⟩
  obtain ⟨id, text, hc, hid, -, hi, -⟩ := exchange_identified (.inl rfl) loggable .empty scene
  obtain rfl := hid u named
  have ht : text = "3fa85f64-5717-4562-b3fc-2c963f66afa6" := hc.eq_text.trans (by decide +kernel)
  obtain ⟨e, start, -, -, -, -, hout⟩ := hi.handed
  obtain ⟨answer, ha⟩ := Option.isSome_iff_exists.mp (hout.mpr rfl)
  exact ⟨answer, ha, ht ▸ hi.values_eq answer ha⟩

/-- A request that came in when the calendar was over gets no response. -/
theorem exchange_lost_after_calendar :
    let p := recordingAt (.ofSeconds (Calendar.lastSecond + 2) 0)
    let chain := Chain.ofHooks [RequestIdHook.hook, RequestLogHook.hook p]
    let req := requestNaming "3fa85f64-5717-4562-b3fc-2c963f66afa6"
      (.ofSeconds (Calendar.lastSecond + 1) 0)
    let res := Response.empty .ok
    let scene := plainScene.withOwn []
    p.blacklist.shouldLog req.path = true ∧ res.headers.contains HeaderName.requestId = false ∧
      (chain.onResponse res (chain.onRequest req .empty scene).1 scene).1 = none := by
  intro p chain req res scene
  refine ⟨rfl, rfl, ?_⟩
  rw [show chain = identifyingChain p from identifyingChain.eq_of_ofHooks p (.inl rfl),
    identifyingChain.onResponse_eq,
    RequestLogHook.onResponse_of_kept p _ scene (identifyingChain.get?_request p req .empty scene)]
  rfl

end AccessLog
