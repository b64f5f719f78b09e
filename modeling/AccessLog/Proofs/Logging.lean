import AccessLog.App
import AccessLog.Proofs.Logged
import AccessLog.Proofs.Unaltered

/-!
# Hosts that log

The chain of such a host has the hook of a pipeline, perhaps with the hook that gives identifiers. An exchange settles
its identifier when it begins. When it ends, its answer gets the identifier, and then the pipeline runs once.
-/

namespace AccessLog

variable {σ τ : Type}

/-- What pipelines read is the same in two scenes. -/
structure Scene.Steady (before after : Scene σ) : Prop where
  own_eq : after.own = before.own
  counters_eq : after.counters = before.counters
  eventIds_eq : after.eventIds = before.eventIds

theorem Scene.Steady.trans {a b c : Scene σ} (ab : a.Steady b) (bc : b.Steady c) : a.Steady c where
  own_eq := bc.own_eq.trans ab.own_eq
  counters_eq := bc.counters_eq.trans ab.counters_eq
  eventIds_eq := bc.eventIds_eq.trans ab.eventIds_eq

def Response.identified (res : Response) : Option Uuid → Response
  | some id => { res with headers := res.headers.insert HeaderName.requestId ⟨utf8 id.text⟩ }
  | none => res

@[simp] theorem Response.status_identified (res : Response) (id : Option Uuid) :
    (res.identified id).status = res.status := by cases id <;> rfl

@[simp] theorem Response.body_identified (res : Response) (id : Option Uuid) :
    (res.identified id).body = res.body := by cases id <;> rfl

@[simp] theorem Response.contentCount_identified (res : Response) (id : Option Uuid) :
    (res.identified id).contentCount = res.contentCount := by cases id <;> rfl

theorem Response.Alike.identified {a b : Response} {whole : Bool} (h : a.Alike whole b) (id : Option Uuid) :
    (a.identified id).Alike whole (b.identified id) := by
  cases id with
  | none => exact h
  | some id =>
    exact
      { status_eq := h.status_eq
        headers_eq := congrArg (·.insert HeaderName.requestId ⟨utf8 id.text⟩) h.headers_eq
        whole_eq := fun hw => by rw [h.whole_eq hw] }

theorem Headers.get?_of_not_contains {h : Headers} {name : HeaderName} (hc : h.contains name = false) :
    h.get? name = none := by
  have none : h.entries.filter (·.1 = name) = [] := by
    simpa [contains, List.filter_eq_nil_iff] using hc
  rw [get?, values, none]
  rfl

namespace Host

/-- A host that logs with a pipeline, and gives identifiers if `identifies`. -/
def logging (p : Pipeline σ) (identifies exposesCounters : Bool) : Host σ where
  chain := .ofHooks ((if identifies then [RequestIdHook.hook] else []) ++ [RequestLogHook.hook p])
  exposesCounters := exposesCounters

def loggingHooks (p : Pipeline σ) (identifies : Bool) : List (Hook (Scene σ)) :=
  RequestLogHook.hook p :: if identifies then [RequestIdHook.hook] else []

theorem ofHooks_loggingHooks (p : Pipeline σ) (identifies : Bool) :
    Chain.ofHooks ((if identifies then [RequestIdHook.hook] else []) ++ [RequestLogHook.hook p]) =
        ⟨loggingHooks p identifies⟩ ∧
      Chain.ofHooks (loggingHooks p identifies) = ⟨loggingHooks p identifies⟩ := by
  have hp : (RequestLogHook.hook p).priority < (RequestIdHook.hook (σ := σ)).priority :=
    show (-90 : Int) < -50 by decide
  cases identifies with
  | false => simp [loggingHooks, Chain.ofHooks, Chain.add, Chain.empty]
  | true => exact (Chain.ofHooks_pair hp).symm

theorem logging_eq (p : Pipeline σ) (identifies exposesCounters : Bool) :
    logging p identifies exposesCounters = ⟨⟨loggingHooks p identifies⟩, exposesCounters⟩ := by
  unfold logging
  rw [(ofHooks_loggingHooks p identifies).1]

def settled (identifies : Bool) (req : Request) (s : Scene σ) : Option Uuid :=
  if identifies then some (RequestIdHook.resolve req s).1 else none

structure Keeps (u : Underway) (req : Request) (id : Option Uuid) : Prop where
  request_eq : u.request = req
  kept : u.context.get? Request RequestLogHook.key = some req
  settled : u.context.get? Uuid RequestIdHook.key = id

theorem settled_congr {identifies : Bool} {req : Request} {s : Scene σ} {s' : Scene τ}
    (h : s.requestIds.next.1 = s'.requestIds.next.1) :
    settled identifies req s = settled identifies req s' := by
  unfold settled RequestIdHook.resolve
  cases RequestId.parse (req.headers.lookup HeaderName.requestId.text) with
  | error e => exact congrArg (fun id => if identifies then some id else none) h
  | ok found =>
    cases found with
    | none => exact congrArg (fun id => if identifies then some id else none) h
    | some id => rfl

theorem steady_resolve (req : Request) (s : Scene σ) : s.Steady (RequestIdHook.resolve req s).2 := by
  unfold RequestIdHook.resolve
  split <;> exact ⟨rfl, rfl, rfl⟩

/-- All that can be answered to a request whose body has come. -/
theorem route_cases (h : Host σ) (req : Request) (body : Bytes) (counters : Counters) :
    (isMetrics req = true ∧ h.exposesCounters = true ∧
      h.route req body counters = document expositionType counters.exportText) ∨
    (∃ text, h.route req body counters = document jsonType text) ∨
    h.route req body counters = .empty .notFound := by
  unfold route
  by_cases health : isHealth req = true
  · rw [if_pos health]
    exact .inr (.inl ⟨_, rfl⟩)
  · rw [if_neg health]
    by_cases metrics : isMetrics req = true
    · rw [if_pos metrics]
      by_cases shown : h.exposesCounters = true
      · exact .inl ⟨metrics, shown, if_pos shown⟩
      · exact .inr (.inr (if_neg shown))
    · exact .inr (.inl ⟨_, if_neg metrics⟩)

theorem body_document (contentType body : String) : (document contentType body).body = utf8 body := rfl

/-- The count of the response is that of its body, and it carries no identifier. -/
structure Fresh (res : Response) : Prop where
  counted : res.contentCount = Response.countOf res.body
  unnamed : res.headers.contains HeaderName.requestId = false

theorem fresh_document {contentType : String} (known : contentType ∈ [jsonType, expositionType])
    (body : String) : Fresh (document contentType body) where
  counted := rfl
  unnamed := by
    have unnamed : ∀ contentType ∈ [jsonType, expositionType],
        (document contentType "").headers.contains HeaderName.requestId = false := by decide
    exact unnamed contentType known

theorem fresh_answer (h : Host σ) (req : Request) (arrival : Arrival) (s : Scene σ) :
    Fresh (h.answer req arrival s).1 := by
  cases arrival with
  | broken reason => exact ⟨rfl, rfl⟩
  | whole body =>
    show Fresh (h.route req body s.counters)
    rcases h.route_cases req body s.counters with ⟨-, -, ha⟩ | ⟨text, ha⟩ | ha
    · rw [ha]
      exact fresh_document (by simp) _
    · rw [ha]
      exact fresh_document (by simp) _
    · rw [ha]
      exact ⟨rfl, rfl⟩

theorem answer_steady (h : Host σ) (req : Request) (arrival : Arrival) (s : Scene σ) :
    s.Steady (h.answer req arrival s).2 := by
  cases arrival with
  | whole body => exact ⟨rfl, rfl, rfl⟩
  | broken reason => exact ⟨rfl, rfl, rfl⟩

/-- The answer of the handler with the identifier of the exchange, which began in `s₀`. -/
def response (h : Host σ) (identifies : Bool) (i : Incoming) (at_ : Instant) (arrival : Arrival)
    (s₀ s : Scene σ) : Response :=
  (h.answer (snapshot i at_) arrival s).1.identified (settled identifies (snapshot i at_) s₀)

theorem not_misnames_response (h : Host σ) (identifies : Bool) (i : Incoming) (at_ : Instant)
    (arrival : Arrival) (s₀ s : Scene σ) :
    ¬ (h.response identifies i at_ arrival s₀ s).headers.Misnames := by
  apply Headers.not_misnames_of_named
  have unnamed := (h.fresh_answer (snapshot i at_) arrival s).unnamed
  unfold response Response.identified
  cases settled identifies (snapshot i at_) s₀ with
  | none => exact .inl (Headers.get?_of_not_contains unnamed)
  | some id => exact .inr ⟨id, Headers.names_of_canonical id.canonical_text (Headers.get?_insert_self ..)⟩

theorem answer_congr {h : Host σ} {h' : Host τ} (hx : h.exposesCounters = h'.exposesCounters) (req : Request)
    (arrival : Arrival) {s : Scene σ} {s' : Scene τ} (hc : s.counters = s'.counters) :
    (h.answer req arrival s).1 = (h'.answer req arrival s').1 := by
  cases arrival with
  | broken reason => rfl
  | whole body =>
    show h.route req body s.counters = h'.route req body s'.counters
    unfold route
    rw [hx, hc]

def reveals (h : Host σ) (i : Incoming) : Arrival → Bool
  | .whole _ => showsCounters h.exposesCounters i
  | .broken _ => false

theorem response_alike {h : Host σ} {h' : Host τ} (hx : h.exposesCounters = h'.exposesCounters)
    (identifies : Bool) (i : Incoming) (at_ : Instant) (arrival : Arrival) {s₀ s : Scene σ} {s₀' s' : Scene τ}
    (ids : s₀.requestIds.next.1 = s₀'.requestIds.next.1) :
    (h.response identifies i at_ arrival s₀ s).Alike (!h.reveals i arrival)
      (h'.response identifies i at_ arrival s₀' s') := by
  have answers : (h.answer (snapshot i at_) arrival s).1.Alike (!h.reveals i arrival)
      (h'.answer (snapshot i at_) arrival s').1 := by
    cases arrival with
    | broken reason => exact .refl ..
    | whole body => exact route_alike hx ..
  unfold response
  rw [settled_congr ids]
  exact answers.identified _

section Exchanges

variable (p : Pipeline σ) (identifies exposesCounters : Bool)

theorem begin_keeps (i : Incoming) (at_ : Instant) (s : Scene σ) :
    Keeps ((logging p identifies exposesCounters).begin i at_ s).1 (snapshot i at_)
      (settled identifies (snapshot i at_) s) := by
  have other : RequestLogHook.key ≠ RequestIdHook.key := by decide
  unfold begin
  rw [logging_eq]
  cases identifies with
  | false => exact ⟨rfl, Context.get?_set_self .., Context.get?_set_of_ne _ _ other.symm⟩
  | true =>
    exact
      { request_eq := rfl
        kept := (Context.get?_set_of_ne _ _ other).trans (Context.get?_set_self ..)
        settled := Context.get?_set_self .. }

theorem begin_steady (i : Incoming) (at_ : Instant) (s : Scene σ) :
    s.Steady ((logging p identifies exposesCounters).begin i at_ s).2 := by
  unfold begin
  rw [logging_eq]
  cases identifies with
  | false => exact ⟨rfl, rfl, rfl⟩
  | true => exact steady_resolve (snapshot i at_) s

theorem onResponse_eq (res : Response) (ctx : Context) (s : Scene σ) :
    (logging p identifies exposesCounters).chain.onResponse res ctx s =
      RequestLogHook.onResponse p (if identifies then RequestIdHook.stamp res ctx else res) ctx s := by
  rw [logging_eq]
  cases identifies with
  | true => exact identifyingChain.onResponse_eq p res ctx s
  | false =>
    show Chain.responseThrough ctx [RequestLogHook.hook p] res s = _
    rw [if_neg Bool.false_ne_true]
    simp only [Chain.responseThrough, RequestLogHook.hook]
    generalize RequestLogHook.onResponse p res ctx s = done
    obtain ⟨answer, after⟩ := done
    cases answer <;> rfl

theorem stamp_answer {h : Host σ} {i : Incoming} {at_ : Instant} {s₀ : Scene σ} {ctx : Context}
    (hc : ctx.get? Uuid RequestIdHook.key = settled identifies (snapshot i at_) s₀) (arrival : Arrival)
    (s : Scene σ) :
    let answer := (h.answer (snapshot i at_) arrival s).1
    (if identifies then RequestIdHook.stamp answer ctx else answer) =
      h.response identifies i at_ arrival s₀ s := by
  cases identifies with
  | false => rfl
  | true => exact RequestIdHook.stamp_of_unnamed (h.fresh_answer ..).unnamed hc

/-- An exchange ends with its response, and with one run of the pipeline. -/
theorem finish_begin (i : Incoming) (at_ : Instant) (s₀ : Scene σ) (arrival : Arrival) (s : Scene σ) :
    let h := logging p identifies exposesCounters
    let req := snapshot i at_
    let res := h.response identifies i at_ arrival s₀ s
    let done := p.log req res (h.answer req arrival s).2
    h.finish (h.begin i at_ s₀).1 arrival s = (done.1.map fun _ => res, done.2) := by
  intro h req res done
  have keeps := begin_keeps p identifies exposesCounters i at_ s₀
  have through := onResponse_eq p identifies exposesCounters (h.answer req arrival s).1
    (h.begin i at_ s₀).1.context (h.answer req arrival s).2
  rw [stamp_answer identifies keeps.settled arrival s,
    RequestLogHook.onResponse_of_kept p _ _ keeps.kept] at through
  unfold finish
  rw [keeps.request_eq]
  exact through

theorem finish_minuted (i : Incoming) (at_ : Instant) (s₀ : Scene (Minuted σ)) (arrival : Arrival)
    (s : Scene (Minuted σ)) :
    let h := logging p.minuted identifies exposesCounters
    let req := snapshot i at_
    let res := h.response identifies i at_ arrival s₀ s
    let found := (h.answer req arrival s).2.plain
    let done := p.log req res found
    h.finish (h.begin i at_ s₀).1 arrival s =
      (done.1.map fun _ => res, done.2.minuted (s.own.2 ++ p.handings found (.log req res))) := by
  intro h req res found done
  have finished := finish_begin p.minuted identifies exposesCounters i at_ s₀ arrival s
  have own : (h.answer req arrival s).2.own = s.own := (h.answer_steady req arrival s).own_eq
  have minutes := congrArg (·.2) own
  dsimp only at finished minutes
  rw [p.log_minuted, minutes] at finished
  exact finished

theorem begin_plain (i : Incoming) (at_ : Instant) (s : Scene (Minuted σ)) :
    ((logging p.minuted identifies exposesCounters).begin i at_ s).2.plain =
      ((logging p identifies exposesCounters).begin i at_ s.plain).2 := by
  unfold begin
  rw [logging_eq, logging_eq]
  cases identifies with
  | false => rfl
  | true =>
    show (RequestIdHook.resolve (snapshot i at_) s).2.plain =
      (RequestIdHook.resolve (snapshot i at_) s.plain).2
    unfold RequestIdHook.resolve
    cases RequestId.parse ((snapshot i at_).headers.lookup HeaderName.requestId.text) with
    | error e => rfl
    | ok found => cases found <;> rfl

theorem finish_plain (i : Incoming) (at_ : Instant) (s₀ : Scene (Minuted σ)) (arrival : Arrival)
    (s : Scene (Minuted σ)) :
    let h := logging p.minuted identifies exposesCounters
    let h' := logging p identifies exposesCounters
    let ended := h.finish (h.begin i at_ s₀).1 arrival s
    (ended.1, ended.2.plain) = h'.finish (h'.begin i at_ s₀.plain).1 arrival s.plain := by
  intro h h' ended
  have finished : ended = _ := finish_minuted p identifies exposesCounters i at_ s₀ arrival s
  have same : h.response identifies i at_ arrival s₀ s = h'.response identifies i at_ arrival s₀.plain s.plain := by
    have exposes : h.exposesCounters = h'.exposesCounters := rfl
    have counters : s.counters = s.plain.counters := rfl
    have ids : s₀.requestIds.next.1 = s₀.plain.requestIds.next.1 := rfl
    unfold response
    rw [answer_congr exposes (snapshot i at_) arrival counters, settled_congr ids]
  have found : (h.answer (snapshot i at_) arrival s).2.plain = (h'.answer (snapshot i at_) arrival s.plain).2 := by
    cases arrival <;> rfl
  rw [finished, finish_begin, found, same]
  rfl

theorem totals_finish {p : Pipeline σ} (drops : p.sink.CountsDrops) (hc : p.counted = true) (i : Incoming)
    (at_ : Instant) (s₀ : Scene σ) (arrival : Arrival) (s : Scene σ) :
    let h := logging p identifies exposesCounters
    let ended := h.finish (h.begin i at_ s₀).1 arrival s
    Counters.Totals (p.blacklist.shouldLog i.target.path && ended.1.isSome).toNat
      (!p.blacklist.shouldLog i.target.path).toNat s.counters ended.2.counters := by
  intro h ended
  have steady := h.answer_steady (snapshot i at_) arrival s
  have named := h.not_misnames_response identifies i at_ arrival s₀ s
  have finished : ended = _ := finish_begin p identifies exposesCounters i at_ s₀ arrival s
  rw [finished, Option.isSome_map, ← steady.counters_eq]
  exact Pipeline.totals_log drops hc (snapshot i at_) (fun misnamed => named misnamed.1) _

end Exchanges

end Host

theorem App.hostFor_eq {s : Settings} (h : s.requestLog.enabled = true) :
    hostFor s = Host.logging (pipelineFor s) true true := by
  unfold hostFor chainFor Host.logging
  rw [if_pos h]
  rfl

end AccessLog
