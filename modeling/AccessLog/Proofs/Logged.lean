import AccessLog.Proofs.Malformed
import AccessLog.Proofs.Stations
import AccessLog.Proofs.Tally
import Mathlib.Data.List.Forall2

/-!
# What is logged of an exchange

The events of an exchange, of which there is one at most, are a function of the request, the response, one instant and
one new identifier. The exchange comes back unless its event cannot be made or the sink unwinds, and the counters count
those that come back.
-/

namespace AccessLog

variable {σ : Type}

namespace Exchange

theorem read_alike {a b : Response} {whole : Bool} (h : a.Alike whole b) (req : Request) (now : Instant) :
    read req b now = (read req a now).map fun (exchange, warnings) =>
      ({ exchange with responseSize := responseSizeOf b.contentCount }, warnings) := by
  have same : purportedId b = purportedId a := by rw [purportedId, Response.header, ← h.headers_eq]; rfl
  unfold read
  rw [same, ← h.status_eq]
  cases req.receivedAt.inCalendar with
  | false => rfl
  | true =>
    cases elapsed req.receivedAt now with
    | error e => rfl
    | ok measured => rfl

instance (req : Request) (now : Instant) : Decidable (Dated req now) :=
  inferInstanceAs (Decidable (_ ∧ _))

end Exchange

/-- The same event, or the same but for the size of the response where `whole` is false. -/
structure Event.Alike (whole : Bool) (a b : Event) : Prop where
  sizeless_eq : { a with responseSize := none } = { b with responseSize := none }
  whole_eq : whole = true → a = b

/-- What a sink owes a pipeline: it never fails back into it. -/
def Sink.Returns (sink : Sink σ) : Prop := ∀ e s, (sink e s).1 = .returned

/-- Of the counters the sink changes at most those of dropped events. -/
def Sink.CountsDrops (sink : Sink σ) : Prop :=
  ∀ e s, ∃ dropped, (sink e s).2.counters = { s.counters with dropped }

theorem Sink.Returns.minuted {sink : Sink σ} (h : sink.Returns) : sink.minuted.Returns :=
  fun e s => h e s.plain

theorem Sink.CountsDrops.minuted {sink : Sink σ} (h : sink.CountsDrops) : sink.minuted.CountsDrops :=
  fun e s => h e s.plain

/-- From one state of the counters to another, so many more exchanges were logged and so many were not because of their
path. No identifier was malformed. -/
structure Counters.Totals (logged skipped : Nat) (before after : Counters) : Prop where
  emitted_eq : after.emitted = before.emitted + UInt64.ofNat logged
  blacklisted_eq : after.blacklisted = before.blacklisted + UInt64.ofNat skipped
  malformed_eq : after.malformed = before.malformed

namespace Counters

variable {a b c : Counters} {logged logged' skipped skipped' : Nat}

theorem Totals.refl (c : Counters) : Totals 0 0 c c := ⟨by simp, by simp, rfl⟩

theorem Totals.append (h : Totals logged skipped a b) (h' : Totals logged' skipped' b c) :
    Totals (logged + logged') (skipped + skipped') a c where
  emitted_eq := by rw [h'.emitted_eq, h.emitted_eq, UInt64.ofNat_add, UInt64.add_assoc]
  blacklisted_eq := by rw [h'.blacklisted_eq, h.blacklisted_eq, UInt64.ofNat_add, UInt64.add_assoc]
  malformed_eq := h'.malformed_eq.trans h.malformed_eq

theorem Totals.concat {α : Type} {logs skips : α → Bool} {l : List α} {x : α}
    (h : Totals (l.countP logs) (l.countP skips) a b) (h' : Totals (logs x).toNat (skips x).toNat b c) :
    Totals ((l ++ [x]).countP logs) ((l ++ [x]).countP skips) a c := by
  have count (f : α → Bool) : (l ++ [x]).countP f = l.countP f + (f x).toNat := by
    rw [List.countP_append, List.countP_singleton]
    cases f x <;> rfl
  rw [count, count]
  exact h.append h'

end Counters

namespace Pipeline

def eventAt (p : Pipeline σ) (req : Request) (res : Response) (now : Instant) (id : Uuid) : Option Event :=
  match Exchange.read req res now with
  | .ok (exchange, _) => some (.assemble exchange p.service id)
  | .error _ => none

def eventsOf (p : Pipeline σ) (req : Request) (res : Response) (now : Instant) (id : Uuid) : List Event :=
  if p.blacklist.shouldLog req.path then (p.eventAt req res now id).toList else []

theorem createEvent_eq_eventAt (p : Pipeline σ) (req : Request) (res : Response) (s : Scene σ) :
    (p.createEvent req res s).1 = p.eventAt req res (p.clock s.own).1 s.eventIds.next.1 := by
  unfold eventAt
  cases hr : Exchange.read req res (p.clock s.own).1 with
  | error e =>
    cases hs : req.receivedAt.inCalendar with
    | false => rw [p.createEvent_of_not_started res s hs]
    | true => rw [createEvent_of_unread hs hr]
  | ok built => rw [createEvent_of_read hr]

theorem eventAt_isSome_iff (p : Pipeline σ) (req : Request) (res : Response) (now : Instant) (id : Uuid) :
    (p.eventAt req res now id).isSome = true ↔ Exchange.Dated req now := by
  unfold eventAt
  rcases Exchange.read_cases req res now with ⟨hd, e, he⟩ | ⟨hd, exchange, _, he, -⟩
  · simp [he, hd]
  · simp [he, hd]

/-- Logging comes back unless the event cannot be made or the sink unwinds with it. -/
theorem isSome_log (p : Pipeline σ) (req : Request) (res : Response) (s : Scene σ) :
    (p.log req res s).1.isSome =
      ((!p.blacklist.shouldLog req.path || decide (Exchange.Dated req (p.clock s.own).1)) &&
        ((p.handings s (.log req res)).map (·.outcome)).all (· = .returned)) := by
  rw [handings]
  by_cases hp : p.blacklist.shouldLog req.path = true
  · have made := p.eventAt_isSome_iff req res (p.clock s.own).1 s.eventIds.next.1
    rw [← p.createEvent_eq_eventAt req res s] at made
    rw [if_pos hp, hp]
    cases hb : p.createEvent req res s with
    | mk e? built =>
      rw [hb] at made
      cases e? with
      | none =>
        have lost : ¬ Exchange.Dated req (p.clock s.own).1 := fun dated => by simpa using made.mpr dated
        rw [log_of_not_built hp hb, decide_eq_false lost]
        rfl
      | some e =>
        rw [log_of_built hp hb, decide_eq_true (made.mp rfl)]
        cases ho : (p.emit e built).1 <;> simp [ho]
  · have hp' : p.blacklist.shouldLog req.path = false := by simpa using hp
    rw [if_neg hp, log_of_blacklisted res s hp', hp']
    rfl

theorem responseSize_of_eventAt {p : Pipeline σ} {req : Request} {res : Response} {now : Instant} {id : Uuid}
    {e : Event} (h : p.eventAt req res now id = some e) :
    e.responseSize = Exchange.responseSizeOf res.contentCount := by
  have same : res.Alike true res := ⟨rfl, rfl, fun _ => rfl⟩
  have hr := Exchange.read_alike same req now
  unfold eventAt at h
  cases hx : Exchange.read req res now with
  | error e =>
    rw [hx] at h
    cases h
  | ok built =>
    rw [hx] at h hr
    obtain rfl := Option.some.inj h
    exact congrArg (fun exchange => exchange.1.responseSize) (Except.ok.inj hr)

theorem map_event_handings (p : Pipeline σ) (req : Request) (res : Response) (s : Scene σ) :
    (p.handings s (.log req res)).map (·.event) =
      p.eventsOf req res (p.clock s.own).1 s.eventIds.next.1 := by
  unfold handings eventsOf
  rw [← p.createEvent_eq_eventAt req res s]
  dsimp only
  by_cases hp : p.blacklist.shouldLog req.path = true
  · rw [if_pos hp, if_pos hp]
    obtain ⟨made, built⟩ := p.createEvent req res s
    cases made with
    | none => rfl
    | some e => rfl
  · rw [if_neg hp, if_neg hp]
    rfl

theorem handings_of_log {p : Pipeline σ} {req : Request} {res : Response} {s : Scene σ}
    (hp : p.blacklist.shouldLog req.path = true) (hl : (p.log req res s).1.isSome = true) :
    ∃ e own, p.handings s (.log req res) = [⟨e, own, .returned⟩] ∧
      p.eventAt req res (p.clock s.own).1 s.eventIds.next.1 = some e := by
  rw [← p.createEvent_eq_eventAt req res s, handings, if_pos hp]
  cases hb : p.createEvent req res s with
  | mk made built =>
    cases made with
    | none =>
      rw [log_of_not_built hp hb] at hl
      cases hl
    | some e =>
      rw [log_of_built hp hb] at hl
      cases ho : (p.emit e built).1 with
      | returned =>
        refine ⟨e, built.own, ?_, rfl⟩
        dsimp only
        rw [ho]
      | unwound =>
        rw [ho] at hl
        cases hl

theorem log_minuted (p : Pipeline σ) (req : Request) (res : Response) (s : Scene (Minuted σ)) :
    p.minuted.log req res s =
      ((p.log req res s.plain).1,
        (p.log req res s.plain).2.minuted (s.own.2 ++ p.handings s.plain (.log req res))) := by
  obtain ⟨answer, after⟩ := Prod.mk.inj (p.perform_minuted s (.log req res))
  exact Prod.ext (Answer.logged.inj answer) after

theorem eventAt_alike (p : Pipeline σ) (req : Request) {a b : Response} {whole : Bool} (h : a.Alike whole b)
    (now : Instant) (id : Uuid) :
    Option.Rel (Event.Alike whole) (p.eventAt req a now id) (p.eventAt req b now id) := by
  unfold eventAt
  rw [Exchange.read_alike h]
  cases hr : Exchange.read req a now with
  | error e => exact .none
  | ok built =>
    refine .some ⟨rfl, fun hw => ?_⟩
    obtain rfl := h.whole_eq hw
    have same := Exchange.read_alike h req now
    rw [hr] at same
    exact congrArg (fun built => Event.assemble built.1 p.service id) (Except.ok.inj same)

theorem eventsOf_alike (p : Pipeline σ) (req : Request) {a b : Response} {whole : Bool} (h : a.Alike whole b)
    (now : Instant) (id : Uuid) :
    List.Forall₂ (Event.Alike whole) (p.eventsOf req a now id) (p.eventsOf req b now id) := by
  unfold eventsOf
  cases p.blacklist.shouldLog req.path with
  | false => exact .nil
  | true =>
    have alike := p.eventAt_alike req h now id
    generalize p.eventAt req a now id = made at alike
    generalize p.eventAt req b now id = made' at alike
    cases alike with
    | none => exact .nil
    | some alike => exact .cons alike .nil

theorem handings_returned {p : Pipeline σ} (returns : p.sink.Returns) (s : Scene σ) (u : Use σ) :
    ((p.handings s u).map (·.outcome)).all (· = .returned) = true := by
  have returned (e : Event) (found : Scene σ) : (p.emit e found).1 = .returned := returns ..
  cases u with
  | log req res =>
    unfold handings
    dsimp only
    split
    · split <;> simp [returned]
    · rfl
  | emit e => simp [handings, returned]
  | createEvent req res => rfl
  | elsewhere change => rfl

theorem isSome_log_of_dated {p : Pipeline σ} (returns : p.sink.Returns) {req : Request} {s : Scene σ}
    (dated : Exchange.Dated req (p.clock s.own).1) (res : Response) : (p.log req res s).1.isSome = true := by
  rw [isSome_log, handings_returned returns, decide_eq_true dated, Bool.or_true]
  rfl

section Counting

variable {p : Pipeline σ}

theorem recount_of_not_misnamed (p : Pipeline σ) {res : Response}
    (hm : ¬ (res.headers.Misnames ∧ res.headers.Legible)) (c : Counters) : p.recount res c = c := by
  rcases res.headers.lookup_cases with ⟨misnamed, legible, -⟩ | ⟨-, read⟩
  · exact absurd ⟨misnamed, legible⟩ hm
  · rcases read with ht | ⟨raw, u, ht, hp⟩
    · have ht : Exchange.purportedId res = none := ht
      rw [recount, ht]
      rfl
    · have ht : Exchange.purportedId res = some raw := ht
      rw [recount, ht, RequestId.read, hp]
      rfl

theorem totals_emit (drops : p.sink.CountsDrops) (hc : p.counted = true) (e : Event) (s : Scene σ) :
    Counters.Totals (decide ((p.emit e s).1 = .returned)).toNat 0 s.counters (p.emit e s).2.counters := by
  obtain ⟨dropped, hd⟩ := drops e (opening e s)
  rw [emit_counters, settle_counters hc, emit_outcome, hd]
  cases (p.sink e (opening e s)).1 with
  | returned => exact ⟨rfl, (UInt64.add_zero _).symm, rfl⟩
  | unwound => exact ⟨(UInt64.add_zero _).symm, (UInt64.add_zero _).symm, rfl⟩

/-- What an exchange adds to the counters, if its response has no malformed identifier. -/
theorem totals_log (drops : p.sink.CountsDrops) (hc : p.counted = true) (req : Request) {res : Response}
    (hm : ¬ (res.headers.Misnames ∧ res.headers.Legible)) (s : Scene σ) :
    Counters.Totals (p.blacklist.shouldLog req.path && (p.log req res s).1.isSome).toNat
      (!p.blacklist.shouldLog req.path).toNat s.counters (p.log req res s).2.counters := by
  by_cases hp : p.blacklist.shouldLog req.path = true
  · rw [hp, Bool.true_and]
    rcases p.createEvent_cases req res s with ⟨-, _, -, hb⟩ | ⟨-, e, notes, -, -, hb⟩
    · rw [log_of_not_built hp hb]
      exact .refl s.counters
    · let built := (p.createEvent req res s).2
      have made : p.createEvent req res s = (some e, built) := Prod.ext (congrArg (·.1) hb) rfl
      have counters : built.counters = s.counters :=
        (congrArg (·.2.counters) hb).trans (p.recount_of_not_misnamed hm s.counters)
      have totals := totals_emit drops hc e built
      rw [log_of_built hp made, ← counters]
      cases ho : (p.emit e built).1 <;> simpa [ho] using totals
  · have hp' : p.blacklist.shouldLog req.path = false := by simpa using hp
    rw [log_of_blacklisted res s hp', hp', countIf, if_pos hc]
    exact ⟨(UInt64.add_zero _).symm, rfl, rfl⟩

end Counting

end Pipeline

end AccessLog
