import AccessLog.Proofs.Diagnostic
import AccessLog.Proofs.Elapsed

/-!
# What a pipeline does with an exchange

Building an event either fails, because an instant lies outside the calendar, or gives one event, with new traces,
one identifier taken and perhaps one count more. An exchange that is logged is built first and then emitted, and
emitting counts what the sink returned from.
-/

namespace AccessLog

open Diagnostic (requestIdKey)

variable {σ : Type}

namespace Scene

theorem notes_eq (s : Scene σ) (ts : List Trace) :
    s.notes ts =
      { s with journal := s.journal ++ ts.map fun t => ⟨t, s.context.get requestIdKey⟩ } := by
  induction ts generalizing s with
  | nil => simp [notes]
  | cons t rest ih =>
    change (s.note t).notes rest = _
    rw [ih, note]
    simp

end Scene

namespace Exchange

/-- The instants of an exchange can be written: that of its request, and that at its end where the clock was set
back in between. -/
def Dated (req : Request) (now : Instant) : Prop :=
  req.receivedAt.inCalendar = true ∧ (req.receivedAt.nanos ≤ now.nanos ∨ now.inCalendar = true)

theorem dated_iff {req : Request} {now : Instant} :
    Dated req now ↔ req.receivedAt.HasDate ∧ (req.receivedAt.nanos ≤ now.nanos ∨ now.HasDate) := by
  have range (t : Instant) : t.inCalendar = true ↔ t.HasDate := t.inCalendar_iff_year
  rw [Dated, range, range]

/-- All that reading an exchange can come to. -/
theorem read_cases (req : Request) (res : Response) (now : Instant) :
    (¬ Dated req now ∧ ∃ e, read req res now = .error e) ∨
    (Dated req now ∧ ∃ exchange clockNotes,
      read req res now = .ok (exchange, clockNotes ++ (RequestId.read (purportedId res)).2) ∧
      exchange.requestId = (RequestId.read (purportedId res)).1 ∧
      (clockNotes = [] ∨ clockNotes = [clockWarning req.receivedAt now])) := by
  cases hr : req.receivedAt.inCalendar with
  | false =>
    refine .inl ⟨fun hd => ?_, ⟨req.receivedAt⟩, by simp [read, hr]⟩
    rw [hd.1] at hr
    cases hr
  | true =>
    rcases elapsed_cases now hr with ⟨hb, micros, he⟩ | ⟨hn, he⟩ | ⟨hb, hn, he⟩
    · refine .inr ⟨⟨hr, .inl hb⟩, ?_⟩
      unfold read
      rw [hr, he]
      exact ⟨_, [], rfl, rfl, .inl rfl⟩
    · refine .inr ⟨⟨hr, .inr hn⟩, ?_⟩
      unfold read
      rw [hr, he]
      exact ⟨_, _, rfl, rfl, .inr rfl⟩
    · refine .inl ⟨fun hd => ?_, ⟨now⟩, by simp [read, hr, he]⟩
      rw [hd.2.resolve_left hb] at hn
      cases hn

theorem read_of_dated {req : Request} {now : Instant} (res : Response) (h : Dated req now) :
    ∃ x notes, read req res now = .ok (x, notes) := by
  rcases read_cases req res now with ⟨hn, -⟩ | ⟨-, x, _, read, -⟩
  · exact absurd h hn
  · exact ⟨x, _, read⟩

theorem received_of_read {req : Request} {res : Response} {now : Instant} {x : Exchange} {notes : List Trace}
    (h : read req res now = .ok (x, notes)) :
    x.timestamp = req.receivedAt ∧ x.bodySize = bodySizeOf req.contentLength := by
  unfold read at h
  split at h
  · cases h
  split at h
  · cases h
  obtain ⟨rfl, -⟩ := Prod.mk.inj (Except.ok.inj h)
  exact ⟨rfl, rfl⟩

end Exchange

namespace Pipeline

theorem countIf_own (p : Pipeline σ) (f : Counters → Counters) (s : Scene σ) :
    (p.countIf f s).own = s.own := by
  obtain ⟨counters, hc⟩ := p.countIf_eq f s
  rw [hc]

def recount (p : Pipeline σ) (res : Response) (c : Counters) : Counters :=
  if (Exchange.purportedId res).isSome && (RequestId.read (Exchange.purportedId res)).1.isNone &&
      p.counted then
    c.countMalformed
  else c

theorem createEvent_of_not_started (p : Pipeline σ) {req : Request} (res : Response) (s : Scene σ)
    (hr : req.receivedAt.inCalendar = false) : p.createEvent req res s = (none, s) := by
  rw [createEvent, hr]
  rfl

theorem createEvent_of_unread {p : Pipeline σ} {req : Request} {res : Response} {s : Scene σ} {e : OutOfCalendar}
    (hr : req.receivedAt.inCalendar = true) (h : Exchange.read req res (p.clock s.own).1 = .error e) :
    p.createEvent req res s = (none, { s with own := (p.clock s.own).2 }) := by
  have h : Exchange.read req res (p.readClock s).1 = .error e := h
  simp only [createEvent, hr, h]
  rfl

theorem createEvent_of_read {p : Pipeline σ} {req : Request} {res : Response} {s : Scene σ}
    {exchange : Exchange} {warnings : List Trace}
    (h : Exchange.read req res (p.clock s.own).1 = .ok (exchange, warnings)) :
    p.createEvent req res s = (some (.assemble exchange p.service s.eventIds.next.1),
      { s with
        own := (p.clock s.own).2
        journal := s.journal ++ warnings.map fun t => ⟨t, s.context.get requestIdKey⟩
        eventIds := s.eventIds.next.2
        counters := p.recount res s.counters }) := by
  have ⟨hr, hid⟩ : req.receivedAt.inCalendar = true ∧
      exchange.requestId = (RequestId.read (Exchange.purportedId res)).1 := by
    rcases Exchange.read_cases req res (p.clock s.own).1 with ⟨-, e, he⟩ | ⟨hd, _, _, he, hid, -⟩
    · rw [h] at he
      cases he
    · obtain ⟨rfl, -⟩ := Prod.mk.inj (Except.ok.inj (h.symm.trans he))
      exact ⟨hd.1, hid⟩
  have h : Exchange.read req res (p.readClock s).1 = .ok (exchange, warnings) := h
  simp only [createEvent, hr, h, Scene.notes_eq, Scene.freshEventId, recount, countIf, Event.assemble, hid]
  cases (Exchange.purportedId res).isSome <;>
    cases (RequestId.read (Exchange.purportedId res)).1.isNone <;> cases p.counted <;> rfl

/-- All that building an event can come to. -/
theorem createEvent_cases (p : Pipeline σ) (req : Request) (res : Response) (s : Scene σ) :
    let (now, own) := p.clock s.own
    (¬ Exchange.Dated req now ∧ ∃ left, (left = s.own ∨ left = own) ∧
      p.createEvent req res s = (none, { s with own := left })) ∨
    (Exchange.Dated req now ∧ ∃ e clockNotes,
      e.requestId = (RequestId.read (Exchange.purportedId res)).1 ∧
      (clockNotes = [] ∨ clockNotes = [Exchange.clockWarning req.receivedAt now]) ∧
      p.createEvent req res s = (some e,
        { s with
          own
          journal := s.journal ++ (clockNotes ++ (RequestId.read (Exchange.purportedId res)).2).map
            fun t => ⟨t, s.context.get requestIdKey⟩
          eventIds := s.eventIds.next.2
          counters := p.recount res s.counters })) := by
  dsimp only
  rcases Exchange.read_cases req res (p.clock s.own).1 with ⟨hd, e, he⟩ | ⟨hd, _, notes, he, hid, hc⟩
  · cases hr : req.receivedAt.inCalendar with
    | false => exact .inl ⟨hd, s.own, .inl rfl, p.createEvent_of_not_started res s hr⟩
    | true => exact .inl ⟨hd, _, .inr rfl, createEvent_of_unread hr he⟩
  · exact .inr ⟨hd, _, notes, hid, hc, createEvent_of_read he⟩

theorem createEvent_of_dated (p : Pipeline σ) {req : Request} (res : Response) {s : Scene σ}
    (hd : Exchange.Dated req (p.clock s.own).1) :
    ∃ e built, p.createEvent req res s = (some e, built) ∧ built.own = (p.clock s.own).2 ∧
      e.requestId = (RequestId.read (Exchange.purportedId res)).1 := by
  rcases p.createEvent_cases req res s with ⟨hn, -⟩ | ⟨-, e, _, hid, -, hb⟩
  · exact absurd hd hn
  · exact ⟨e, _, hb, rfl, hid⟩

theorem log_of_built {p : Pipeline σ} {req : Request} {res : Response} {s built : Scene σ} {e : Event}
    (hp : p.blacklist.shouldLog req.path = true) (hb : p.createEvent req res s = (some e, built)) :
    p.log req res s =
      (if (p.emit e built).1 = .returned then some .emitted else none, (p.emit e built).2) := by
  rw [log, if_pos hp, hb]
  dsimp only
  generalize p.emit e built = done
  obtain ⟨outcome, after⟩ := done
  cases outcome <;> rfl

theorem log_of_not_built {p : Pipeline σ} {req : Request} {res : Response} {s after : Scene σ}
    (hp : p.blacklist.shouldLog req.path = true) (hb : p.createEvent req res s = (none, after)) :
    p.log req res s = (none, after) := by
  rw [log, if_pos hp, hb]

theorem log_of_blacklisted {p : Pipeline σ} {req : Request} (res : Response) (s : Scene σ)
    (hp : p.blacklist.shouldLog req.path = false) :
    p.log req res s = (some .blacklisted, p.countIf Counters.countBlacklisted s) := by
  rw [log, if_neg (by simp [hp])]

theorem emit_journal (p : Pipeline σ) (e : Event) (s : Scene σ) :
    (p.emit e s).2.journal = (p.sink e (opening e s)).2.journal := by
  obtain ⟨counters, he⟩ := p.emit_eq e s
  rw [he]

theorem emit_counters (p : Pipeline σ) (e : Event) (s : Scene σ) :
    (p.emit e s).2.counters =
      (p.settle (p.sink e (opening e s)).1 (p.sink e (opening e s)).2).counters := rfl

end Pipeline

end AccessLog
