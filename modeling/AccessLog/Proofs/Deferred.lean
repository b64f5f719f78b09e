import AccessLog.Proofs.Diagnostic
import AccessLog.Proofs.Relay

/-!
# Identifiers of queued events

A pipeline publishes the identifier of an event while its sink runs. With a queue as its sink that is while the
event is queued: the sink which the queue is drained into later finds what is published where it is drained.
-/

namespace AccessLog

open Diagnostic (requestIdKey)

variable {σ : Type}

abbrev Call := Event × Option String

def Sink.watched (sink : Sink σ) : Sink (σ × List Call) := fun e s =>
  let call := (e, s.context.get requestIdKey)
  let (outcome, after) := sink e (s.withOwn s.own.1)
  (outcome, after.withOwn (after.own, s.own.2 ++ [call]))

/-- The sink comes back, and leaves the published identifier as it is. -/
def Sink.Discreet (sink : Sink σ) : Prop :=
  ∀ e s, (sink e s).1 = .returned ∧
    (sink e s).2.context.get requestIdKey = s.context.get requestIdKey

def Pipeline.emitAll (p : Pipeline σ) (events : List Event) (s : Scene σ) : Scene σ :=
  events.foldl (fun s e => (p.emit e s).2) s

section

variable {sink : Sink σ} {events : List Event}

theorem Sink.watched_calls (sink : Sink σ) (e : Event) (s : Scene (σ × List Call)) :
    (sink.watched e s).2.own.2 = s.own.2 ++ [(e, s.context.get requestIdKey)] := rfl

theorem Pipeline.emitAll_calls {p : Pipeline (σ × List Call)} (hp : p.sink = sink.watched)
    (s : Scene (σ × List Call)) :
    (p.emitAll events s).own.2 = s.own.2 ++ events.map fun e => (e, some e.correlationId.text) := by
  induction events generalizing s with
  | nil => exact (List.append_nil _).symm
  | cons e rest ih =>
    have hx := p.emit_enclosed e s
    have he : (p.emit e s).2.own.2 = s.own.2 ++ [(e, some e.correlationId.text)] := by
      rw [hx.after_own, hp, Sink.watched_calls, hx.start_own, hx.shown]
    change (p.emitAll rest (p.emit e s).2).own.2 = _
    rw [ih, he, List.append_assoc]
    rfl

theorem Pipeline.emitAll_queued {p : Pipeline (Queue Event)} {counted : Bool}
    (hp : p.sink = Sink.queue counted) {s : Scene (Queue Event)} (ho : s.own.receiver = .listening)
    (room : s.own.items.length + events.length ≤ s.own.capacity) :
    (p.emitAll events s).own = { s.own with items := s.own.items ++ events } := by
  induction events generalizing s with
  | nil => simp [emitAll]
  | cons e rest ih =>
    rw [List.length_cons] at room
    have hx := p.emit_enclosed e s
    have hf : ((opening e s).own.offer e).1 = none := by
      rw [hx.start_own, Queue.offer_accepted_iff]
      exact ⟨ho, by omega⟩
    have he : (p.emit e s).2.own = { s.own with items := s.own.items ++ [e] } := by
      rw [hx.after_own, hp, Sink.queue_accepted (Queue.offer_of_accepted hf)]
      rfl
    change (p.emitAll rest (p.emit e s).2).own = _
    rw [ih (by rw [he]; exact ho) (by rw [he]; simp; omega), he]
    simp

theorem forward_cons_of_returned {e : Event} {s : Scene σ} (h : (sink e s).1 = .returned)
    (rest : List Event) : forward sink (e :: rest) s = forward sink rest (sink e s).2 := by
  obtain ⟨after, hd⟩ : ∃ after, sink e s = (.returned, after) := ⟨(sink e s).2, Prod.ext h rfl⟩
  rw [forward, hd]

theorem forward_cons_of_unwound {e : Event} {s : Scene σ} (h : (sink e s).1 = .unwound)
    (rest : List Event) : (forward sink (e :: rest) s).2 = (sink e s).2 := by
  obtain ⟨after, hd⟩ : ∃ after, sink e s = (.unwound, after) := ⟨(sink e s).2, Prod.ext h rfl⟩
  rw [forward, hd]

theorem forward_prefix (sink : Sink σ) (events : List Event) (s : Scene (σ × List Call)) :
    s.own.2 <+: (forward sink.watched events s).2.own.2 := by
  induction events generalizing s with
  | nil => exact List.prefix_rfl
  | cons e rest ih =>
    have hc : s.own.2 <+: (sink.watched e s).2.own.2 := List.prefix_append ..
    cases ho : (sink.watched e s).1 with
    | returned =>
      rw [forward_cons_of_returned ho]
      exact hc.trans (ih _)
    | unwound =>
      rw [forward_cons_of_unwound ho]
      exact hc

theorem forward_head (sink : Sink σ) (e : Event) (rest : List Event) (s : Scene (σ × List Call)) :
    s.own.2 ++ [(e, s.context.get requestIdKey)] <+: (forward sink.watched (e :: rest) s).2.own.2 := by
  rw [← Sink.watched_calls sink e s]
  cases ho : (sink.watched e s).1 with
  | returned =>
    rw [forward_cons_of_returned ho]
    exact forward_prefix ..
  | unwound => simp only [forward_cons_of_unwound ho, List.prefix_rfl]

theorem forward_calls (hs : sink.Discreet) (s : Scene (σ × List Call)) :
    (forward sink.watched events s).2.own.2 =
      s.own.2 ++ events.map fun e => (e, s.context.get requestIdKey) := by
  induction events generalizing s with
  | nil => exact (List.append_nil _).symm
  | cons e rest ih =>
    obtain ⟨hr, hk⟩ := hs e (s.withOwn s.own.1)
    have hr : (sink.watched e s).1 = .returned := hr
    have hk : (sink.watched e s).2.context.get requestIdKey = s.context.get requestIdKey := hk
    rw [forward_cons_of_returned hr, ih, Sink.watched_calls, hk, List.append_assoc]
    rfl

theorem drainInto_own (sink : Sink σ) (q : Queue Event) (s : Scene σ) :
    (drainInto sink q s).2.own = (forward sink q.items s).2.own := by
  unfold drainInto
  split
  · case h_1 after hf => rw [hf]; rfl
  · case h_2 after hf => rw [hf]

end

/-- The same events through a queue and without one. In both cases the sink is called with them in their
order; but through the queue it finds what is published where the queue is drained, so that the two agree only
where that is the identifier of each of them. -/
theorem deferred_calls (sink : Sink σ) {counted : Bool} {events : List Event}
    {p : Pipeline (Queue Event)} (hp : p.sink = Sink.queue counted)
    {direct : Pipeline (σ × List Call)} (hd : direct.sink = sink.watched)
    {near : Scene (Queue Event)} (ho : near.own.receiver = .listening) (hi : near.own.items = [])
    (room : events.length ≤ near.own.capacity) (at_ far : Scene (σ × List Call)) :
    let handled := (direct.emitAll events at_).own.2
    let drained := (drainInto sink.watched (p.emitAll events near).own far).2.own.2
    let ambient := far.context.get requestIdKey
    handled = at_.own.2 ++ events.map (fun e => (e, some e.correlationId.text)) ∧
    (sink.Discreet → drained = far.own.2 ++ events.map fun e => (e, ambient)) ∧
    ∀ e rest, events = e :: rest → at_.own.2 = far.own.2 → drained = handled →
      ambient = some e.correlationId.text := by
  intro handled drained ambient
  have hh : handled = at_.own.2 ++ events.map fun e => (e, some e.correlationId.text) :=
    Pipeline.emitAll_calls hd at_
  have hq : drained = (forward sink.watched events far).2.own.2 := by
    have hu := Pipeline.emitAll_queued hp ho (by rw [hi]; simpa using room)
    rw [hi, List.nil_append] at hu
    rw [show drained = _ from congrArg Prod.snd (drainInto_own ..), hu]
  refine ⟨hh, fun hs => hq.trans (forward_calls hs far), ?_⟩
  rintro e rest rfl ha he
  have hf := forward_head sink e rest far
  rw [← hq, he, hh, ha] at hf
  have hc := (List.prefix_append_right_inj _).mp hf
  simpa using hc

end AccessLog
