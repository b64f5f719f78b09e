import AccessLog.Proofs.Pipeline
import AccessLog.Proofs.Relay

/-!
# What the counters of a pipeline count

A pipeline is used by any number of calls, one after the other, of which some may unwind with its sink. The sink keeps
minutes of the calls that it gets. They say that it is called once for each exchange that is to be logged and for each
emission, in order, with the event of that call; and the counters are the totals of the minutes and the answers.
-/

namespace AccessLog

open Diagnostic (requestIdKey)

variable {σ : Type}

/-- One call of a sink: the event, what the sink found of its own, and how it came back. -/
structure Handing (σ : Type) where
  event : Event
  found : σ
  outcome : Outcome

abbrev Minuted (σ : Type) := σ × List (Handing σ)

namespace Scene

def plain (s : Scene (Minuted σ)) : Scene σ := s.withOwn s.own.1

def minuted (s : Scene σ) (minutes : List (Handing σ)) : Scene (Minuted σ) := s.withOwn (s.own, minutes)

end Scene

def Sink.minuted (sink : Sink σ) : Sink (Minuted σ) := fun e s =>
  let (outcome, after) := sink e s.plain
  (outcome, after.minuted (s.own.2 ++ [⟨e, s.own.1, outcome⟩]))

theorem Sink.queue_settled (e : Event) (s : Scene (Queue Event)) :
    let after := (queue true e s).2.counters
    (queue true e s).1 = .returned ∧
    1 = UInt64.ofNat (if (s.own.offer e).1 = none then 1 else 0) +
      (after.droppedFor Refusal.full.reason - s.counters.droppedFor Refusal.full.reason) +
      (after.droppedFor Refusal.closed.reason - s.counters.droppedFor Refusal.closed.reason) := by
  dsimp only
  cases hf : (s.own.offer e).1 with
  | none =>
    rw [queue_accepted (Queue.offer_of_accepted hf)]
    refine ⟨rfl, ?_⟩
    simp
  | some why =>
    rw [queue_refused (Queue.offer_of_refused hf)]
    refine ⟨rfl, ?_⟩
    have hd (other : Refusal) := droppedFor_countRefusal true why other s.counters
    have added (x y : UInt64) : x + y - x = y := by rw [UInt64.add_comm, UInt64.add_sub_cancel]
    rw [show (Scene.count (s.note (dropNote e why)) (countRefusal true why)).counters =
      countRefusal true why s.counters from rfl, hd, hd, added, added]
    cases why with
    | full => rfl
    | closed => rfl

/-- The sink leaves alone what the pipeline counts. -/
def Sink.Detached (sink : Sink σ) : Prop :=
  ∀ e s, (sink e s).2.counters.emitted = s.counters.emitted ∧
    (sink e s).2.counters.blacklisted = s.counters.blacklisted

theorem Sink.detached_within {part : σ → Queue Event} {replace : Queue Event → σ → σ} (counted : Bool) :
    (Sink.within part replace (.queue counted)).Detached := by
  intro e s
  have hq : ∃ dropped,
      (queue counted e (s.withOwn (part s.own))).2.counters = { s.counters with dropped } := by
    cases hf : ((part s.own).offer e).1 with
    | none =>
      rw [queue_accepted (Queue.offer_of_accepted hf)]
      exact ⟨s.counters.dropped, rfl⟩
    | some why =>
      rw [queue_refused (Queue.offer_of_refused hf)]
      cases counted with
      | true => exact ⟨_, rfl⟩
      | false => exact ⟨_, rfl⟩
  obtain ⟨dropped, hd⟩ := hq
  exact ⟨congrArg (·.emitted) hd, congrArg (·.blacklisted) hd⟩

namespace Pipeline

def minuted (p : Pipeline σ) : Pipeline (Minuted σ) where
  blacklist := p.blacklist
  service := p.service
  clock own := ((p.clock own.1).1, ((p.clock own.1).2, own.2))
  sink := p.sink.minuted
  counted := p.counted

/-- One call of a pipeline, or something that others do meanwhile with what its sink and its clock own. -/
inductive Use (σ : Type) where
  | log (req : Request) (res : Response)
  | createEvent (req : Request) (res : Response)
  | emit (e : Event)
  | elsewhere (change : σ → σ)

def Use.minuted : Use σ → Use (Minuted σ)
  | .log req res => .log req res
  | .createEvent req res => .createEvent req res
  | .emit e => .emit e
  | .elsewhere change => .elsewhere fun own => (change own.1, own.2)

def Use.Dated : Use σ → Prop
  | .log req _ | .createEvent req _ => req.receivedAt.inCalendar = true
  | .emit _ | .elsewhere _ => True

inductive Answer where
  | logged (outcome : Option LogOutcome)
  | created (e : Option Event)
  | emitted (outcome : Outcome)
  | nothing
  deriving DecidableEq

def perform (p : Pipeline σ) (s : Scene σ) : Use σ → Answer × Scene σ
  | .log req res => ((.logged (p.log req res s).1), (p.log req res s).2)
  | .createEvent req res => (.created (p.createEvent req res s).1, (p.createEvent req res s).2)
  | .emit e => (.emitted (p.emit e s).1, (p.emit e s).2)
  | .elsewhere change => (.nothing, { s with own := change s.own })

structure Performed (σ : Type) where
  use : Use σ
  before : Scene σ
  answer : Answer
  after : Scene σ

def performed (p : Pipeline σ) (s : Scene σ) (u : Use σ) : Performed σ :=
  ⟨u, s, (p.perform s u).1, (p.perform s u).2⟩

def run (p : Pipeline σ) : Scene σ → List (Use σ) → List (Performed σ) × Scene σ
  | s, [] => ([], s)
  | s, u :: rest =>
    let (later, last) := p.run (p.performed s u).after rest
    (p.performed s u :: later, last)

/-- What the sink was called with meanwhile. -/
def Performed.handed (d : Performed (Minuted σ)) : List (Handing σ) :=
  d.after.own.2.drop d.before.own.2.length

/-- That a call has the answer that it should have, and leads to the calls of the sink that it should. -/
def Performed.Sound (p : Pipeline σ) (d : Performed (Minuted σ)) : Prop :=
  match d.use with
  | .log req res =>
    if p.blacklist.shouldLog req.path = true then
      ∃ e own outcome, (p.createEvent req res d.before.plain).1 = some e ∧
        d.handed = [⟨e, own, outcome⟩] ∧
        d.answer = .logged (if outcome = .returned then some .emitted else none)
    else d.handed = [] ∧ d.answer = .logged (some .blacklisted)
  | .createEvent req res =>
    d.handed = [] ∧ ∃ e, (p.createEvent req res d.before.plain).1 = some e ∧
      d.answer = .created (some e)
  | .emit e => ∃ own outcome, d.handed = [⟨e, own, outcome⟩] ∧ d.answer = .emitted outcome
  | .elsewhere _ => d.handed = [] ∧ d.answer = .nothing

def Answer.isBlacklisted (a : Answer) : Bool := a = .logged (some .blacklisted)

/-- The totals of what the sink was handed and of what was answered as blacklisted. Where the sink is a queue with the
counters of the pipeline, each event that it was handed is taken by the queue or counted as dropped. -/
structure Tally (p : Pipeline σ) (handed : List (Handing σ)) (skipped : Nat) (before after : Counters) : Prop where
  emitted_eq : after.emitted = before.emitted + UInt64.ofNat (handed.countP (·.outcome = .returned))
  blacklisted_eq : after.blacklisted = before.blacklisted + UInt64.ofNat skipped
  queued (part : σ → Queue Event) (replace : Queue Event → σ → σ) :
    p.sink = .within part replace (.queue true) →
    after.emitted - before.emitted =
      UInt64.ofNat (handed.countP fun h => ((part h.found).offer h.event).1 = none) +
        (after.droppedFor Refusal.full.reason - before.droppedFor Refusal.full.reason) +
        (after.droppedFor Refusal.closed.reason - before.droppedFor Refusal.closed.reason)

section Minutes

variable (p : Pipeline σ) (s : Scene (Minuted σ))

theorem countIf_minuted (f : Counters → Counters) (s : Scene σ) (minutes : List (Handing σ)) :
    p.minuted.countIf f (s.minuted minutes) = (p.countIf f s).minuted minutes := by
  cases hc : p.counted with
  | true => simp only [countIf, minuted, hc, if_true]; rfl
  | false => simp only [countIf, minuted, hc, Bool.false_eq_true, if_false]

theorem settle_minuted (outcome : Outcome) (s : Scene σ) (minutes : List (Handing σ)) :
    p.minuted.settle outcome (s.minuted minutes) = (p.settle outcome s).minuted minutes := by
  cases outcome with
  | returned => exact p.countIf_minuted ..
  | unwound => rfl

theorem emit_minuted (e : Event) :
    p.minuted.emit e s =
      ((p.emit e s.plain).1,
        (p.emit e s.plain).2.minuted (s.own.2 ++ [⟨e, s.own.1, (p.emit e s.plain).1⟩])) := by
  let left := p.sink e (opening e s.plain)
  let minutes := s.own.2 ++ [⟨e, s.own.1, left.1⟩]
  let leave (settled : Scene (Minuted σ)) : Outcome × Scene (Minuted σ) := (left.1, { settled with
    context := settled.context.release (s.context.enter requestIdKey e.correlationId.text).1
    inside := s.inside })
  have hm : p.minuted.emit e s = leave (p.minuted.settle left.1 (left.2.minuted minutes)) := rfl
  rw [hm, settle_minuted]
  rfl

theorem createEvent_minuted (req : Request) (res : Response) :
    p.minuted.createEvent req res s =
      ((p.createEvent req res s.plain).1, (p.createEvent req res s.plain).2.minuted s.own.2) := by
  cases hs : req.receivedAt.inCalendar with
  | false =>
    rw [p.createEvent_of_not_started res s.plain hs, p.minuted.createEvent_of_not_started res s hs]
    rfl
  | true =>
    cases hr : Exchange.read req res (p.clock s.own.1).1 with
    | error e =>
      have hp : Exchange.read req res (p.clock s.plain.own).1 = .error e := hr
      have hm : Exchange.read req res (p.minuted.clock s.own).1 = .error e := hr
      rw [createEvent_of_unread hs hp, createEvent_of_unread hs hm]
      rfl
    | ok built =>
      have hp : Exchange.read req res (p.clock s.plain.own).1 = .ok built := hr
      have hm : Exchange.read req res (p.minuted.clock s.own).1 = .ok built := hr
      rw [createEvent_of_read hp, createEvent_of_read hm]
      rfl

def handings (s : Scene σ) : Use σ → List (Handing σ)
  | .log req res =>
    if p.blacklist.shouldLog req.path then
      match p.createEvent req res s with
      | (none, _) => []
      | (some e, built) => [⟨e, built.own, (p.emit e built).1⟩]
    else []
  | .emit e => [⟨e, s.own, (p.emit e s).1⟩]
  | .createEvent _ _ | .elsewhere _ => []

/-- With minutes a use is the same, and what it hands to the sink is in the minutes. -/
theorem perform_minuted (u : Use σ) :
    p.minuted.perform s u.minuted =
      ((p.perform s.plain u).1, (p.perform s.plain u).2.minuted (s.own.2 ++ p.handings s.plain u)) := by
  cases u with
  | log req res =>
    have hm := p.createEvent_minuted s req res
    simp only [Use.minuted, perform, handings]
    by_cases hp : p.blacklist.shouldLog req.path = true
    · have hp' : p.minuted.blacklist.shouldLog req.path = true := hp
      rw [if_pos hp]
      cases hb : p.createEvent req res s.plain with
      | mk made built =>
        rw [hb] at hm
        cases made with
        | none =>
          rw [log_of_not_built hp hb, log_of_not_built hp' hm, List.append_nil]
        | some e =>
          rw [log_of_built hp hb, log_of_built hp' hm, emit_minuted]
          rfl
    · have hp : p.blacklist.shouldLog req.path = false := by simpa using hp
      have hp' : p.minuted.blacklist.shouldLog req.path = false := hp
      rw [log_of_blacklisted res _ hp, log_of_blacklisted res s hp', hp, if_neg Bool.false_ne_true,
        List.append_nil]
      exact congrArg (Answer.logged (some .blacklisted), ·) (p.countIf_minuted _ s.plain s.own.2)
  | createEvent req res =>
    simp only [Use.minuted, perform, handings, createEvent_minuted, List.append_nil]
  | emit e =>
    simp only [Use.minuted, perform, handings, emit_minuted]
    rfl
  | elsewhere change =>
    simp only [handings, List.append_nil]
    rfl

theorem handed_performed (u : Use σ) : (p.minuted.performed s u.minuted).handed = p.handings s.plain u := by
  have ha : (p.minuted.performed s u.minuted).after.own.2 = s.own.2 ++ p.handings s.plain u :=
    congrArg (·.2.own.2) (p.perform_minuted s u)
  rw [Performed.handed, ha]
  exact List.drop_left ..

theorem sound_performed {u : Use σ} (hu : u.Dated) (hn : ∀ own, (p.clock own).1.inCalendar = true) :
    (p.minuted.performed s u.minuted).Sound p := by
  have hh := p.handed_performed s u
  have ha : (p.minuted.performed s u.minuted).answer = (p.perform s.plain u).1 :=
    congrArg (·.1) (p.perform_minuted s u)
  cases u with
  | log req res =>
    obtain ⟨e, after, hb, -, -⟩ := p.createEvent_of_dated res ⟨hu, .inr (hn s.plain.own)⟩
    unfold Performed.Sound
    dsimp only [performed, Use.minuted] at hh ha ⊢
    by_cases hp : p.blacklist.shouldLog req.path = true
    · rw [if_pos hp]
      simp only [handings, if_pos hp, hb] at hh
      simp only [perform, log_of_built hp hb] at ha
      exact ⟨e, _, _, congrArg (·.1) hb, hh, ha⟩
    · rw [if_neg hp]
      simp only [handings, if_neg hp] at hh
      have hp : p.blacklist.shouldLog req.path = false := by simpa using hp
      simp only [perform, log_of_blacklisted res _ hp] at ha
      exact ⟨hh, ha⟩
  | createEvent req res =>
    obtain ⟨e, after, hb, -, -⟩ := p.createEvent_of_dated res ⟨hu, .inr (hn s.plain.own)⟩
    exact ⟨hh, e, congrArg (·.1) hb,
      ha.trans (congrArg (fun made : Option Event × Scene σ => Answer.created made.1) hb)⟩
  | emit e => exact ⟨_, _, hh, ha⟩
  | elsewhere change => exact ⟨hh, ha⟩

end Minutes

section Totals

variable {p : Pipeline σ} {a b c : Counters} {handed handed' : List (Handing σ)} {skipped skipped' : Nat}

theorem Tally.append (h : p.Tally handed skipped a b) (h' : p.Tally handed' skipped' b c) :
    p.Tally (handed ++ handed') (skipped + skipped') a c where
  emitted_eq := by
    rw [h'.emitted_eq, h.emitted_eq, List.countP_append, UInt64.ofNat_add, UInt64.add_assoc]
  blacklisted_eq := by
    rw [h'.blacklisted_eq, h.blacklisted_eq, UInt64.ofNat_add, UInt64.add_assoc]
  queued part replace hq := by
    have hb := h.queued part replace hq
    have hc := h'.queued part replace hq
    rw [List.countP_append, UInt64.ofNat_add]
    grind

theorem Tally.of_malformed (p : Pipeline σ) (c : Counters) (malformed : UInt64) :
    p.Tally [] 0 c { c with malformed } where
  emitted_eq := by simp
  blacklisted_eq := by simp
  queued part replace hq := by simp [Counters.droppedFor]

theorem Tally.of_skipped (p : Pipeline σ) (c : Counters) : p.Tally [] 1 c c.countBlacklisted where
  emitted_eq := by simp [Counters.countBlacklisted]
  blacklisted_eq := rfl
  queued part replace hq := by simp [Counters.countBlacklisted, Counters.droppedFor]

theorem recount_eq (p : Pipeline σ) (res : Response) (c : Counters) :
    ∃ malformed, p.recount res c = { c with malformed } := by
  unfold recount
  split
  · exact ⟨_, rfl⟩
  · exact ⟨c.malformed, rfl⟩

theorem tally_createEvent (p : Pipeline σ) (req : Request) (res : Response) (s : Scene σ) :
    p.Tally [] 0 s.counters (p.createEvent req res s).2.counters := by
  rcases p.createEvent_cases req res s with ⟨-, _, -, hb⟩ | ⟨-, e, _, -, -, hb⟩
  · rw [hb]
    exact .of_malformed p s.counters s.counters.malformed
  · obtain ⟨malformed, hm⟩ := p.recount_eq res s.counters
    rw [hb]
    dsimp only
    rw [hm]
    exact .of_malformed p s.counters malformed

theorem settle_counters (hc : p.counted = true) (outcome : Outcome) (s : Scene σ) :
    (p.settle outcome s).counters =
      if outcome = .returned then s.counters.countEmitted else s.counters := by
  cases outcome with
  | returned =>
    rw [settle, countIf, if_pos hc]
    rfl
  | unwound => rfl

theorem queued_sink {part : σ → Queue Event} {replace : Queue Event → σ → σ}
    (hq : p.sink = .within part replace (.queue true)) (e : Event) (s : Scene σ) :
    let left := p.sink e (opening e s)
    left.1 = .returned ∧
    1 = UInt64.ofNat (if ((part s.own).offer e).1 = none then 1 else 0) +
      (left.2.counters.droppedFor Refusal.full.reason - s.counters.droppedFor Refusal.full.reason) +
      (left.2.counters.droppedFor Refusal.closed.reason - s.counters.droppedFor Refusal.closed.reason) := by
  rw [hq]
  exact Sink.queue_settled e ((opening e s).withOwn (part s.own))

theorem tally_emit {s : Scene σ} (hs : p.sink.Detached) (hc : p.counted = true) (e : Event) :
    p.Tally [⟨e, s.own, (p.emit e s).1⟩] 0 s.counters (p.emit e s).2.counters := by
  obtain ⟨he, hb⟩ := hs e (opening e s)
  have he : (p.sink e (opening e s)).2.counters.emitted = s.counters.emitted := he
  have hb : (p.sink e (opening e s)).2.counters.blacklisted = s.counters.blacklisted := hb
  rw [emit_counters, settle_counters hc, emit_outcome]
  constructor
  · cases (p.sink e (opening e s)).1 with
    | returned => simp [Counters.countEmitted, he]
    | unwound => simp [he]
  · cases (p.sink e (opening e s)).1 with
    | returned => simp [Counters.countEmitted, hb]
    | unwound => simp [hb]
  · intro part replace hq
    obtain ⟨returned, settled⟩ := queued_sink hq e s
    have one : (p.sink e (opening e s)).2.counters.countEmitted.emitted - s.counters.emitted = 1 := by
      rw [Counters.countEmitted, he, UInt64.add_comm, UInt64.add_sub_cancel]
    rw [returned, if_pos rfl, List.countP_singleton]
    simp only [decide_eq_true_eq]
    exact one.trans settled

theorem isBlacklisted_log_of_built {req : Request} {res : Response} {s built : Scene σ} {e : Event}
    (hp : p.blacklist.shouldLog req.path = true) (hb : p.createEvent req res s = (some e, built)) :
    (Answer.logged (p.log req res s).1).isBlacklisted = false := by
  rw [log_of_built hp hb]
  by_cases h : (p.emit e built).1 = .returned
  · simp [h, Answer.isBlacklisted]
  · simp [h, Answer.isBlacklisted]

/-- What one use adds to the counters. -/
theorem tally_perform (hs : p.sink.Detached) (hc : p.counted = true) (s : Scene σ) (u : Use σ) :
    p.Tally (p.handings s u) (p.perform s u).1.isBlacklisted.toNat s.counters
      (p.perform s u).2.counters := by
  cases u with
  | log req res =>
    by_cases hp : p.blacklist.shouldLog req.path = true
    · have ht := p.tally_createEvent req res s
      simp only [perform, handings, if_pos hp]
      cases hb : p.createEvent req res s with
      | mk made built =>
        rw [hb] at ht
        cases made with
        | none =>
          rw [log_of_not_built hp hb]
          exact ht
        | some e =>
          rw [isBlacklisted_log_of_built hp hb, log_of_built hp hb]
          exact ht.append (tally_emit hs hc e)
    · have hp' : p.blacklist.shouldLog req.path = false := by simpa using hp
      simp only [perform, handings, if_neg hp, log_of_blacklisted res s hp', countIf, if_pos hc]
      exact .of_skipped p s.counters
  | createEvent req res => exact p.tally_createEvent req res s
  | emit e => exact tally_emit hs hc e
  | elsewhere change => exact .of_malformed p s.counters s.counters.malformed

end Totals

section Run

variable (p : Pipeline σ) (uses : List (Use σ)) (s : Scene (Minuted σ))

theorem run_plain :
    (p.minuted.run s (uses.map Use.minuted)).1.map (·.answer) = (p.run s.plain uses).1.map (·.answer) ∧
    (p.minuted.run s (uses.map Use.minuted)).2.plain = (p.run s.plain uses).2 := by
  induction uses generalizing s with
  | nil => exact ⟨rfl, rfl⟩
  | cons u rest ih =>
    have hu := p.perform_minuted s u
    have ha : (p.minuted.performed s u.minuted).answer = (p.performed s.plain u).answer := congrArg (·.1) hu
    have hw : (p.minuted.performed s u.minuted).after.plain = (p.performed s.plain u).after :=
      congrArg (·.2.plain) hu
    obtain ⟨hr, hp⟩ := ih (p.minuted.performed s u.minuted).after
    rw [hw] at hr hp
    simp only [run, List.map_cons, ha, hr, hp, and_self]

theorem run_uses : (p.minuted.run s (uses.map Use.minuted)).1.map (·.use) = uses.map Use.minuted := by
  induction uses generalizing s with
  | nil => rfl
  | cons u rest ih =>
    simp only [List.map_cons, run, ih]
    rfl

theorem run_sound {uses : List (Use σ)} (hu : ∀ u ∈ uses, u.Dated)
    (hn : ∀ own, (p.clock own).1.inCalendar = true) :
    ∀ d ∈ (p.minuted.run s (uses.map Use.minuted)).1, d.Sound p := by
  induction uses generalizing s with
  | nil => exact fun _ hd => nomatch hd
  | cons u rest ih =>
    obtain ⟨hd, hrest⟩ := List.forall_mem_cons.mp hu
    exact List.forall_mem_cons.mpr ⟨p.sound_performed s hd hn, ih _ hrest⟩

theorem run_minutes :
    let done := p.minuted.run s (uses.map Use.minuted)
    done.2.own.2 = s.own.2 ++ done.1.flatMap Performed.handed := by
  induction uses generalizing s with
  | nil => exact (List.append_nil _).symm
  | cons u rest ih =>
    let d := p.minuted.performed s u.minuted
    have hd : d.after.own.2 = s.own.2 ++ d.handed := by
      rw [p.handed_performed s u]
      exact congrArg (·.2.own.2) (p.perform_minuted s u)
    have hrest := ih d.after
    dsimp only at hrest
    rw [hd, List.append_assoc, ← List.flatMap_cons] at hrest
    exact hrest

theorem run_tally {p : Pipeline σ} (hs : p.sink.Detached) (hc : p.counted = true) :
    let done := p.minuted.run s (uses.map Use.minuted)
    p.Tally (done.1.flatMap Performed.handed) (done.1.countP (·.answer.isBlacklisted)) s.counters
      done.2.counters := by
  induction uses generalizing s with
  | nil => exact .of_malformed p s.counters s.counters.malformed
  | cons u rest ih =>
    let d := p.minuted.performed s u.minuted
    have hp := p.perform_minuted s u
    have ha : d.answer = (p.perform s.plain u).1 := congrArg (·.1) hp
    have hcounters : d.after.counters = (p.perform s.plain u).2.counters := congrArg (·.2.counters) hp
    have hd : p.Tally d.handed d.answer.isBlacklisted.toNat s.counters d.after.counters := by
      rw [p.handed_performed s u, ha, hcounters]
      exact tally_perform hs hc s.plain u
    have total := hd.append (ih d.after)
    simp only [List.map_cons, run, List.flatMap_cons, List.countP_cons]
    rw [Nat.add_comm] at total
    cases hb : d.answer.isBlacklisted with
    | true =>
      rw [hb] at total
      exact total
    | false =>
      rw [hb] at total
      exact total

end Run

/-- In every run the sink is handed what it should be, in the order of the uses, and the counters are the totals. The
same run without minutes has the same answers and leaves the same scene. -/
theorem run_tallied {p : Pipeline σ} (hs : p.sink.Detached) (hc : p.counted = true)
    (hn : ∀ own, (p.clock own).1.inCalendar = true) {uses : List (Use σ)} (hu : ∀ u ∈ uses, u.Dated)
    (s : Scene (Minuted σ)) :
    let done := p.minuted.run s (uses.map Use.minuted)
    let handed := done.1.flatMap Performed.handed
    done.1.map (·.use) = uses.map Use.minuted ∧
    (∀ d ∈ done.1, d.Sound p) ∧
    done.2.own.2 = s.own.2 ++ handed ∧
    p.Tally handed (done.1.countP (·.answer.isBlacklisted)) s.counters done.2.counters ∧
    (p.run s.plain uses).1.map (·.answer) = done.1.map (·.answer) ∧
    (p.run s.plain uses).2 = done.2.plain := by
  intro done handed
  obtain ⟨ha, hw⟩ := p.run_plain uses s
  exact ⟨p.run_uses uses s, p.run_sound s hu hn, p.run_minutes uses s, run_tally uses s hs hc, ha.symm, hw.symm⟩

/-- A queue for one event: a path that is not logged, an event that is taken, one that is only built, one that does
not fit, and one that comes after the queue is closed. -/
theorem run_tallied_crowded :
    let p : Pipeline (Queue Event) :=
      { blacklist := .ofEntries ["/health"] [], clock := fun q => (⟨0⟩, q)
        sink := .within id (fun q _ => q) (.queue true), counted := true }
    let get (path : Target) := Request.received .get path .empty ⟨0⟩
    let health : Target := ⟨"/health", none, by decide, by decide⟩
    let uses : List (Use (Queue Event)) :=
      [.log (get health) (.empty .ok), .log (get .root) (.empty .ok), .createEvent (get health) (.empty .ok),
        .emit (plainEvent "/b"), .elsewhere Queue.close, .emit (plainEvent "/c")]
    let scene := plainScene.withOwn (⟨1, [], .listening, 1⟩, [])
    let done := p.minuted.run scene (uses.map Use.minuted)
    p.sink.Detached ∧ (∀ u ∈ uses, u.Dated) ∧ (∀ d ∈ done.1, d.Sound p) ∧
      p.Tally (done.1.flatMap Performed.handed) (done.1.countP (·.answer.isBlacklisted)) scene.counters
        done.2.counters ∧
      done.2.own.2.length = 3 ∧
      done.2.counters.emitted = 3 ∧ done.2.counters.blacklisted = 1 ∧
      done.2.counters.droppedFor "full" = 1 ∧ done.2.counters.droppedFor "closed" = 1 := by
  intro p get health uses scene done
  have hs : p.sink.Detached := Sink.detached_within true
  have hu : ∀ u ∈ uses, u.Dated := by
    simp only [uses, List.forall_mem_cons, Use.Dated, List.not_mem_nil, false_implies, implies_true, and_true]
    decide
  obtain ⟨-, sound, -, tally, -, -⟩ := run_tallied hs rfl (fun _ => rfl) hu scene
  refine ⟨hs, hu, sound, tally, ?_, ?_, ?_, ?_, ?_⟩
  · decide +kernel
  · decide +kernel
  · decide +kernel
  · decide +kernel
  · decide +kernel

/-- A sink that unwinds at its first call and its third. -/
example :
    let p : Pipeline Nat :=
      { clock := fun n => (⟨0⟩, n), counted := true
        sink := fun _ s => (if s.own % 2 = 0 then .unwound else .returned, { s with own := s.own + 1 }) }
    let req := Request.received .get .root .empty ⟨0⟩
    let done := p.run (plainScene.withOwn 0)
      [.emit (plainEvent "/a"), .log req (.empty .ok), .log req (.empty .ok)]
    done.1.map (·.answer) = [.emitted .unwound, .logged (some .emitted), .logged none] ∧
      done.2.counters.emitted = 1 := by
  decide +kernel

end Pipeline

end AccessLog
