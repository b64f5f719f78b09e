import AccessLog.Proofs.Plain
import AccessLog.Sink.Queue

/-!
# What becomes of the events handed to a queue

One queue between those who emit, through any number of clones of its sink and on threads of their own, and a
receiver, which its owner may read from, close, drop, or leave to a task that drains it into another sink. All
of them take turns in any order. Every emission is settled in one way; what comes out is what was accepted, in
order; and the counts are those of the refusals.
-/

namespace AccessLog

namespace Queue

variable {α : Type}

theorem offer_cases (q : Queue α) (a : α) :
    (q.receiver ≠ .listening ∧ q.offer a = (some .closed, q)) ∨
    (q.receiver = .listening ∧ q.capacity ≤ q.items.length ∧ q.offer a = (some .full, q)) ∨
    (q.receiver = .listening ∧ q.items.length < q.capacity ∧
      q.offer a = (none, { q with items := q.items ++ [a] })) := by
  by_cases ho : q.receiver = .listening
  · by_cases hl : q.capacity ≤ q.items.length
    · exact .inr (.inl ⟨ho, hl, offer_of_full a ho hl⟩)
    · refine .inr (.inr ⟨ho, Nat.lt_of_not_le hl, ?_⟩)
      rw [offer, if_neg (not_not_intro ho), if_neg hl]
  · exact .inl ⟨ho, offer_of_not_listening a ho⟩

theorem offer_accepted_iff (q : Queue α) (a : α) :
    (q.offer a).1 = none ↔ q.receiver = .listening ∧ q.items.length < q.capacity := by
  rcases q.offer_cases a with ⟨ho, h⟩ | ⟨ho, hl, h⟩ | ⟨ho, hl, h⟩
  · simp [h, ho]
  · simp [h, hl]
  · simp [h, ho, hl]

theorem offer_full_iff (q : Queue α) (a : α) :
    (q.offer a).1 = some .full ↔ q.receiver = .listening ∧ q.capacity ≤ q.items.length := by
  rcases q.offer_cases a with ⟨ho, h⟩ | ⟨ho, hl, h⟩ | ⟨ho, hl, h⟩
  · simp [h, ho]
  · simp [h, ho, hl]
  · simp [h, hl]

theorem offer_closed_iff (q : Queue α) (a : α) :
    (q.offer a).1 = some .closed ↔ q.receiver ≠ .listening := by
  rcases q.offer_cases a with ⟨ho, h⟩ | ⟨ho, -, h⟩ | ⟨ho, -, h⟩
  · simp [h, ho]
  · simp [h, ho]
  · simp [h, ho]

theorem offer_of_accepted {q : Queue α} {a : α} (h : (q.offer a).1 = none) :
    q.offer a = (none, { q with items := q.items ++ [a] }) := by
  rcases q.offer_cases a with ⟨-, hq⟩ | ⟨-, -, hq⟩ | ⟨-, -, hq⟩
  · rw [hq] at h
    cases h
  · rw [hq] at h
    cases h
  · exact hq

theorem offer_of_refused {q : Queue α} {a : α} {why : Refusal} (h : (q.offer a).1 = some why) :
    q.offer a = (some why, q) := by
  rcases q.offer_cases a with ⟨-, hq⟩ | ⟨-, -, hq⟩ | ⟨-, -, hq⟩
  · rw [hq] at h ⊢
    exact congrArg (·, q) h
  · rw [hq] at h ⊢
    exact congrArg (·, q) h
  · rw [hq] at h
    cases h

def Exhausted (q : Queue α) : Prop :=
  q.items = [] ∧ (q.senders = 0 ∨ q.receiver = .closed)

theorem receive_cases {q : Queue α} (h : q.receiver ≠ .gone) :
    (∃ a rest, q.items = a :: rest ∧ q.receive = (.item a, { q with items := rest })) ∨
    (q.items = [] ∧ q.Exhausted ∧ q.receive = (.disconnected, q)) ∨
    (q.items = [] ∧ ¬ q.Exhausted ∧ q.receive = (.empty, q)) := by
  obtain ⟨capacity, items, receiver, senders⟩ := q
  cases items with
  | cons a rest =>
    refine .inl ⟨a, rest, rfl, ?_⟩
    cases receiver with
    | gone => exact absurd rfl h
    | closed => rfl
    | listening => rfl
  | nil =>
    cases receiver with
    | gone => exact absurd rfl h
    | closed => exact .inr (.inl ⟨rfl, ⟨rfl, .inr rfl⟩, rfl⟩)
    | listening =>
      by_cases hs : senders = 0
      · exact .inr (.inl ⟨rfl, ⟨rfl, .inl hs⟩, by simp [receive, hs]⟩)
      · exact .inr (.inr ⟨rfl, by simp [Exhausted, hs], by simp [receive, hs]⟩)

end Queue

theorem Refusal.hash_reason_inj {a b : Refusal} :
    Counters.hash a.reason = Counters.hash b.reason ↔ a = b := by
  cases a <;> cases b <;> decide

namespace Sink

variable {counted : Bool} {e : Event} {s : Scene (Queue Event)} {q : Queue Event}

theorem queue_accepted (h : s.own.offer e = (none, q)) :
    Sink.queue counted e s = (.returned, { s with own := q }) := by
  simp [Sink.queue, h]

def countRefusal (counted : Bool) (why : Refusal) (c : Counters) : Counters :=
  if counted then c.countDropped why.reason else c

theorem queue_refused {why : Refusal} (h : s.own.offer e = (some why, s.own)) :
    Sink.queue counted e s =
      (.returned, (s.note (dropNote e why)).count (countRefusal counted why)) := by
  cases counted <;> simp [Sink.queue, h, countRefusal, Scene.count, Scene.note]

theorem droppedFor_countRefusal (counted : Bool) (why other : Refusal) (c : Counters) :
    (countRefusal counted why c).droppedFor other.reason =
      c.droppedFor other.reason + if counted ∧ why = other then 1 else 0 := by
  cases counted with
  | false => simp [countRefusal]
  | true => simp [countRefusal, Refusal.hash_reason_inj, eq_comm]

end Sink

theorem forward_append {σ : Type} (sink : Sink σ) (first second : List Event) (s : Scene σ) :
    forward sink (first ++ second) s =
      match forward sink first s with
      | (.returned, s) => forward sink second s
      | (.unwound, s) => (.unwound, s) := by
  induction first generalizing s with
  | nil => rfl
  | cons e rest ih =>
    simp only [List.cons_append, forward]
    split
    · exact ih _
    · rfl

theorem forward_concat {σ : Type} {sink : Sink σ} {events : List Event} {s t : Scene σ}
    (h : forward sink events s = (.returned, t)) (e : Event) :
    forward sink (events ++ [e]) s = sink e t := by
  rw [forward_append, h]
  simp only [forward]
  split
  · case h_1 u hu => rw [hu]
  · case h_2 u hu => rw [hu]

/-- How far the task has come that drains a queue into a sink. -/
inductive Drain where
  | idle
  | running
  | ended
  | unwound
  deriving DecidableEq, Repr

/-- A queue in use, with what has happened to it. `near` is the scene of those who emit, `far` that of the
sink which the queue is drained into. -/
structure Relay (σ : Type) where
  near : Scene (Queue Event)
  far : Scene σ
  drain : Drain := .idle
  settled : List (Event × Option Refusal) := []
  received : List Event := []
  forwarded : List Event := []

namespace Relay

variable {σ : Type}

inductive Turn where
  | emit (context : Diagnostic.Context) (e : Event)
  | cloneSender
  | dropSender
  | receive
  | close
  | dropReceiver
  | drain

def queue (r : Relay σ) : Queue Event := r.near.own

def withQueue (r : Relay σ) (q : Queue Event) : Relay σ := { r with near := { r.near with own := q } }

/-- Emitting takes a clone of the sink. The draining task owns the receiver from its first turn on. -/
def Enabled (r : Relay σ) : Turn → Prop
  | .emit .. | .cloneSender | .dropSender => 0 < r.queue.senders
  | .receive | .close => r.queue.receiver ≠ .gone ∧ r.drain = .idle
  | .dropReceiver | .drain => r.queue.receiver ≠ .gone

instance (r : Relay σ) (t : Turn) : Decidable (Enabled r t) := by
  cases t <;> simp only [Enabled] <;> infer_instance

/-- One turn of the draining task. When it ends, in whichever way, the receiver goes with it. -/
def nextDrain (sink : Sink σ) (r : Relay σ) : Relay σ :=
  match r.queue.receive with
  | (.item e, q) =>
    let taken := { r with forwarded := r.forwarded ++ [e] }
    match sink e r.far with
    | (.returned, far) => { taken.withQueue q with far, drain := .running }
    | (.unwound, far) => { taken.withQueue q.dropReceiver with far, drain := .unwound }
  | (.empty, q) => { r.withQueue q with drain := .running }
  | (.disconnected, q) =>
    { r.withQueue q.dropReceiver with far := r.far.note queueClosedNote, drain := .ended }

def next (counted : Bool) (sink : Sink σ) (r : Relay σ) : Turn → Relay σ
  | .emit context e =>
    { r with
      near := (Sink.queue counted e { r.near with context }).2
      settled := r.settled ++ [(e, (r.queue.offer e).1)] }
  | .cloneSender => r.withQueue r.queue.cloneSender
  | .dropSender => r.withQueue r.queue.dropSender
  | .receive =>
    match r.queue.receive with
    | (.item e, q) => { r.withQueue q with received := r.received ++ [e] }
    | (_, q) => r.withQueue q
  | .close => r.withQueue r.queue.close
  | .dropReceiver => r.withQueue r.queue.dropReceiver
  | .drain => r.nextDrain sink

def step (counted : Bool) (sink : Sink σ) (r : Relay σ) (t : Turn) : Relay σ :=
  if r.Enabled t then r.next counted sink t else r

def run (counted : Bool) (sink : Sink σ) (r : Relay σ) (turns : List Turn) : Relay σ :=
  turns.foldl (step counted sink) r

def start (q : Queue Event) (near : Scene Unit) (far : Scene σ) : Relay σ :=
  { near := near.withOwn q, far }

/-- The events that the queue accepted, in the order in which it did. -/
def accepted (r : Relay σ) : List Event := (r.settled.filter (·.2 = none)).map (·.1)

def refused (r : Relay σ) (why : Refusal) : Nat := r.settled.countP (·.2 = some why)

/-- Where the sink of the draining task has been led, and by which events. -/
def Forwarding (sink : Sink σ) (far : Scene σ) (r : Relay σ) : Prop :=
  match r.drain with
  | .idle => r.forwarded = [] ∧ r.far = far
  | .running => forward sink r.forwarded far = (.returned, r.far)
  | .ended => ∃ s, forward sink r.forwarded far = (.returned, s) ∧ r.far = s.note queueClosedNote
  | .unwound => forward sink r.forwarded far = (.unwound, r.far)

/-- The account of a queue for `room` events. `counters` and `far` are those at its start. -/
structure Accounted (counted : Bool) (sink : Sink σ) (room : Nat) (counters : Counters) (far : Scene σ)
    (r : Relay σ) : Prop where
  capacity_eq : r.queue.capacity = room
  length_le : r.queue.items.length ≤ room
  conserved : r.queue.receiver ≠ .gone → r.received ++ r.forwarded ++ r.queue.items = r.accepted
  taken_prefix : r.received ++ r.forwarded <+: r.accepted
  nothing_left : r.queue.receiver = .gone → r.queue.items = []
  dropped_eq : ∀ why, r.near.counters.droppedFor why.reason =
    counters.droppedFor why.reason + if counted then UInt64.ofNat (r.refused why) else 0
  forwarding : r.Forwarding sink far
  complete_of_ended : r.drain = .ended → r.received ++ r.forwarded = r.accepted
  gone_of_over : r.drain = .ended ∨ r.drain = .unwound → r.queue.receiver = .gone

/-- All that a turn of the draining task can come to. -/
theorem nextDrain_cases (sink : Sink σ) {r : Relay σ} (hn : r.queue.receiver ≠ .gone) :
    (∃ e rest far, r.queue.items = e :: rest ∧ sink e r.far = (.returned, far) ∧
      r.nextDrain sink = { r.withQueue { r.queue with items := rest } with
        far, forwarded := r.forwarded ++ [e], drain := .running }) ∨
    (∃ e rest far, r.queue.items = e :: rest ∧ sink e r.far = (.unwound, far) ∧
      r.nextDrain sink = { r.withQueue r.queue.dropReceiver with
        far, forwarded := r.forwarded ++ [e], drain := .unwound }) ∨
    (r.queue.Exhausted ∧ r.nextDrain sink = { r.withQueue r.queue.dropReceiver with
      far := r.far.note queueClosedNote, drain := .ended }) ∨
    (r.queue.items = [] ∧ ¬ r.queue.Exhausted ∧ r.nextDrain sink = { r with drain := .running }) := by
  rcases Queue.receive_cases hn with ⟨e, rest, hi, hr⟩ | ⟨-, hx, hr⟩ | ⟨hi, hx, hr⟩
  · cases ha : sink e r.far with
    | mk outcome far =>
      cases outcome with
      | returned =>
        refine .inl ⟨e, rest, far, hi, ha, ?_⟩
        unfold nextDrain
        simp only [hr, ha]
        rfl
      | unwound =>
        refine .inr (.inl ⟨e, rest, far, hi, ha, ?_⟩)
        unfold nextDrain
        simp only [hr, ha]
        rfl
  · refine .inr (.inr (.inl ⟨hx, ?_⟩))
    unfold nextDrain
    simp only [hr]
  · refine .inr (.inr (.inr ⟨hi, hx, ?_⟩))
    unfold nextDrain
    simp only [hr]
    rfl

/-- What one more emission comes to: one fate, and what that fate does to the emitting side. -/
structure Settles (counted : Bool) (room : Nat) (r : Relay σ) (context : Diagnostic.Context) (e : Event)
    (fate : Option Refusal) (after : Relay σ) : Prop where
  settled_eq : after.settled = r.settled ++ [(e, fate)]
  accepted_iff : fate = none ↔ r.queue.receiver = .listening ∧ r.queue.items.length < room
  full_iff : fate = some .full ↔ r.queue.receiver = .listening ∧ r.queue.items.length = room
  closed_iff : fate = some .closed ↔ r.queue.receiver ≠ .listening
  near_of_accepted : fate = none →
    after.near = { r.near with context, own := { r.queue with items := r.queue.items ++ [e] } }
  near_of_refused : ∀ why, fate = some why →
    after.near = (({ r.near with context } : Scene (Queue Event)).note (Sink.dropNote e why)).count
      (Sink.countRefusal counted why)
  rest_eq : after = { r with near := after.near, settled := after.settled }

section Step

variable {counted : Bool} {sink : Sink σ} {room : Nat} {counters : Counters} {far : Scene σ}
  {r : Relay σ}

theorem accounted_start {q : Queue Event} {capacity : Nat} (made : Queue.create? capacity = some q)
    (near : Scene Unit) : (start q near far).Accounted counted sink (max capacity 1) near.counters far := by
  have hq : q = ⟨max capacity 1, [], .listening, 1⟩ := by
    unfold Queue.create? at made
    split at made
    · cases made
    · exact (Option.some.inj made).symm
  subst hq
  constructor <;> simp [start, queue, Scene.withOwn, accepted, refused, Forwarding]

theorem Accounted.withQueue (h : r.Accounted counted sink room counters far) {q : Queue Event}
    (hc : q.capacity = r.queue.capacity) (hi : q.items = r.queue.items)
    (hg : q.receiver = .gone ↔ r.queue.receiver = .gone) :
    (r.withQueue q).Accounted counted sink room counters far := by
  have hq : (r.withQueue q).queue = q := rfl
  constructor
  · rw [hq, hc]; exact h.capacity_eq
  · rw [hq, hi]; exact h.length_le
  · rw [hq, hi]; exact fun hn => h.conserved (hn ∘ hg.mpr)
  · exact h.taken_prefix
  · rw [hq, hi]; exact fun hn => h.nothing_left (hg.mp hn)
  · exact h.dropped_eq
  · exact h.forwarding
  · exact h.complete_of_ended
  · rw [hq]; exact fun ho => hg.mpr (h.gone_of_over ho)

theorem Accounted.dropReceiver (h : r.Accounted counted sink room counters far) :
    (r.withQueue r.queue.dropReceiver).Accounted counted sink room counters far where
  capacity_eq := h.capacity_eq
  length_le := Nat.zero_le _
  conserved hn := absurd rfl hn
  taken_prefix := h.taken_prefix
  nothing_left _ := rfl
  dropped_eq := h.dropped_eq
  forwarding := h.forwarding
  complete_of_ended := h.complete_of_ended
  gone_of_over _ := rfl

theorem Accounted.settles (h : r.Accounted counted sink room counters far)
    (context : Diagnostic.Context) (e : Event) :
    ∃ fate, r.Settles counted room context e fate (r.next counted sink (.emit context e)) := by
  let found : Scene (Queue Event) := { r.near with context }
  have hc := h.capacity_eq
  have hl := h.length_le
  refine ⟨(r.queue.offer e).1, ?_⟩
  constructor
  · rfl
  · rw [Queue.offer_accepted_iff, hc]
  · rw [Queue.offer_full_iff, hc]
    exact and_congr_right fun _ => by omega
  · exact Queue.offer_closed_iff ..
  · intro hf
    exact congrArg Prod.snd (Sink.queue_accepted (s := found) (Queue.offer_of_accepted hf))
  · intro why hf
    exact congrArg Prod.snd (Sink.queue_refused (s := found) (Queue.offer_of_refused hf))
  · rfl

theorem Settles.accepted_eq {context : Diagnostic.Context} {e : Event} {fate : Option Refusal}
    {after : Relay σ} (h : r.Settles counted room context e fate after) :
    after.accepted = r.accepted ++ if fate = none then [e] else [] := by
  rw [accepted, h.settled_eq, List.filter_append, List.map_append, accepted]
  by_cases hf : fate = none
  · simp [hf]
  · simp [hf]

theorem Settles.refused_eq {context : Diagnostic.Context} {e : Event} {fate : Option Refusal}
    {after : Relay σ} (h : r.Settles counted room context e fate after) (why : Refusal) :
    after.refused why = r.refused why + if fate = some why then 1 else 0 := by
  rw [refused, h.settled_eq, List.countP_append, refused]
  by_cases hf : fate = some why
  · simp [hf]
  · simp [hf]

theorem Accounted.emit_accepted (h : r.Accounted counted sink room counters far)
    {context : Diagnostic.Context} {e : Event} {after : Relay σ}
    (hs : r.Settles counted room context e none after) :
    after.Accounted counted sink room counters far := by
  obtain ⟨ho, hr⟩ := hs.accepted_iff.mp rfl
  have hq : after.queue = { r.queue with items := r.queue.items ++ [e] } := by
    rw [queue, hs.near_of_accepted rfl]
  have hn : r.queue.receiver ≠ .gone := by simp [ho]
  have hv : after.received ++ after.forwarded ++ after.queue.items = after.accepted := by
    rw [hs.accepted_eq, ← h.conserved hn, hq, hs.rest_eq]
    simp
  constructor
  · rw [hq]; exact h.capacity_eq
  · rw [hq]; simp only [List.length_append, List.length_singleton]; omega
  · exact fun _ => hv
  · exact hv ▸ List.prefix_append ..
  · rw [hq]; exact fun hg => absurd hg hn
  · intro why
    rw [hs.refused_eq, hs.near_of_accepted rfl]
    simpa using h.dropped_eq why
  · rw [hs.rest_eq]; exact h.forwarding
  · rw [hs.rest_eq]; intro he; exact absurd (h.gone_of_over (.inl he)) hn
  · rw [hs.rest_eq]; intro he; exact absurd (h.gone_of_over he) hn

theorem Accounted.emit_refused (h : r.Accounted counted sink room counters far)
    {context : Diagnostic.Context} {e : Event} {why : Refusal} {after : Relay σ}
    (hs : r.Settles counted room context e (some why) after) :
    after.Accounted counted sink room counters far := by
  have hq : after.queue = r.queue := by
    rw [queue, hs.near_of_refused why rfl]; rfl
  have ha : after.accepted = r.accepted := by simp [hs.accepted_eq]
  constructor
  · rw [hq]; exact h.capacity_eq
  · rw [hq]; exact h.length_le
  · rw [hq, ha, hs.rest_eq]; exact h.conserved
  · rw [ha, hs.rest_eq]; exact h.taken_prefix
  · rw [hq]; exact h.nothing_left
  · intro other
    rw [hs.refused_eq, hs.near_of_refused why rfl]
    change (Sink.countRefusal counted why r.near.counters).droppedFor other.reason = _
    rw [Sink.droppedFor_countRefusal, h.dropped_eq other]
    cases counted with
    | false => simp
    | true => by_cases hw : why = other <;> simp [hw, UInt64.ofNat_add, UInt64.add_assoc]
  · rw [hs.rest_eq]; exact h.forwarding
  · rw [ha, hs.rest_eq]; exact h.complete_of_ended
  · rw [hq, hs.rest_eq]; exact h.gone_of_over

theorem Accounted.emit (h : r.Accounted counted sink room counters far)
    (context : Diagnostic.Context) (e : Event) :
    (r.next counted sink (.emit context e)).Accounted counted sink room counters far := by
  obtain ⟨fate, hs⟩ := h.settles context e
  cases fate with
  | none => exact h.emit_accepted hs
  | some why => exact h.emit_refused hs

theorem Accounted.forward_eq (h : r.Accounted counted sink room counters far)
    (hn : r.queue.receiver ≠ .gone) : forward sink r.forwarded far = (.returned, r.far) := by
  have hf := h.forwarding
  cases hd : r.drain with
  | idle =>
    simp only [Forwarding, hd] at hf
    rw [hf.1, hf.2]
    rfl
  | running => simpa only [Forwarding, hd] using hf
  | ended => exact absurd (h.gone_of_over (.inl hd)) hn
  | unwound => exact absurd (h.gone_of_over (.inr hd)) hn

theorem Accounted.receive (h : r.Accounted counted sink room counters far)
    (hn : r.queue.receiver ≠ .gone) (hd : r.drain = .idle) :
    (r.next counted sink .receive).Accounted counted sink room counters far := by
  rcases Queue.receive_cases hn with ⟨e, rest, hi, hr⟩ | ⟨-, -, hr⟩ | ⟨-, -, hr⟩
  · have hf : r.forwarded = [] := by
      have := h.forwarding
      simp only [Forwarding, hd] at this
      exact this.1
    have hv : r.received ++ [e] ++ r.forwarded ++ rest = r.accepted := by
      rw [← h.conserved hn, hi, hf]
      simp
    have hl := h.length_le
    rw [hi, List.length_cons] at hl
    simp only [next, hr]
    exact
      { capacity_eq := h.capacity_eq
        length_le := Nat.le_of_succ_le hl
        conserved := fun _ => hv
        taken_prefix := ⟨rest, hv⟩
        nothing_left := fun hg => absurd hg hn
        dropped_eq := h.dropped_eq
        forwarding := h.forwarding
        complete_of_ended := fun he => absurd (h.gone_of_over (.inl he)) hn
        gone_of_over := h.gone_of_over }
  · simp only [next, hr]
    exact h
  · simp only [next, hr]
    exact h

theorem Accounted.drain (h : r.Accounted counted sink room counters far)
    (hn : r.queue.receiver ≠ .gone) :
    (r.nextDrain sink).Accounted counted sink room counters far := by
  have hl := h.length_le
  have hc := h.conserved hn
  have hf := h.forward_eq hn
  rcases nextDrain_cases sink hn with ⟨e, rest, after, hi, ha, hr⟩ | ⟨e, rest, after, hi, ha, hr⟩ |
    ⟨hx, hr⟩ | ⟨-, -, hr⟩ <;> rw [hr]
  · have hv : r.received ++ (r.forwarded ++ [e]) ++ rest = r.accepted := by
      rw [← hc, hi]
      simp
    rw [hi, List.length_cons] at hl
    exact
      { capacity_eq := h.capacity_eq
        length_le := Nat.le_of_succ_le hl
        conserved := fun _ => hv
        taken_prefix := ⟨rest, hv⟩
        nothing_left := fun hg => absurd hg hn
        dropped_eq := h.dropped_eq
        forwarding := (forward_concat hf e).trans ha
        complete_of_ended := fun he => Drain.noConfusion he
        gone_of_over := fun he => he.elim Drain.noConfusion Drain.noConfusion }
  · have hv : r.received ++ (r.forwarded ++ [e]) ++ rest = r.accepted := by
      rw [← hc, hi]
      simp
    exact
      { h.dropReceiver with
        conserved := fun hg => absurd rfl hg
        taken_prefix := ⟨rest, hv⟩
        forwarding := (forward_concat hf e).trans ha
        complete_of_ended := fun he => Drain.noConfusion he
        gone_of_over := fun _ => rfl }
  · have hv : r.received ++ r.forwarded = r.accepted := by
      rw [← hc, hx.1, List.append_nil]
    exact
      { h.dropReceiver with
        forwarding := ⟨r.far, hf, rfl⟩
        complete_of_ended := fun _ => hv
        gone_of_over := fun _ => rfl }
  · exact
      { h with
        forwarding := hf
        complete_of_ended := fun he => Drain.noConfusion he
        gone_of_over := fun he => he.elim Drain.noConfusion Drain.noConfusion }

theorem Accounted.step (h : r.Accounted counted sink room counters far) (t : Turn) :
    (r.step counted sink t).Accounted counted sink room counters far := by
  unfold Relay.step
  split
  · case isTrue on =>
    cases t with
    | emit context e => exact h.emit context e
    | cloneSender => exact h.withQueue rfl rfl Iff.rfl
    | dropSender => exact h.withQueue rfl rfl Iff.rfl
    | receive => exact h.receive on.1 on.2
    | close =>
      refine h.withQueue rfl rfl ?_
      cases hr : r.queue.receiver <;> simp [Queue.close, hr]
    | dropReceiver => exact h.dropReceiver
    | drain => exact h.drain on
  · exact h

theorem Accounted.run (h : r.Accounted counted sink room counters far) (turns : List Turn) :
    (r.run counted sink turns).Accounted counted sink room counters far := by
  induction turns generalizing r with
  | nil => exact h
  | cons t rest ih => exact ih (h.step t)

end Step

end Relay

end AccessLog
