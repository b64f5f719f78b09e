import AccessLog.Sink

/-!
# Bounded queues

Events handed over without waiting. A queue holds a fixed number of items at most; what does not fit, or comes
when nobody will receive any more, is refused. Senders can be cloned and dropped; the receiver can close the
queue and still take out what is left, or go away with it.
-/

namespace AccessLog

inductive Receiver where
  | listening
  | closed
  | gone
  deriving DecidableEq, Repr

structure Queue (α : Type) where
  capacity : Nat
  items : List α
  receiver : Receiver
  senders : Nat
  deriving DecidableEq, Repr

inductive Refusal where
  | full
  | closed
  deriving DecidableEq, Repr

def Refusal.reason : Refusal → String
  | .full => "full"
  | .closed => "closed"

inductive Received (α : Type) where
  | item (a : α)
  | empty
  | disconnected
  deriving DecidableEq, Repr

namespace Queue

variable {α : Type}

def greatestCapacity : Nat := 0x1FFF_FFFF_FFFF_FFFF

/-- A queue for at least one item, with one sender. Nothing if it would be too large to make. -/
def create? (capacity : Nat) : Option (Queue α) :=
  if greatestCapacity < capacity then none
  else some ⟨max capacity 1, [], .listening, 1⟩

/-- A queue that is not listened to refuses even when it is full. -/
def offer (q : Queue α) (a : α) : Option Refusal × Queue α :=
  if q.receiver ≠ .listening then (some .closed, q)
  else if q.capacity ≤ q.items.length then (some .full, q)
  else (none, { q with items := q.items ++ [a] })

def receive (q : Queue α) : Received α × Queue α :=
  match q.receiver, q.items with
  | .gone, _ => (.disconnected, q)
  | _, a :: rest => (.item a, { q with items := rest })
  | .closed, [] => (.disconnected, q)
  | .listening, [] => (if q.senders = 0 then .disconnected else .empty, q)

/-- Refuses from now on; what is inside can still be taken out. -/
def close (q : Queue α) : Queue α :=
  { q with receiver := if q.receiver = .listening then .closed else q.receiver }

def dropReceiver (q : Queue α) : Queue α := { q with receiver := .gone, items := [] }

def cloneSender (q : Queue α) : Queue α := { q with senders := q.senders + 1 }

def dropSender (q : Queue α) : Queue α := { q with senders := q.senders - 1 }

inductive Step (α : Type) where
  | offer (a : α)
  | receive
  | close
  | dropReceiver
  | cloneSender
  | dropSender
  deriving DecidableEq, Repr

def next (q : Queue α) : Step α → Queue α
  | .offer a => (q.offer a).2
  | .receive => q.receive.2
  | .close => q.close
  | .dropReceiver => q.dropReceiver
  | .cloneSender => q.cloneSender
  | .dropSender => q.dropSender

theorem offer_of_full {q : Queue α} (a : α) (ho : q.receiver = .listening)
    (h : q.capacity ≤ q.items.length) : q.offer a = (some .full, q) := by
  simp [offer, ho, h]

theorem offer_of_not_listening {q : Queue α} (a : α) (h : q.receiver ≠ .listening) :
    q.offer a = (some .closed, q) := by simp [offer, h]

end Queue

namespace Sink

def dropNote (e : Event) (refusal : Refusal) : Trace :=
  .note .sink .debug "Dropping request log event"
    [("reason", .text refusal.reason), ("event_id", .shown e.eventId.text)]

/-- Hands each event to the queue. An event that is refused is reported, and counted where `counted`. -/
def queue (counted : Bool) : Sink (Queue Event) := fun e s =>
  match s.own.offer e with
  | (none, q) => (.returned, { s with own := q })
  | (some refusal, q) =>
    let s := { s with own := q }.note (dropNote e refusal)
    (.returned, if counted then s.count (·.countDropped refusal.reason) else s)

end Sink

def queueClosedNote : Trace := .note .sink .debug "Request log queue closed"

/-- Forwards events to a sink, one after another; stops where it unwinds. -/
def forward {σ : Type} (sink : Sink σ) : List Event → Scene σ → Outcome × Scene σ
  | [], s => (.returned, s)
  | e :: rest, s =>
    match sink e s with
    | (.returned, s) => forward sink rest s
    | (.unwound, s) => (.unwound, s)

/-- Forwards what is in a queue to a sink, when no sender is left to add to it. -/
def drainInto {σ : Type} (sink : Sink σ) (q : Queue Event) (s : Scene σ) : Outcome × Scene σ :=
  match forward sink q.items s with
  | (.returned, s) => (.returned, s.note queueClosedNote)
  | (.unwound, s) => (.unwound, s)

end AccessLog
