import AccessLog.Sink

/-!
# Lines to a writer

One JSON object on a line for each event. The writer takes as much of a line as it likes in one call, asks to be
called again, fails, or unwinds; a line is offered until all of it is taken, and flushed then. A failure is
reported and the rest of the line given up. The writer stands behind a lock, which it is taken out of whether
or not the lock is poisoned.
-/

namespace AccessLog

/-- A value behind a lock. Whoever unwinds with the lock in hand leaves it poisoned. -/
structure Locked (α : Type) where
  value : α
  poisoned : Bool := false
  deriving DecidableEq, Repr

namespace Locked

variable {α : Type}

def acquire (l : Locked α) : Except α α := if l.poisoned then .error l.value else .ok l.value

def recover : Except α α → α
  | .ok a => a
  | .error a => a

def release (l : Locked α) (outcome : Outcome) (value : α) : Locked α :=
  ⟨value, l.poisoned || outcome = .unwound⟩

def unlocked (l : Locked α) : α := recover l.acquire

@[simp] theorem recover_acquire (l : Locked α) : recover l.acquire = l.value := by
  unfold acquire; split <;> rfl

end Locked

inductive Reply where
  | accepts (most : Option Nat)
  | interrupted
  | failed (reason : String)
  | unwinds
  deriving DecidableEq, Repr

inductive FlushReply where
  | done
  | failed (reason : String)
  | unwinds
  deriving DecidableEq, Repr

inductive Ending where
  | complete
  | failed (reason : String)
  | unwound
  deriving DecidableEq, Repr

def FlushReply.ending : FlushReply → Ending
  | .done => .complete
  | .failed reason => .failed reason
  | .unwinds => .unwound

/-- The replies of a writer, by the number of the call or the flush. From call `calm` on none is an
interruption: a writer that interrupts for ever would never let an offer end. -/
structure Behaviour where
  replies : Nat → Reply := fun _ => .accepts none
  flushes : Nat → FlushReply := fun _ => .done
  calm : Nat := 0
  not_interrupted : ∀ n, calm ≤ n → replies n ≠ .interrupted := by simp

/-- A writer with the numbers of calls and flushes so far, and what it has accepted. -/
structure Writer extends Behaviour where
  calls : Nat := 0
  flushed : Nat := 0
  written : Bytes := []

namespace Behaviour

/-- The replies listed, after which each call accepts up to `room` bytes, or all without a limit. -/
def scripted (script : List Reply) (room : Option Nat) (flushing : FlushReply) : Behaviour where
  replies n := script.getD n (.accepts room)
  flushes _ := flushing
  calm := script.length
  not_interrupted n h := by simp [List.getElem?_eq_none h]

end Behaviour

namespace Writer

structure Progress where
  accepted : Bytes
  calls : Nat
  ending : Ending
  deriving DecidableEq, Repr

def nothingAccepted : String := "failed to write whole buffer"

def Progress.after (taken : Bytes) (p : Progress) : Progress :=
  { p with accepted := taken ++ p.accepted, calls := p.calls + 1 }

def share (most : Option Nat) (bytes : Bytes) : Bytes :=
  match most with
  | none => bytes
  | some n => bytes.take n

/-- Offers the bytes until all are taken, from call number `call` on. -/
def offer (b : Behaviour) (call : Nat) (bytes : Bytes) : Progress :=
  if _h : bytes = [] then ⟨[], 0, .complete⟩
  else match _hr : b.replies call with
  | .accepts most =>
    if _ht : share most bytes = [] then ⟨[], 1, .failed nothingAccepted⟩
    else (offer b (call + 1) (bytes.drop (share most bytes).length)).after (share most bytes)
  | .interrupted => (offer b (call + 1) bytes).after []
  | .failed reason => ⟨[], 1, .failed reason⟩
  | .unwinds => ⟨[], 1, .unwound⟩
termination_by bytes.length + (b.calm - call)
decreasing_by
  · have := List.length_pos_iff.mpr _h
    have := List.length_pos_iff.mpr _ht
    simp only [List.length_drop]
    omega
  · have : call < b.calm := Nat.lt_of_not_le fun h => b.not_interrupted call h _hr
    omega

def writeAll (w : Writer) (bytes : Bytes) : Ending × Writer :=
  let p := offer w.toBehaviour w.calls bytes
  (p.ending, { w with calls := w.calls + p.calls, written := w.written ++ p.accepted })

def flush (w : Writer) : Ending × Writer :=
  ((w.flushes w.flushed).ending, { w with flushed := w.flushed + 1 })

/-- Writes a line and flushes it; nothing is flushed after a failure. -/
def writeLine (w : Writer) (line : Bytes) : Ending × Writer :=
  match w.writeAll line with
  | (.complete, w) => w.flush
  | failure => failure

end Writer

namespace Event

def lineBytes (e : Event) : Bytes := utf8 e.json ++ [10]

end Event

namespace Sink

def writeWarning (reason : String) : Trace :=
  .note .sink .warn "Failed to write request log event" [("error", .shown reason)]

/-- Writes each event on a line. The warning on a failure is given with the lock still in hand. -/
def lines : Sink (Locked Writer) := fun e s =>
  let (ending, w) := (Locked.recover s.own.acquire).writeLine e.lineBytes
  let leave (outcome : Outcome) := { s with own := s.own.release outcome w }
  match ending with
  | .complete => (.returned, leave .returned)
  | .failed reason => (.returned, (leave .returned).note (writeWarning reason))
  | .unwound => (.unwound, leave .unwound)

end Sink

end AccessLog
