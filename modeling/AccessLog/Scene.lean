import AccessLog.Counters
import AccessLog.Diagnostic
import AccessLog.Trace
import AccessLog.Uuid

/-!
# The scene of an emission

What the pipeline, its sink and the hooks around it find and leave behind: the diagnostic context of the
thread, the spans, the traces given so far, the counters, and the sources of new identifiers. The part
`own` belongs to the sink and the clock in use.
-/

namespace AccessLog

/-- An endless supply, and how much of it is taken. -/
structure Supply (α : Type) where
  item : Nat → α
  taken : Nat := 0

def Supply.next {α : Type} (s : Supply α) : α × Supply α :=
  (s.item s.taken, { s with taken := s.taken + 1 })

/-- A trace, and what the diagnostic context held for its line. -/
structure Entry where
  trace : Trace
  requestId : Option String

def Entry.line (e : Entry) (service time : String) : String := e.trace.line service time e.requestId

def Entry.lineBytes (e : Entry) (service time : String) : Bytes := utf8 (e.line service time) ++ [10]

structure Span where
  name : String
  fields : List (String × String)
  deriving DecidableEq, Repr

def Span.text (s : Span) : String :=
  s.name ++ String.join (s.fields.map fun (k, v) => " " ++ k ++ "=" ++ v)

structure Scene (σ : Type) where
  context : Diagnostic.Context
  spans : List Span
  /-- The spans that the work is inside, innermost first. -/
  inside : List Span
  journal : List Entry
  counters : Counters
  eventIds : Supply Uuid
  requestIds : Supply Uuid
  own : σ

/-- How a call came back: it may unwind instead of returning. -/
inductive Outcome where
  | returned
  | unwound
  deriving DecidableEq, Repr

namespace Scene

variable {σ τ : Type}

def start (eventIds requestIds : Nat → Uuid) (own : σ) : Scene σ :=
  { context := .empty, spans := [], inside := [], journal := [], counters := {}
    eventIds := { item := eventIds }, requestIds := { item := requestIds }, own }

def note (s : Scene σ) (t : Trace) : Scene σ :=
  { s with journal := s.journal ++ [⟨t, s.context.get Diagnostic.requestIdKey⟩] }

def notes (s : Scene σ) (ts : List Trace) : Scene σ := ts.foldl note s

def count (s : Scene σ) (f : Counters → Counters) : Scene σ := { s with counters := f s.counters }

def enterSpan (s : Scene σ) (span : Span) : Scene σ :=
  { s with spans := s.spans ++ [span], inside := span :: s.inside }

/-- The same scene for the owner of a part. -/
def withOwn (s : Scene σ) (own : τ) : Scene τ :=
  { context := s.context, spans := s.spans, inside := s.inside, journal := s.journal
    counters := s.counters, eventIds := s.eventIds, requestIds := s.requestIds, own }

def freshEventId (s : Scene σ) : Uuid × Scene σ :=
  let (id, rest) := s.eventIds.next
  (id, { s with eventIds := rest })

def freshRequestId (s : Scene σ) : Uuid × Scene σ :=
  let (id, rest) := s.requestIds.next
  (id, { s with requestIds := rest })

end Scene

end AccessLog
