import AccessLog.Event
import AccessLog.Scene

/-!
# Sinks

Where finished events go. A sink may use the scene as it likes, and it may unwind. Three simple ones stand
here: the journal of traces, a record of everything seen, and one that always unwinds.
-/

namespace AccessLog

abbrev Sink (σ : Type) := Event → Scene σ → Outcome × Scene σ

/-- An event as a sink saw it: with the identifier in the diagnostic context, and the span around it. -/
structure Sighting where
  event : Event
  requestId : Option String
  span : Option String
  deriving DecidableEq, Repr

namespace Sink

variable {σ τ : Type}

def journal : Sink σ := fun e s => (.returned, s.note e.trace)

def recording : Sink (List Sighting) := fun e s =>
  let seen := ⟨e, s.context.get Diagnostic.requestIdKey, s.inside.head?.map (·.name)⟩
  (.returned, { s with own := s.own ++ [seen] })

def unwinding : Sink σ := fun _ s => (.unwound, s)

/-- A sink on a part of what is owned. -/
def within (part : τ → σ) (replace : σ → τ → τ) (sink : Sink σ) : Sink τ := fun e s =>
  let (outcome, after) := sink e (s.withOwn (part s.own))
  (outcome, after.withOwn (replace after.own s.own))

end Sink

end AccessLog
