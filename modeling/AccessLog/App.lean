import AccessLog.Host
import AccessLog.Settings
import AccessLog.Settings.Filter
import AccessLog.Sink.Queue

/-!
# The application

Settings, log, pipeline and host put together. It starts, serves exchanges, and stops. With the queue as its
sink, a task of its own writes out what is queued whenever the host waits.
-/

namespace AccessLog

namespace App

def version : String := "0.1.0"

/-- The clock, the queue between host and writing task, and the lines that a sink has written to the
standard output, each with the number of traces given before it. -/
structure Store where
  clock : Supply Instant
  queue : Queue Event
  written : List (Nat × String) := []

def readClock (o : Store) : Instant × Store :=
  let (now, clock) := o.clock.next
  (now, { o with clock })

def printing : Sink Store := fun e s =>
  let line := (s.journal.length, e.json)
  (.returned, { s with own := { s.own with written := s.own.written ++ [line] } })

def sinkFor : SinkKind → Sink Store
  | .tracing => Sink.journal
  | .stdout => printing
  | .channel => Sink.within Store.queue (fun queue o => { o with queue }) (Sink.queue true)

def pipelineFor (s : Settings) : Pipeline Store :=
  { blacklist := s.requestLog.blacklist
    service := s.service
    clock := readClock
    sink := sinkFor s.requestLog.sink
    counted := true }

def chainFor (s : Settings) : Chain (Scene Store) :=
  let chain := Chain.empty.add RequestIdHook.hook
  if s.requestLog.enabled then chain.add (RequestLogHook.hook (pipelineFor s)) else chain

def hostFor (s : Settings) : Host Store := { chain := chainFor s, exposesCounters := true }

/-- The queue that the settings ask for, and the smallest one where they ask for none. Nothing if it
cannot be made. -/
def queueFor? (r : RequestLogSettings) : Option (Queue Event) :=
  Queue.create? (if r.enabled ∧ r.sink = .channel then r.channelCapacity else 1)

inductive Failure where
  | settings (e : SettingsError)
  | queueTooLarge
  deriving DecidableEq, Repr

namespace Failure

def message : Failure → String
  | .settings e => "Error: " ++ e.debugText
  | .queueTooLarge =>
    "a semaphore may not have more than MAX_PERMITS permits (" ++ natText Queue.greatestCapacity ++ ")"

def exitCode : Failure → Nat
  | .settings _ => 1
  | .queueTooLarge => 101

end Failure

def startNotes (s : Settings) : List Trace :=
  .note .program .info "Starting request_log server..." [("version", .text version)]
    :: s.notes

/-- Up to the point where the host can listen. The traces given before a failure are kept. -/
def start (s : Settings) (eventIds requestIds : Nat → Uuid) (clock : Nat → Instant) :
    Option Failure × Scene Store :=
  let store (queue : Queue Event) : Store := { clock := { item := clock }, queue }
  let begun (queue : Queue Event) := (Scene.start eventIds requestIds (store queue)).notes (startNotes s)
  match queueFor? s.requestLog with
  | none => (some .queueTooLarge, begun ⟨1, [], .listening, 1⟩)
  | some queue =>
    let names := String.intercalate ", " (chainFor s).names
    (none, (begun queue).note (.note .program .info ("Middleware: " ++ names)))

def listenNote (address : String) : Trace := .note .program .info "Listening" [("addr", .shown address)]

def writeQueued (s : Scene Store) : Scene Store :=
  match s.own.queue.receive with
  | (.item e, queue) => (printing e { s with own := { s.own with queue } }).2
  | _ => s

def writeAllQueued (s : Scene Store) : Scene Store :=
  s.own.queue.items.foldl (fun s _ => writeQueued s) s

def begin (h : Host Store) (i : Incoming) (s : Scene Store) : Underway × Scene Store :=
  let (now, own) := readClock s.own
  h.begin i now { s with own }

/-- Serves one exchange, after which the writing task has its turns. -/
def serve (h : Host Store) (i : Incoming) (arrival : Arrival) (s : Scene Store) :
    Option Response × Scene Store :=
  let (u, s) := begin h i s
  let (res, s) := h.finish u arrival s
  (res, writeAllQueued s)

def stop (s : Scene Store) : Scene Store :=
  (s.note (.note .program .info "Shutting down...")).note Host.drainNote

inductive Output where
  | trace (e : Entry)
  | line (s : String)

def merged (n : Nat) : List Entry → List (Nat × String) → List Output
  | [], written => written.map fun (_, line) => .line line
  | e :: rest, written =>
    (written.takeWhile fun (at_, _) => at_ ≤ n).map (fun (_, line) => .line line)
      ++ .trace e :: merged (n + 1) rest (written.dropWhile fun (at_, _) => at_ ≤ n)

def outputs (s : Scene Store) : List Output := merged 0 s.journal s.own.written

/-- What stands on the standard output: the traces that pass the filter, and the lines of the sink. -/
def visible (filter : TraceFilter) (outputs : List Output) : List Output :=
  outputs.filter fun
    | .trace e => filter.passes e.trace
    | .line _ => true

end App

end AccessLog
