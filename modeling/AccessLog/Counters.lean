import AccessLog.Decimal.Shortest
import AccessLog.Text.Utf8

/-!
# Counters

How many events were handed to the sink, how many requests were not logged because of their path, how many
events a sink dropped and why, and how many identifiers could not be read. A counter is a 64-bit word; it is
exported as the double nearest to it. Drops are counted by the hash of their reason, so that two reasons with the
same hash are counted together, under the name of the first.
-/

namespace AccessLog

structure Counters where
  emitted : UInt64 := 0
  blacklisted : UInt64 := 0
  malformed : UInt64 := 0
  dropped : List (String × UInt64) := []
  deriving DecidableEq, Repr

namespace Counters

instance : Inhabited Counters := ⟨{}⟩

def countEmitted (c : Counters) (n : UInt64 := 1) : Counters := { c with emitted := c.emitted + n }

def countBlacklisted (c : Counters) (n : UInt64 := 1) : Counters :=
  { c with blacklisted := c.blacklisted + n }

def countMalformed (c : Counters) (n : UInt64 := 1) : Counters :=
  { c with malformed := c.malformed + n }

def hash (reason : String) : UInt64 :=
  (utf8 reason).foldl (fun h b => (h ^^^ b.toUInt64) * 0x100_0000_01B3) 0xCBF2_9CE4_8422_2325

def bump (reason : String) : List (String × UInt64) → List (String × UInt64)
  | [] => [(reason, 1)]
  | (r, n) :: rest =>
    if hash r = hash reason then (r, n + 1) :: rest else (r, n) :: bump reason rest

def countDropped (c : Counters) (reason : String) : Counters :=
  { c with dropped := bump reason c.dropped }

def countOf (reason : String) : List (String × UInt64) → UInt64
  | [] => 0
  | (r, n) :: rest => if hash r = hash reason then n else countOf reason rest

def droppedFor (c : Counters) (reason : String) : UInt64 := countOf reason c.dropped

theorem countOf_bump (reason other : String) (l : List (String × UInt64)) :
    countOf other (bump reason l) =
      countOf other l + if hash other = hash reason then 1 else 0 := by
  induction l with
  | nil =>
    by_cases h : hash other = hash reason
    · simp [bump, countOf, h]
    · simp [bump, countOf, h, Ne.symm h]
  | cons x rest ih =>
    obtain ⟨r, n⟩ := x
    by_cases hr : hash r = hash reason
    · by_cases ho : hash other = hash reason
      · simp [bump, countOf, hr, ho]
      · have hn : hash reason ≠ hash other := Ne.symm ho
        simp [bump, countOf, hr, ho, hn]
    · by_cases ho : hash r = hash other
      · have hn : hash other ≠ hash reason := fun e => hr (ho.trans e)
        simp [bump, countOf, ho, hn]
      · simp [bump, countOf, hr, ho, ih]

@[simp] theorem droppedFor_countDropped (c : Counters) (reason other : String) :
    (c.countDropped reason).droppedFor other =
      c.droppedFor other + if hash other = hash reason then 1 else 0 :=
  countOf_bump reason other c.dropped

end Counters

/-- A named family of counters, each with the value of its label if it has one. -/
structure Family where
  name : String
  help : String
  samples : List (Option String × UInt64)

namespace Family

def escapeLabel (c : Char) : List Char :=
  if c = '\\' then ['\\', '\\']
  else if c = '"' then ['\\', '"']
  else if c = '\n' then ['\\', 'n']
  else [c]

def countText (n : UInt64) : String :=
  ((Double.ofFloat n.toFloat).text? .plain).getD ""

def sampleText (name : String) (sample : Option String × UInt64) : String :=
  let label := match sample.1 with
    | none => ""
    | some v => "\x7breason=\"" ++ String.ofList (v.toList.flatMap escapeLabel) ++ "\"\x7d"
  name ++ label ++ " " ++ countText sample.2 ++ "\n"

/-- A family without samples is left out. -/
def text (f : Family) : String :=
  if f.samples.isEmpty then ""
  else "# HELP " ++ f.name ++ " " ++ f.help ++ "\n# TYPE " ++ f.name ++ " counter\n"
    ++ String.join (f.samples.map (sampleText f.name))

end Family

namespace Counters

/-- The families in the order of their names, the drops in the order of their reasons. -/
def families (c : Counters) : List Family :=
  [⟨"request_log_events_blacklisted_total", "Requests not logged because their path is blacklisted",
      [(none, c.blacklisted)]⟩,
   ⟨"request_log_events_dropped_total", "Request log events dropped by the sink",
      (c.dropped.mergeSort fun a b => a.1 ≤ b.1).map fun (reason, n) => (some reason, n)⟩,
   ⟨"request_log_events_emitted_total", "Request log events handed to the sink",
      [(none, c.emitted)]⟩,
   ⟨"request_log_malformed_request_ids_total", "Response request id headers that failed to parse",
      [(none, c.malformed)]⟩]

def exportText (c : Counters) : String := String.join (c.families.map Family.text)

end Counters

end AccessLog
