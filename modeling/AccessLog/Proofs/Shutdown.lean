import AccessLog.App.Turns
import AccessLog.Proofs.Logging
import AccessLog.Proofs.Startup

/-!
# What becomes of queued events when the application stops

As long as turns are taken, an event that the queue has accepted waits there or is written, in the order in which it
was accepted, and each event that was emitted is one of these or is counted as dropped. But the main task leaves
without a look at the queue, and what waits then is never written.
-/

namespace AccessLog

namespace App

/-- The lines of the events that the queue has accepted: first those that are written, then those that wait. -/
def Store.accepted (o : Store) : List String := o.written.map (·.2) ++ o.queue.items.map Event.json

/-- How many emitted events are neither accepted nor counted as dropped. -/
def unaccounted (s : Scene Store) : UInt64 :=
  s.counters.emitted - s.counters.droppedFor Refusal.full.reason - s.counters.droppedFor Refusal.closed.reason
    - UInt64.ofNat s.own.accepted.length

/-- From one scene to another, what was accepted has kept its place, and no event has gone astray. -/
structure Onward (before after : Scene Store) : Prop where
  accepted_kept : before.own.accepted <+: after.own.accepted
  unaccounted_eq : unaccounted after = unaccounted before
  receiver_eq : after.own.queue.receiver = before.own.queue.receiver

namespace Onward

variable {a b c : Scene Store}

theorem trans (ab : Onward a b) (bc : Onward b c) : Onward a c where
  accepted_kept := ab.accepted_kept.trans bc.accepted_kept
  unaccounted_eq := bc.unaccounted_eq.trans ab.unaccounted_eq
  receiver_eq := bc.receiver_eq.trans ab.receiver_eq

theorem of_eq (accepted : b.own.accepted = a.own.accepted)
    (receiver : b.own.queue.receiver = a.own.queue.receiver) (emitted : b.counters.emitted = a.counters.emitted)
    (dropped : b.counters.dropped = a.counters.dropped) : Onward a b where
  accepted_kept := accepted ▸ List.prefix_refl _
  unaccounted_eq := by simp only [unaccounted, Counters.droppedFor, accepted, emitted, dropped]
  receiver_eq := receiver

theorem of_steady (h : a.Steady b) : Onward a b :=
  of_eq (congrArg Store.accepted h.own_eq) (congrArg (·.queue.receiver) h.own_eq)
    (congrArg Counters.emitted h.counters_eq) (congrArg Counters.dropped h.counters_eq)

theorem refl (s : Scene Store) : Onward s s := of_steady ⟨rfl, rfl, rfl⟩

theorem of_taken {e : Event}
    (own : b.own = { a.own with queue := { a.own.queue with items := a.own.queue.items ++ [e] } })
    (counters : b.counters = a.counters.countEmitted) : Onward a b := by
  have accepted : b.own.accepted = a.own.accepted ++ [e.json] := by
    rw [own]
    simp [Store.accepted]
  refine ⟨accepted ▸ List.prefix_append .., ?_, congrArg (·.queue.receiver) own⟩
  rw [unaccounted, unaccounted, accepted, counters, List.length_append, List.length_singleton, UInt64.ofNat_add]
  simp only [Counters.countEmitted, Counters.droppedFor]
  grind

theorem of_refused {why : Refusal} (own : b.own = a.own)
    (counters : b.counters = (a.counters.countDropped why.reason).countEmitted) : Onward a b := by
  have accepted : b.own.accepted = a.own.accepted := congrArg Store.accepted own
  have emitted : b.counters.emitted = a.counters.emitted + 1 := congrArg (·.emitted) counters
  have dropped (other : Refusal) : b.counters.droppedFor other.reason =
      a.counters.droppedFor other.reason + if other = why then 1 else 0 := by
    have more := a.counters.droppedFor_countDropped why.reason other.reason
    simp only [Refusal.hash_reason_inj] at more
    rw [counters]
    exact more
  refine ⟨accepted ▸ List.prefix_refl _, ?_, congrArg (·.queue.receiver) own⟩
  rw [unaccounted, unaccounted, accepted, emitted, dropped, dropped]
  cases why with
  | full => grind
  | closed => grind

end Onward

section Channel

theorem sinkFor_channel_cases (e : Event) (s : Scene Store) :
    (sinkFor .channel e s = (.returned,
      { s with own := { s.own with queue := { s.own.queue with items := s.own.queue.items ++ [e] } } })) ∨
    ∃ why, sinkFor .channel e s =
      (.returned, (s.note (Sink.dropNote e why)).count (·.countDropped why.reason)) := by
  let near : Scene (Queue Event) := s.withOwn s.own.queue
  cases hf : (near.own.offer e).1 with
  | none =>
    have taken : Sink.queue true e near = _ := Sink.queue_accepted (Queue.offer_of_accepted hf)
    left
    simp only [sinkFor, Sink.within]
    rw [show s.withOwn s.own.queue = near from rfl, taken]
    rfl
  | some why =>
    have refused : Sink.queue true e near = _ := Sink.queue_refused (Queue.offer_of_refused hf)
    right
    use why
    simp only [sinkFor, Sink.within]
    rw [show s.withOwn s.own.queue = near from rfl, refused]
    rfl

variable {s : Settings} (channel : s.requestLog.sink = .channel)

include channel

theorem emit_onward (e : Event) (found : Scene Store) : Onward found ((pipelineFor s).emit e found).2 := by
  have sink : (pipelineFor s).sink = sinkFor .channel := congrArg sinkFor channel
  have own := ((pipelineFor s).emit_enclosed e found).after_own
  have counters := (pipelineFor s).emit_counters e found
  rw [Pipeline.settle_counters rfl, sink] at counters
  rw [sink] at own
  rcases sinkFor_channel_cases e (Pipeline.opening e found) with taken | ⟨why, refused⟩
  · rw [taken] at own counters
    exact .of_taken own counters
  · rw [refused] at own counters
    exact .of_refused own counters

omit channel in
theorem createEvent_onward (req : Request) (res : Response) (found : Scene Store) :
    Onward found ((pipelineFor s).createEvent req res found).2 := by
  rcases (pipelineFor s).createEvent_cases req res found with
    ⟨-, _, rfl | rfl, hb⟩ | ⟨-, e, _, -, -, hb⟩
  · rw [hb]
    exact .of_eq rfl rfl rfl rfl
  · rw [hb]
    exact .of_eq rfl rfl rfl rfl
  · obtain ⟨malformed, hm⟩ := (pipelineFor s).recount_eq res found.counters
    rw [hm] at hb
    rw [hb]
    exact .of_eq rfl rfl rfl rfl

theorem log_onward (req : Request) (res : Response) (found : Scene Store) :
    Onward found ((pipelineFor s).log req res found).2 := by
  cases hp : (pipelineFor s).blacklist.shouldLog req.path with
  | false =>
    rw [Pipeline.log_of_blacklisted res found hp]
    exact .of_eq rfl rfl rfl rfl
  | true =>
    have made := createEvent_onward (s := s) req res found
    cases hb : (pipelineFor s).createEvent req res found with
    | mk e? built =>
      rw [hb] at made
      cases e? with
      | none =>
        rw [Pipeline.log_of_not_built hp hb]
        exact made
      | some e =>
        rw [Pipeline.log_of_built hp hb]
        exact made.trans (emit_onward channel e built)

theorem hooks_onward :
    ∀ h ∈ (chainFor s).hooks, (∀ req ctx found, Onward found (h.onRequest req ctx found).2) ∧
      ∀ res ctx found, Onward found (h.onResponse res ctx found).2 := by
  have identify : (∀ req ctx found, Onward found (RequestIdHook.hook.onRequest req ctx found).2) ∧
      ∀ res ctx found, Onward found (RequestIdHook.hook.onResponse res ctx found).2 :=
    ⟨fun req _ found => .of_steady (Host.steady_resolve req found), fun _ _ found => .refl found⟩
  cases enabled : s.requestLog.enabled with
  | false =>
    intro h hh
    have alone : (chainFor s).hooks = [RequestIdHook.hook] := by
      rw [chainFor, enabled]
      exact List.mergeSort_singleton _
    obtain rfl := List.mem_singleton.mp (alone ▸ hh)
    exact identify
  | true =>
    have both : (chainFor s).hooks = Host.loggingHooks (pipelineFor s) true := by
      have same := (hostFor_eq enabled).trans (Host.logging_eq ..)
      exact congrArg (·.chain.hooks) same
    rw [both]
    refine List.forall_mem_cons.mpr ⟨⟨fun _ _ found => .refl found, fun res ctx found => ?_⟩, ?_⟩
    · show Onward found (RequestLogHook.onResponse (pipelineFor s) res ctx found).2
      cases kept : ctx.get? Request RequestLogHook.key with
      | none =>
        rw [RequestLogHook.onResponse, kept]
        exact .of_eq rfl rfl rfl rfl
      | some req =>
        rw [RequestLogHook.onResponse_of_kept _ _ _ kept]
        exact log_onward channel req res found
    · exact List.forall_mem_singleton.mpr identify

theorem begin_onward (i : Incoming) (at_ : Instant) (found : Scene Store) :
    Onward found ((hostFor s).begin i at_ found).2 :=
  Chain.requestThrough_along Onward.refl Onward.trans (fun h hh => (hooks_onward channel h hh).1 _) _ found

theorem finish_onward (u : Underway) (arrival : Arrival) (found : Scene Store) :
    Onward found ((hostFor s).finish u arrival found).2 := by
  have answered := Onward.of_steady ((hostFor s).answer_steady u.request arrival found)
  refine answered.trans (Chain.responseThrough_along Onward.refl Onward.trans (fun h hh res => ?_) _ _)
  exact (hooks_onward channel h (List.mem_reverse.mp hh)).2 res u.context

theorem exchange_onward (r : Host.Running Store) (t : Host.Turn) :
    Onward r.scene (r.next (hostFor s) t).scene := by
  cases t with
  | begin number i at_ =>
    rw [Host.Running.next]
    split
    · exact .refl r.scene
    · exact begin_onward channel i at_ r.scene
  | finish number arrival =>
    rw [Host.Running.next]
    cases r.underway.lookup number with
    | none => exact .refl r.scene
    | some u => exact finish_onward channel u arrival r.scene

end Channel

theorem writeQueued_of_cons {s : Scene Store} {e : Event} {rest : List Event}
    (waits : s.own.queue.items = e :: rest) (there : s.own.queue.receiver ≠ .gone) :
    writeQueued s = { s with own := { s.own with
      queue := { s.own.queue with items := rest }
      written := s.own.written ++ [(s.journal.length, e.json)] } } := by
  rcases Queue.receive_cases there with ⟨a, others, hi, received⟩ | ⟨hi, -⟩ | ⟨hi, -⟩
  · obtain ⟨rfl, rfl⟩ := List.cons.inj (waits.symm.trans hi)
    rw [writeQueued, received]
    rfl
  · rw [waits] at hi
    cases hi
  · rw [waits] at hi
    cases hi

theorem accepted_writeQueued {s : Scene Store} {e : Event} {rest : List Event}
    (waits : s.own.queue.items = e :: rest) (there : s.own.queue.receiver ≠ .gone) :
    (writeQueued s).own.accepted = s.own.accepted := by
  rw [writeQueued_of_cons waits there]
  simp [Store.accepted, waits]

theorem write_onward {s : Scene Store} (waits : s.own.queue.items ≠ []) (there : s.own.queue.receiver ≠ .gone) :
    Onward s (writeQueued s) := by
  obtain ⟨e, rest, first⟩ := List.exists_cons_of_ne_nil waits
  apply Onward.of_eq (accepted_writeQueued first there)
  · rw [writeQueued_of_cons first there]
  · rw [writeQueued_of_cons first there]
  · rw [writeQueued_of_cons first there]

structure Fresh (s : Scene Store) : Prop where
  counters_eq : s.counters = {}
  written_eq : s.own.written = []
  items_eq : s.own.queue.items = []
  receiver_eq : s.own.queue.receiver = .listening

theorem Fresh.unaccounted_eq {s : Scene Store} (h : Fresh s) : unaccounted s = 0 := by
  rw [unaccounted, h.counters_eq, Store.accepted, h.written_eq, h.items_eq]
  decide

namespace Running

def opened (s : Settings) (eventIds requestIds : Nat → Uuid) (clock : Nat → Instant) (address : String) : Running :=
  ⟨⟨(start s eventIds requestIds clock).2.note (listenNote address), [], []⟩, .serving⟩

theorem fresh_opened (s : Settings) (eventIds requestIds : Nat → Uuid) (clock : Nat → Instant) (address : String) :
    Fresh (opened s eventIds requestIds clock address).scene := by
  have begun (queue : Queue Event) (empty : queue.items = []) (listening : queue.receiver = .listening) :
      Fresh ((Scene.start eventIds requestIds (⟨⟨clock, 0⟩, queue, []⟩ : Store)).notes (startNotes s)) := by
    rw [Scene.notes_eq]
    exact ⟨rfl, rfl, empty, listening⟩
  have noted {found : Scene Store} (h : Fresh found) (t : Trace) : Fresh (found.note t) := ⟨h.1, h.2, h.3, h.4⟩
  unfold opened start
  cases hq : queueFor? s.requestLog with
  | none => exact noted (begun _ rfl rfl) _
  | some queue =>
    obtain ⟨-, made⟩ := Option.ite_none_left_eq_some.mp hq
    obtain rfl := Option.some.inj made
    exact noted (noted (begun _ rfl rfl) _) _

section Turns

variable {s : Settings} {r u : Running}

theorem next_onward (channel : s.requestLog.sink = .channel) (there : r.scene.own.queue.receiver ≠ .gone) {t : Turn}
    (on : Enabled r t) : Onward r.scene (r.next (hostFor s) t).scene := by
  cases t with
  | exchange t => exact exchange_onward channel r.host t
  | write => exact write_onward on.2 there
  | interrupt => exact .of_eq rfl rfl rfl rfl
  | leave => exact .refl r.scene

theorem Reaches.onward (channel : s.requestLog.sink = .channel) (there : r.scene.own.queue.receiver ≠ .gone)
    (reached : Reaches (hostFor s) r u) : Onward r.scene u.scene := by
  induction reached with
  | refl => exact .refl r.scene
  | tail _ on ih => exact ih.trans (next_onward channel (ih.receiver_eq ▸ there) on)

theorem Reaches.eq_of_ended (reached : Reaches (hostFor s) r u) (ended : r.phase = .ended) : u = r := by
  induction reached with
  | refl => rfl
  | @tail u t _ on ih =>
    subst ih
    cases t with
    | exchange t => exact absurd ended on.1
    | write => exact absurd ended on.1
    | interrupt =>
      have serving : u.phase = .serving := on
      rw [ended] at serving
      cases serving
    | leave =>
      have stopping : u.phase = .stopping := on.1
      rw [ended] at stopping
      cases stopping

theorem exists_written (there : r.scene.own.queue.receiver ≠ .gone) (lasts : r.phase ≠ .ended) :
    ∃ u, Reaches (hostFor s) r u ∧ u.phase = r.phase ∧ u.host.underway = r.host.underway ∧
      u.scene.own.written.map (·.2) = r.scene.own.accepted := by
  generalize waits : r.scene.own.queue.items = items
  induction items generalizing r with
  | nil => exact ⟨r, .refl r, rfl, rfl, by simp [Store.accepted, waits]⟩
  | cons e rest ih =>
    have on : Enabled r .write := ⟨lasts, by simp [waits]⟩
    have wrote : (r.next (hostFor s) .write).scene = writeQueued r.scene := rfl
    have first := writeQueued_of_cons waits there
    have kept := accepted_writeQueued waits there
    obtain ⟨u, later, phase, underway, written⟩ := ih (r := r.next (hostFor s) .write)
      (by rw [wrote, first]; exact there) lasts (by rw [wrote, first])
    exact ⟨u, (Reaches.tail (.refl r) on).trans later, phase, underway, written.trans (wrote ▸ kept)⟩

end Turns

/-- However the turns come, each emitted event is written, waits, or is counted as dropped; what is accepted keeps its
place; and until the main task has left it may all be written yet. -/
theorem emitted_accounted {s : Settings} (channel : s.requestLog.sink = .channel) (eventIds requestIds : Nat → Uuid)
    (clock : Nat → Instant) (address : String) {r : Running}
    (reached : Reaches (hostFor s) (opened s eventIds requestIds clock address) r) :
    let counters := r.scene.counters
    let o := r.scene.own
    counters.emitted = UInt64.ofNat (o.written.length + o.queue.items.length) +
      counters.droppedFor Refusal.full.reason + counters.droppedFor Refusal.closed.reason ∧
    (∀ u, Reaches (hostFor s) r u → o.accepted <+: u.scene.own.accepted) ∧
    (r.phase = .ended → ∀ u, Reaches (hostFor s) r u → u = r) ∧
    (r.phase ≠ .ended → ∃ u, Reaches (hostFor s) r u ∧ u.phase = r.phase ∧ u.host.underway = r.host.underway ∧
      u.scene.own.written.map (·.2) = o.accepted) := by
  intro counters o
  have fresh := fresh_opened s eventIds requestIds clock address
  have came := reached.onward channel (by rw [fresh.receiver_eq]; decide)
  have there : r.scene.own.queue.receiver ≠ .gone := by
    rw [came.receiver_eq, fresh.receiver_eq]
    decide
  refine ⟨?_, fun u later => (later.onward channel there).accepted_kept, fun ended u later => later.eq_of_ended ended,
    exists_written there⟩
  have balance := came.unaccounted_eq
  have length : o.accepted.length = o.written.length + o.queue.items.length := by simp [Store.accepted]
  rw [fresh.unaccounted_eq, unaccounted, length] at balance
  grind

/-- An exchange begins and ends, the application is interrupted, and the main task leaves before the writing task has
had a turn: one event was emitted and none dropped, and no line will ever be written. -/
theorem exists_ended_unwritten :
    let v := Variables.ofPairs [("REQUEST_LOG_SINK", "channel")]
    ∃ s, Settings.load v = .ok s ∧ ∃ r,
      Reaches (hostFor s) (opened s default default (fun _ => ⟨1000000⟩) "127.0.0.1:8080") r ∧
      (∀ u, Reaches (hostFor s) r u → u = r) ∧ r.host.answers.length = 1 ∧ r.host.underway = [] ∧
      r.scene.counters = { emitted := 1 } ∧ r.scene.own.written = [] ∧ r.scene.own.queue.items.length = 1 := by
  intro v
  let s : Settings :=
    { listen := ⟨.v4 0 0 0 0, 8080, 0⟩
      requestLog := { sink := .channel, channelCapacity := 10000 }
      service := {}
      log := {} }
  have loaded : Settings.load v = .ok s := Settings.load_of_toOption (by decide +kernel)
  let first := opened s default default (fun _ => ⟨1000000⟩) "127.0.0.1:8080"
  let get : Incoming := { method := .get, target := .root, headers := .empty, remote := ⟨.v4 127 0 0 1, 9000, 0⟩ }
  let h : Host Store := ⟨⟨Host.loggingHooks (pipelineFor s) true⟩, true⟩
  have same : hostFor s = h := (hostFor_eq rfl).trans (Host.logging_eq ..)
  let begun := first.next h (.exchange (.begin 0 get ⟨0⟩))
  let finished := begun.next h (.exchange (.finish 0 (.whole [])))
  let stopping := finished.next h .interrupt
  have reached : Reaches h first (stopping.next h .leave) := by
    refine .tail (.tail (.tail (.tail (.refl first) ?_) ?_) ?_) ?_
    · exact (by decide +kernel : Enabled first (.exchange (.begin 0 get ⟨0⟩)))
    · exact (by decide +kernel : Enabled begun (.exchange (.finish 0 (.whole []))))
    · exact (by decide +kernel : Enabled finished .interrupt)
    · exact (by decide +kernel : Enabled stopping .leave)
  refine ⟨s, loaded, stopping.next h .leave, same ▸ reached, fun u later => later.eq_of_ended rfl, ?_⟩
  decide +kernel

end Running

end App

end AccessLog
