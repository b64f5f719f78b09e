import AccessLog.App
import AccessLog.Proofs.Decimal.Reader
import AccessLog.Proofs.Pipeline

/-!
# Settings that the application cannot start with

Any 64-bit number above zero is accepted as the capacity of the queue, but no queue can be made for that many events.
Who asks for one above the greatest capacity gets settings without a fault and an application that does not start;
everybody else gets one that does.
-/

namespace AccessLog

theorem SinkKind.parse_eq_channel {s : String} : parse s = .ok .channel ↔ lowercase s = "channel" := by
  unfold parse
  by_cases ht : lowercase s = "tracing"
  · simp [ht]
  · by_cases ho : lowercase s = "stdout"
    · simp [ho]
    · by_cases hc : lowercase s = "channel"
      · simp [hc]
      · simp [ht, ho, hc]

namespace RequestLogSettings

variable {v : Variables} {r : RequestLogSettings}

theorem loadSink_eq_channel :
    loadSink v = .ok .channel ↔
      ∃ raw, v.given "REQUEST_LOG_SINK" = some raw ∧ lowercase raw = "channel" := by
  unfold loadSink
  cases hv : v.given "REQUEST_LOG_SINK" with
  | none => simp
  | some raw =>
    simp only [Option.some.injEq, exists_eq_left', ← SinkKind.parse_eq_channel]
    cases SinkKind.parse raw with
    | ok kind => simp
    | error detail => simp

/-- The capacity that is asked for: a 64-bit number, or ten thousand where none is given. -/
def Asks (v : Variables) (capacity : Nat) : Prop :=
  (v.given capacityKey = none ∧ capacity = 10000) ∨
  ∃ raw, v.given capacityKey = some raw ∧ Decimal.Spells raw.toList capacity ∧ capacity < Nat.pow 2 64

theorem integer_eq_ok {raw : String} {n : Int} :
    Reading.integer (.unsigned 64) raw = .ok n ↔
      ∃ m, Decimal.Spells raw.toList m ∧ m < Nat.pow 2 64 ∧ n = m := by
  rw [← IntegerRange.read_unsigned_eq_ok, Reading.integer]
  cases (IntegerRange.unsigned 64).read raw.toList with
  | ok m => simp
  | error e => simp

theorem parse_eq_ok {n : Int} :
    v.parse (Reading.integer (.unsigned 64)) capacityKey 10000 = .ok n ↔ ∃ c : Nat, Asks v c ∧ n = c := by
  unfold Variables.parse Asks
  cases hv : v.given capacityKey with
  | none => simp [eq_comm]
  | some raw =>
    have read : (∃ c, Decimal.Spells raw.toList c ∧ c < Nat.pow 2 64 ∧ n = c) ↔
        Reading.integer (.unsigned 64) raw = .ok n := integer_eq_ok.symm
    simp only [Option.some.injEq, exists_eq_left', reduceCtorEq, false_and, false_or, and_assoc, read]
    cases Reading.integer (.unsigned 64) raw with
    | ok m => simp
    | error detail => simp

theorem loadCapacity_eq_ok {c : { n : Nat // 0 < n }} : loadCapacity v = .ok c ↔ Asks v c.1 := by
  have hp (n : Int) := parse_eq_ok (v := v) (n := n)
  unfold loadCapacity
  cases hn : v.parse (Reading.integer (.unsigned 64)) capacityKey 10000 with
  | error e =>
    constructor
    · nofun
    · intro hc
      rw [(hp c.1).mpr ⟨c.1, hc, rfl⟩] at hn
      cases hn
  | ok n =>
    obtain ⟨m, hm, rfl⟩ := (hp n).mp hn
    have unique {other : Nat} (ho : Asks v other) : other = m := by
      have same := (hp other).mpr ⟨other, ho, rfl⟩
      rw [hn] at same
      exact Int.ofNat_inj.mp (Except.ok.inj same).symm
    dsimp only
    by_cases positive : 0 < (m : Int).toNat
    · rw [dif_pos positive, Except.ok.injEq, Subtype.ext_iff]
      constructor
      · intro h
        exact h ▸ hm
      · intro hc
        exact (unique hc).symm
    · rw [dif_neg positive]
      constructor
      · nofun
      · intro hc
        exact absurd (unique hc ▸ c.2) positive

theorem load_eq_ok (h : load v = .ok r) :
    r.enabled = v.flag "REQUEST_LOG" true ∧ loadSink v = .ok r.sink ∧
      loadCapacity v = .ok ⟨r.channelCapacity, r.channelCapacity_pos⟩ := by
  unfold load at h
  cases hs : loadSink v with
  | error e =>
    rw [hs] at h
    cases h
  | ok sink =>
    cases hc : loadCapacity v with
    | error e =>
      rw [hs, hc] at h
      cases h
    | ok capacity =>
      rw [hs, hc] at h
      obtain rfl := Except.ok.inj h
      exact ⟨rfl, rfl, rfl⟩

end RequestLogSettings

theorem Settings.load_requestLog {v : Variables} {s : Settings} (h : load v = .ok s) :
    RequestLogSettings.load v = .ok s.requestLog := by
  unfold load at h
  cases ha : loadListen v with
  | error e =>
    rw [ha] at h
    cases h
  | ok listen =>
    cases hr : RequestLogSettings.load v with
    | error e =>
      rw [ha, hr] at h
      cases h
    | ok requestLog =>
      cases hl : LogSettings.load v with
      | error e =>
        rw [ha, hr, hl] at h
        cases h
      | ok log =>
        rw [ha, hr, hl] at h
        obtain rfl := Except.ok.inj h
        rfl

theorem Settings.load_of_toOption {v : Variables} {s : Settings} (h : (load v).toOption = some s) :
    load v = .ok s := by
  cases hl : load v with
  | error e =>
    rw [hl] at h
    cases h
  | ok t =>
    rw [hl] at h
    rw [Option.some.inj h]

namespace App

/-- The variables leave the log on, with a queue of a capacity above `n` as its sink. -/
structure Exceeds (v : Variables) (n : Nat) : Prop where
  enabled : v.flag "REQUEST_LOG" true = true
  queued : ∃ raw, v.given "REQUEST_LOG_SINK" = some raw ∧ lowercase raw = "channel"
  capacity : ∃ c, RequestLogSettings.Asks v c ∧ n < c

section Queues

variable {r : RequestLogSettings} {s : Settings}

theorem queueFor?_of_above (on : r.enabled = true ∧ r.sink = .channel)
    (above : Queue.greatestCapacity < r.channelCapacity) : queueFor? r = none := by
  rw [queueFor?, if_pos on]
  exact if_pos above

theorem queueFor?_of_within (on : r.enabled = true ∧ r.sink = .channel)
    (within : ¬ Queue.greatestCapacity < r.channelCapacity) :
    queueFor? r = some ⟨r.channelCapacity, [], .listening, 1⟩ := by
  have positive : max r.channelCapacity 1 = r.channelCapacity := Nat.max_eq_left r.channelCapacity_pos
  rw [queueFor?, if_pos on, Queue.create?, if_neg within, positive]

theorem queueFor?_of_off (off : ¬ (r.enabled = true ∧ r.sink = .channel)) :
    queueFor? r = some ⟨1, [], .listening, 1⟩ := by
  rw [queueFor?, if_neg off]
  rfl

theorem start_of_none (hq : queueFor? s.requestLog = none) (eventIds requestIds : Nat → Uuid)
    (clock : Nat → Instant) : (start s eventIds requestIds clock).1 = some .queueTooLarge := by
  rw [start, hq]

theorem start_of_some {queue : Queue Event} (hq : queueFor? s.requestLog = some queue)
    (eventIds requestIds : Nat → Uuid) (clock : Nat → Instant) :
    (start s eventIds requestIds clock).1 = none ∧
      (start s eventIds requestIds clock).2.own.queue = queue := by
  rw [start, hq]
  refine ⟨rfl, ?_⟩
  dsimp only
  rw [Scene.notes_eq]
  rfl

end Queues

section Settings

variable {v : Variables} {s : Settings}

theorem exceeds_iff (h : Settings.load v = .ok s) (n : Nat) :
    Exceeds v n ↔
      (s.requestLog.enabled = true ∧ s.requestLog.sink = .channel) ∧ n < s.requestLog.channelCapacity := by
  obtain ⟨enabled, sink, capacity⟩ := RequestLogSettings.load_eq_ok (Settings.load_requestLog h)
  have queued : s.requestLog.sink = .channel ↔
      ∃ raw, v.given "REQUEST_LOG_SINK" = some raw ∧ lowercase raw = "channel" := by
    rw [← RequestLogSettings.loadSink_eq_channel, sink, Except.ok.injEq]
  constructor
  · rintro ⟨on, channel, c, hc, above⟩
    let given : { n : Nat // 0 < n } := ⟨c, Nat.lt_of_le_of_lt n.zero_le above⟩
    have accepted : RequestLogSettings.loadCapacity v = .ok given :=
      RequestLogSettings.loadCapacity_eq_ok.mpr hc
    have same : c = s.requestLog.channelCapacity :=
      congrArg Subtype.val (Except.ok.inj (accepted.symm.trans capacity))
    exact ⟨⟨enabled.trans on, queued.mpr channel⟩, same ▸ above⟩
  · rintro ⟨⟨on, channel⟩, above⟩
    have asked := RequestLogSettings.loadCapacity_eq_ok.mp capacity
    exact ⟨enabled.symm.trans on, queued.mp channel, _, asked, above⟩

/-- Accepted settings let the application start exactly if they do not ask for a queue above the greatest capacity. What
starts has the queue that they ask for. -/
theorem start_none_iff (h : Settings.load v = .ok s) (eventIds requestIds : Nat → Uuid) (clock : Nat → Instant) :
    let started := start s eventIds requestIds clock
    (started.1 = none ↔ ¬ Exceeds v Queue.greatestCapacity) ∧
    (started.1 = some .queueTooLarge ↔ Exceeds v Queue.greatestCapacity) ∧
    (started.1 = none → s.requestLog.enabled = true → s.requestLog.sink = .channel →
      ∃ c, RequestLogSettings.Asks v c ∧ started.2.own.queue = ⟨c, [], .listening, 1⟩) := by
  intro started
  rw [exceeds_iff h]
  by_cases on : s.requestLog.enabled = true ∧ s.requestLog.sink = .channel
  · by_cases above : Queue.greatestCapacity < s.requestLog.channelCapacity
    · have failed : started.1 = some .queueTooLarge := start_of_none (queueFor?_of_above on above) ..
      simp [failed, on, above]
    · obtain ⟨sound, queue⟩ := start_of_some (queueFor?_of_within on above) eventIds requestIds clock
      have sound : started.1 = none := sound
      obtain ⟨-, -, capacity⟩ := RequestLogSettings.load_eq_ok (Settings.load_requestLog h)
      have asked := RequestLogSettings.loadCapacity_eq_ok.mp capacity
      refine ⟨by simp [sound, above], by simp [sound, above], fun _ _ _ => ⟨_, asked, queue⟩⟩
  · have sound : started.1 = none := (start_of_some (queueFor?_of_off on) ..).1
    refine ⟨by simp [sound, on], by simp [sound, on], fun _ enabled channel => ?_⟩
    exact absurd ⟨enabled, channel⟩ on

end Settings

/-- The greatest capacity, with a plus sign, and a sink in capitals. -/
theorem start_none_iff_greatest :
    let v := Variables.ofPairs
      [("REQUEST_LOG_SINK", "CHANNEL"), ("REQUEST_LOG_CHANNEL_CAPACITY", "+2305843009213693951")]
    ∃ s, Settings.load v = .ok s ∧ ∀ eventIds requestIds clock,
      let started := start s eventIds requestIds clock
      started.1 = none ∧ ∃ c, started.2.own.queue = ⟨c, [], .listening, 1⟩ := by
  intro v
  let s : Settings :=
    { listen := ⟨.v4 0 0 0 0, 8080, 0⟩
      requestLog := { sink := .channel, channelCapacity := Queue.greatestCapacity }
      service := {}
      log := {} }
  have loaded : Settings.load v = .ok s := Settings.load_of_toOption (by decide +kernel)
  refine ⟨s, loaded, fun eventIds requestIds clock => ?_⟩
  obtain ⟨sound, -, queue⟩ := start_none_iff loaded eventIds requestIds clock
  have within : ¬ Exceeds v Queue.greatestCapacity := by
    rw [exceeds_iff loaded]
    rintro ⟨-, above⟩
    exact Nat.lt_irrefl _ above
  obtain ⟨c, -, hq⟩ := queue (sound.mpr within) rfl rfl
  exact ⟨sound.mpr within, c, hq⟩

/-- The capacity is the first above the greatest. -/
theorem unstartable_above_greatest :
    let v := Variables.ofPairs
      [("REQUEST_LOG_SINK", "channel"), ("REQUEST_LOG_CHANNEL_CAPACITY", "2305843009213693952")]
    ∃ s, Settings.load v = .ok s ∧ (Queue.create? s.requestLog.channelCapacity : Option (Queue Event)) = none ∧
      ∀ eventIds requestIds clock, (start s eventIds requestIds clock).1 = some .queueTooLarge := by
  intro v
  let s : Settings :=
    { listen := ⟨.v4 0 0 0 0, 8080, 0⟩
      requestLog := { sink := .channel, channelCapacity := Queue.greatestCapacity + 1 }
      service := {}
      log := {} }
  have loaded : Settings.load v = .ok s := Settings.load_of_toOption (by decide +kernel)
  exact ⟨s, loaded, rfl, fun _ _ _ => rfl⟩

end App

end AccessLog
