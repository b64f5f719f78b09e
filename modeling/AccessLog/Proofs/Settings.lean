import AccessLog.Proofs.Address
import AccessLog.Proofs.Startup
import AccessLog.Settings

/-!
# Settings that are refused

Four variables are checked, in a fixed order: the address, the sink, the capacity of the queue and the format. The first
of them whose value is not accepted is the one that the error is about, and no other variable has a say in it.
-/

namespace AccessLog

section Names

variable {s : String}

theorem SinkKind.parse_of_mem (h : lowercase s ∈ ["tracing", "stdout", "channel"]) : ∃ k, parse s = .ok k := by
  unfold parse
  simp only [List.mem_cons, List.not_mem_nil, or_false] at h
  rcases h with h | h | h
  · exact ⟨.tracing, by simp [h]⟩
  · exact ⟨.stdout, by simp [h]⟩
  · exact ⟨.channel, by simp [h]⟩

theorem SinkKind.parse_of_not_mem (h : lowercase s ∉ ["tracing", "stdout", "channel"]) :
    parse s = .error ("unknown sink '" ++ lowercase s ++ "', expected: tracing, stdout, channel") := by
  simp only [List.mem_cons, List.not_mem_nil, or_false, not_or] at h
  rw [parse, if_neg h.1, if_neg h.2.1, if_neg h.2.2]

theorem LogFormat.parse_of_mem (h : lowercase s ∈ ["json", "pretty"]) : ∃ f, parse s = .ok f := by
  unfold parse
  simp only [List.mem_cons, List.not_mem_nil, or_false] at h
  rcases h with h | h
  · exact ⟨.json, by simp [h]⟩
  · exact ⟨.pretty, by simp [h]⟩

theorem LogFormat.parse_of_not_mem (h : lowercase s ∉ ["json", "pretty"]) :
    parse s = .error ("unknown format '" ++ lowercase s ++ "', expected: json, pretty") := by
  simp only [List.mem_cons, List.not_mem_nil, or_false, not_or] at h
  rw [parse, if_neg h.1, if_neg h.2]

end Names

section Addresses

variable {s : String}

theorem Reading.socketAddress_of_some {a : SocketAddress} (h : SocketAddress.parse? s = some a) :
    socketAddress s = .ok a := by
  delta socketAddress
  rw [h]

theorem Reading.socketAddress_of_none (h : SocketAddress.parse? s = none) :
    socketAddress s = .error "invalid socket address syntax" := by
  delta socketAddress
  rw [h]

end Addresses

namespace Settings

/-- A variable that settings can be refused for. -/
inductive Checked where
  | listen
  | sink
  | capacity
  | format

namespace Checked

def key : Checked → String
  | .listen => "LISTEN_ADDR"
  | .sink => "REQUEST_LOG_SINK"
  | .capacity => "REQUEST_LOG_CHANNEL_CAPACITY"
  | .format => "LOG_FORMAT"

/-- What is checked before. -/
@[simp]
def earlier : Checked → List Checked
  | .listen => []
  | .sink => [.listen]
  | .capacity => [.listen, .sink]
  | .format => [.listen, .sink, .capacity]

/-- The value that is checked. An empty text is a value of the address, and else none. -/
def value? (c : Checked) (v : Variables) : Option String :=
  match c with
  | .listen => v.get c.key
  | _ => v.given c.key

def Accepts : Checked → String → Prop
  | .listen, raw => ∃ a, Address.Socket raw.toList a
  | .sink, raw => lowercase raw ∈ ["tracing", "stdout", "channel"]
  | .capacity, raw => ∃ n, Decimal.Spells raw.toList n ∧ 0 < n ∧ n < Nat.pow 2 64
  | .format, raw => lowercase raw ∈ ["json", "pretty"]

/-- The error for a value that is not accepted. What cannot be read at all is reported with the value. -/
inductive Reports : Checked → String → SettingsError → Prop where
  | address (raw : String) :
      Reports .listen raw (.unreadable "LISTEN_ADDR" raw "invalid socket address syntax")
  | sink (raw : String) :
      Reports .sink raw
        (.unacceptable "REQUEST_LOG_SINK"
          ("unknown sink '" ++ lowercase raw ++ "', expected: tracing, stdout, channel"))
  | number {raw : String} : ¬ Decimal.Spells raw.toList 0 →
      Reports .capacity raw
        (.unreadable "REQUEST_LOG_CHANNEL_CAPACITY" raw (IntegerRange.complaint 64 raw.toList).message)
  | zero {raw : String} : Decimal.Spells raw.toList 0 →
      Reports .capacity raw (.unacceptable "REQUEST_LOG_CHANNEL_CAPACITY" "channel capacity cannot be zero")
  | format (raw : String) :
      Reports .format raw
        (.unacceptable "LOG_FORMAT" ("unknown format '" ++ lowercase raw ++ "', expected: json, pretty"))

def Sound (c : Checked) (v : Variables) : Prop := ∀ raw, c.value? v = some raw → c.Accepts raw

def Faulty (c : Checked) (v : Variables) (e : SettingsError) : Prop :=
  ∃ raw, c.value? v = some raw ∧ ¬ c.Accepts raw ∧ c.Reports raw e

theorem exists_reports (c : Checked) (raw : String) : ∃ e, c.Reports raw e := by
  cases c with
  | listen => exact ⟨_, .address raw⟩
  | sink => exact ⟨_, .sink raw⟩
  | capacity =>
    by_cases zero : Decimal.Spells raw.toList 0
    · exact ⟨_, .zero zero⟩
    · exact ⟨_, .number zero⟩
  | format => exact ⟨_, .format raw⟩

theorem not_sound_iff {c : Checked} {v : Variables} : ¬ c.Sound v ↔ ∃ e, c.Faulty v e := by
  constructor
  · intro h
    obtain ⟨raw, hv⟩ := Classical.not_forall.mp h
    obtain ⟨hv, refused⟩ := Classical.not_imp.mp hv
    obtain ⟨e, he⟩ := c.exists_reports raw
    exact ⟨e, raw, hv, refused, he⟩
  · rintro ⟨e, raw, hv, refused, -⟩ sound
    exact refused (sound raw hv)

theorem Faulty.key {c : Checked} {v : Variables} {e : SettingsError} (h : c.Faulty v e) : e.key = c.key := by
  obtain ⟨raw, -, -, he⟩ := h
  cases he <;> rfl

section Agreement

variable {c : Checked} {v w : Variables}

theorem value?_congr (h : v.get c.key = w.get c.key) : c.value? v = c.value? w := by
  cases c <;> simp only [value?, Variables.given, h]

theorem sound_congr (h : v.get c.key = w.get c.key) : c.Sound v ↔ c.Sound w := by
  rw [Sound, Sound, value?_congr h]

theorem faulty_congr (h : v.get c.key = w.get c.key) {e : SettingsError} : c.Faulty v e ↔ c.Faulty w e := by
  rw [Faulty, Faulty, value?_congr h]

end Agreement

/-- A part of the settings that is refused for this variable alone. -/
def Decides {α : Type} (c : Checked) (v : Variables) (part : Except SettingsError α) : Prop :=
  ∀ e, part = .error e ↔ c.Faulty v e

section Decides

variable {α : Type} {c : Checked} {v : Variables} {part : Except SettingsError α}

theorem Decides.intro (sound : c.Sound v → ∃ a, part = .ok a) (faulty : ∀ e, c.Faulty v e → part = .error e) :
    c.Decides v part := by
  intro e
  refine ⟨fun h => ?_, faulty e⟩
  by_cases hs : c.Sound v
  · obtain ⟨a, ha⟩ := sound hs
    rw [ha] at h
    cases h
  · obtain ⟨e', he⟩ := not_sound_iff.mp hs
    rw [faulty e' he] at h
    exact Except.error.inj h ▸ he

theorem Decides.ok_iff (h : c.Decides v part) : (∃ a, part = .ok a) ↔ c.Sound v := by
  cases part with
  | ok a => 
    refine ⟨fun _ => ?_, fun _ => ⟨a, rfl⟩⟩
    by_contra hs
    obtain ⟨e, he⟩ := not_sound_iff.mp hs
    cases (h e).mpr he
  | error e => 
    have faulty := not_sound_iff.mpr ⟨e, (h e).mp rfl⟩
    exact ⟨nofun, fun hs => absurd hs faulty⟩

end Decides

end Checked

section Parts

variable {v : Variables}

theorem loadListen_of_ok {raw : String} {a : SocketAddress} (given : v.getOr listenKey defaultListen = raw)
    (read : Reading.socketAddress raw = .ok a) : loadListen v = .ok a := by
  delta loadListen
  simp only [given, read]

theorem loadListen_of_error {raw detail : String} (given : v.getOr listenKey defaultListen = raw)
    (read : Reading.socketAddress raw = .error detail) :
    loadListen v = .error (.unreadable listenKey raw detail) := by
  delta loadListen
  simp only [given, read]

theorem decides_loadListen : Checked.listen.Decides v (loadListen v) := by
  apply Checked.Decides.intro
  · intro sound
    cases hv : v.get listenKey with
    | none =>
      have default : v.getOr listenKey defaultListen = defaultListen := by
        rw [Variables.getOr, hv, Option.getD_none]
      have read : SocketAddress.parse? defaultListen = some ⟨.v4 0 0 0 0, 8080, 0⟩ := by decide +kernel
      exact ⟨_, loadListen_of_ok default (Reading.socketAddress_of_some read)⟩
    | some raw =>
      obtain ⟨a, ha⟩ := sound raw hv
      have given : v.getOr listenKey defaultListen = raw := by
        rw [Variables.getOr, hv, Option.getD_some]
      have read : SocketAddress.parse? raw = some a := SocketAddress.parse?_eq_some_iff.mpr ha
      exact ⟨a, loadListen_of_ok given (Reading.socketAddress_of_some read)⟩
  · rintro e ⟨raw, hv, refused, he⟩
    cases he with
    | address =>
      have set : v.get listenKey = some raw := hv
      have given : v.getOr listenKey defaultListen = raw := by
        rw [Variables.getOr, set, Option.getD_some]
      have unread : SocketAddress.parse? raw = none := by
        cases ha : SocketAddress.parse? raw with
        | none => rfl
        | some a => exact absurd ⟨a, SocketAddress.parse?_eq_some_iff.mp ha⟩ refused
      exact loadListen_of_error given (Reading.socketAddress_of_none unread)

theorem decides_loadSink : Checked.sink.Decides v (RequestLogSettings.loadSink v) := by
  apply Checked.Decides.intro
  · intro sound
    unfold RequestLogSettings.loadSink
    cases hv : v.given "REQUEST_LOG_SINK" with
    | none => exact ⟨_, rfl⟩
    | some raw =>
      obtain ⟨kind, hk⟩ := SinkKind.parse_of_mem (sound raw hv)
      exact ⟨kind, by simp only [hk]⟩
  · rintro e ⟨raw, hv, refused, he⟩
    cases he with
    | sink =>
      have given : v.given "REQUEST_LOG_SINK" = some raw := hv
      simp only [RequestLogSettings.loadSink, given, SinkKind.parse_of_not_mem refused]

theorem decides_loadLog : Checked.format.Decides v (LogSettings.load v) := by
  apply Checked.Decides.intro
  · intro sound
    unfold LogSettings.load
    cases hv : v.given "LOG_FORMAT" with
    | none => exact ⟨_, rfl⟩
    | some raw =>
      obtain ⟨format, hf⟩ := LogFormat.parse_of_mem (sound raw hv)
      simp only [hf]
      exact ⟨_, rfl⟩
  · rintro e ⟨raw, hv, refused, he⟩
    cases he with
    | format =>
      have given : v.given "LOG_FORMAT" = some raw := hv
      simp only [LogSettings.load, given, LogFormat.parse_of_not_mem refused]

theorem loadCapacity_of_unread {raw : String} (hv : v.given RequestLogSettings.capacityKey = some raw)
    (h : ∀ n, Decimal.Spells raw.toList n → ¬ n < Nat.pow 2 64) :
    RequestLogSettings.loadCapacity v =
      .error (.unreadable RequestLogSettings.capacityKey raw (IntegerRange.complaint 64 raw.toList).message) := by
  have nonempty : raw.toList ≠ [] := by
    have kept := (Option.filter_eq_some_iff.mp hv).2
    intro empty
    rw [String.toList_eq_nil_iff.mp empty] at kept
    cases kept
  have read : Reading.integer (.unsigned 64) raw = .error (IntegerRange.complaint 64 raw.toList).message := by
    rw [Reading.integer]
    cases hr : (IntegerRange.unsigned 64).read raw.toList with
    | ok m =>
      obtain ⟨n, hs, hn, -⟩ := IntegerRange.read_unsigned_eq_ok.mp hr
      exact absurd hn (h n hs)
    | error e => rw [IntegerRange.eq_complaint_of_read nonempty hr]
  simp only [RequestLogSettings.loadCapacity, Variables.parse, hv, read]

theorem loadCapacity_of_zero {raw : String} (hv : v.given RequestLogSettings.capacityKey = some raw)
    (h : Decimal.Spells raw.toList 0) :
    RequestLogSettings.loadCapacity v =
      .error (.unacceptable RequestLogSettings.capacityKey "channel capacity cannot be zero") := by
  have asked : RequestLogSettings.Asks v 0 := .inr ⟨raw, hv, h, Nat.pow_pos (by decide)⟩
  have read := RequestLogSettings.parse_eq_ok.mpr ⟨0, asked, rfl⟩
  simp only [RequestLogSettings.loadCapacity, read]
  rfl

theorem decides_loadCapacity : Checked.capacity.Decides v (RequestLogSettings.loadCapacity v) := by
  apply Checked.Decides.intro
  · intro sound
    have asked : ∃ n, 0 < n ∧ RequestLogSettings.Asks v n := by
      cases hv : v.given RequestLogSettings.capacityKey with
      | none => exact ⟨10000, by decide, .inl ⟨hv, rfl⟩⟩
      | some raw =>
        obtain ⟨n, hs, positive, hn⟩ := sound raw hv
        exact ⟨n, positive, .inr ⟨raw, hv, hs, hn⟩⟩
    obtain ⟨n, positive, asks⟩ := asked
    exact ⟨⟨n, positive⟩, RequestLogSettings.loadCapacity_eq_ok.mpr asks⟩
  · rintro e ⟨raw, hv, refused, he⟩
    cases he with
    | number zero =>
      refine loadCapacity_of_unread hv fun n hs hn => refused ⟨n, hs, Nat.pos_of_ne_zero ?_, hn⟩
      rintro rfl
      exact zero hs
    | zero zero => exact loadCapacity_of_zero hv zero

end Parts

theorem load_eq_error {v : Variables} {e : SettingsError} :
    load v = .error e ↔
      loadListen v = .error e ∨ (∃ a, loadListen v = .ok a) ∧
        (RequestLogSettings.loadSink v = .error e ∨ (∃ k, RequestLogSettings.loadSink v = .ok k) ∧
          (RequestLogSettings.loadCapacity v = .error e ∨ (∃ n, RequestLogSettings.loadCapacity v = .ok n) ∧
            LogSettings.load v = .error e)) := by
  unfold load RequestLogSettings.load
  cases loadListen v <;> cases RequestLogSettings.loadSink v <;> cases RequestLogSettings.loadCapacity v <;>
    cases LogSettings.load v <;> simp

/-- The error is about the first variable whose value is not accepted. -/
theorem load_eq_error_iff_faulty {v : Variables} {e : SettingsError} :
    load v = .error e ↔ ∃ c : Checked, (∀ b ∈ c.earlier, b.Sound v) ∧ c.Faulty v e := by
  rw [load_eq_error, decides_loadListen.ok_iff, decides_loadSink.ok_iff, decides_loadCapacity.ok_iff,
    decides_loadListen e, decides_loadSink e, decides_loadCapacity e, decides_loadLog e]
  constructor
  · rintro (fault | ⟨listen, fault | ⟨sink, fault | ⟨capacity, fault⟩⟩⟩)
    · exact ⟨.listen, nofun, fault⟩
    · exact ⟨.sink, by simpa using listen, fault⟩
    · exact ⟨.capacity, by simpa using ⟨listen, sink⟩, fault⟩
    · exact ⟨.format, by simpa using ⟨listen, sink, capacity⟩, fault⟩
  · rintro ⟨c, before, fault⟩
    cases c with
    | listen => exact .inl fault
    | sink => exact .inr ⟨before .listen (by simp), .inl fault⟩
    | capacity =>
      exact .inr ⟨before .listen (by simp),
        .inr ⟨before .sink (by simp), .inl fault⟩⟩
    | format =>
      exact .inr ⟨before .listen (by simp),
        .inr ⟨before .sink (by simp), .inr ⟨before .capacity (by simp), fault⟩⟩⟩

theorem sound_of_load {v : Variables} {s : Settings} (h : load v = .ok s) (c : Checked) : c.Sound v := by
  have next (c : Checked) (before : ∀ b ∈ c.earlier, b.Sound v) : c.Sound v := by
    by_contra unsound
    obtain ⟨e, fault⟩ := Checked.not_sound_iff.mp unsound
    have refused : load v = .error e := load_eq_error_iff_faulty.mpr ⟨c, before, fault⟩
    rw [h] at refused
    cases refused
  have listen : Checked.listen.Sound v := next .listen nofun
  have sink : Checked.sink.Sound v := next .sink (by simpa using listen)
  have capacity : Checked.capacity.Sound v := next .capacity (by simpa using ⟨listen, sink⟩)
  cases c with
  | listen => exact listen
  | sink => exact sink
  | capacity => exact capacity
  | format => exact next .format (by simpa using ⟨listen, sink, capacity⟩)

theorem load_eq_error_congr {v w : Variables} (h : ∀ c : Checked, v.get c.key = w.get c.key) {e : SettingsError} :
    load v = .error e ↔ load w = .error e := by
  simp only [load_eq_error_iff_faulty, Checked.sound_congr (h _), Checked.faulty_congr (h _)]

/-- Settings are refused exactly if a checked variable has a value that is not accepted. The error is about the first such
variable and reports its value. Variables that are not checked make no difference to it. Settings that are not refused
have a positive capacity, which is the one that was asked for. -/
theorem load_refuses_first_fault (v : Variables) :
    ((∃ e, load v = .error e) ↔ ∃ (c : Checked) (raw : String), c.value? v = some raw ∧ ¬ c.Accepts raw) ∧
    (∀ e, load v = .error e ↔ ∃ c : Checked, (∀ b ∈ c.earlier, b.Sound v) ∧ c.Faulty v e) ∧
    (∀ (c : Checked) e, c.Faulty v e → e.key = c.key) ∧
    (∀ w, (∀ c : Checked, v.get c.key = w.get c.key) → ∀ e, load v = .error e ↔ load w = .error e) ∧
    (∀ s, load v = .ok s →
      0 < s.requestLog.channelCapacity ∧ RequestLogSettings.Asks v s.requestLog.channelCapacity) := by
  refine ⟨⟨?_, ?_⟩, fun e => load_eq_error_iff_faulty, fun c e => Checked.Faulty.key, ?_, ?_⟩
  · rintro ⟨e, refused⟩
    obtain ⟨c, -, raw, hv, refused, -⟩ := load_eq_error_iff_faulty.mp refused
    exact ⟨c, raw, hv, refused⟩
  · rintro ⟨c, raw, hv, refused⟩
    cases h : load v with
    | error e => exact ⟨e, rfl⟩
    | ok s => exact absurd (sound_of_load h c raw hv) refused
  · intro w agree e
    exact load_eq_error_congr agree
  · intro s loaded
    obtain ⟨-, -, capacity⟩ := RequestLogSettings.load_eq_ok (load_requestLog loaded)
    exact ⟨s.requestLog.channelCapacity_pos, RequestLogSettings.loadCapacity_eq_ok.mp capacity⟩

/-- The address is of version 6, with a scope and with a version 4 address at its end, and the empty sink is none. The
capacity is the first fault, before the format. -/
theorem load_refuses_zero_before_format :
    let v := Variables.ofPairs
      [("LISTEN_ADDR", "[64:FF9b::1.2.3.4%7]:0080"), ("REQUEST_LOG_SINK", ""), ("REQUEST_LOG", "perhaps"),
        ("REQUEST_LOG_CHANNEL_CAPACITY", "+00"), ("LOG_FORMAT", "xml")]
    load v = .error (.unacceptable "REQUEST_LOG_CHANNEL_CAPACITY" "channel capacity cannot be zero") := by
  intro v
  obtain ⟨-, first, -⟩ := load_refuses_first_fault v
  have zero : Decimal.Spells "+00".toList 0 := ⟨['0', '0'], .inr rfl, nofun, rfl, rfl⟩
  have refused : ¬ Checked.capacity.Accepts "+00" := by
    rintro ⟨n, hs, positive, hn⟩
    have read : (IntegerRange.unsigned 64).read "+00".toList = .ok (n : Int) :=
      IntegerRange.read_unsigned_eq_ok.mpr ⟨n, hs, hn, rfl⟩
    have same : (0 : Int) = n := Except.ok.inj read
    omega
  have listen : Checked.listen.Sound v := by
    intro raw hv
    obtain rfl : "[64:FF9b::1.2.3.4%7]:0080" = raw := Option.some.inj hv
    exact ⟨⟨.v6 [0x64, 0xFF9B, 0, 0, 0, 0, 0x102, 0x304], 80, 7⟩,
      SocketAddress.parse?_eq_some_iff.mp (by decide +kernel)⟩
  have sink : Checked.sink.Sound v := by
    intro raw hv
    cases hv
  exact (first _).mpr ⟨.capacity, by simpa using ⟨listen, sink⟩, "+00", rfl, refused, .zero zero⟩

end Settings

end AccessLog
