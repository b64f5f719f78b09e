import AccessLog.Proofs.Calendar.TextOrder
import AccessLog.Proofs.Event
import AccessLog.Proofs.Pipeline

/-!
# The timestamp of an event

An event says when its request came in, as a date and a time of day that exist, and says it the same way in its JSON
object. Reading the text back gives the instant, rounded down to the millisecond: no other instant is written so, and
within the years of four digits the texts can be sorted as they are.
-/

namespace AccessLog

namespace Event

/-- The event has a text for the instant, wherever it tells it: a date and a time of day that exist, with three decimals
and the mark of UTC, and a sign exactly if the year has not four digits. The text is read back to the millisecond. -/
structure Stamped (e : Event) (t : Instant) : Prop where
  serialized : ∃ members, Json.read? e.json = some (.object members) ∧
    members.lookup "timestamp" = some (.text e.timestampText)
  exists_moment : ∃ m : Moment, m.Valid ∧ e.timestampText.toList = m.chars
  minus : e.timestampText.toList.head? = some '-' ↔ t.year < 0
  plus : e.timestampText.toList.head? = some '+' ↔ 9999 < t.year
  read_back : Instant.ofMillisText? e.timestampText = some t.floorMillis

theorem stamped_timestamp (e : Event) : e.Stamped e.timestamp where
  serialized := ⟨_, e.read?_json, lookup_slot (o := some (.text e.timestampText)) rfl⟩
  exists_moment := ⟨_, e.timestamp.valid_moment, e.timestamp.toList_millisText⟩
  minus := by
    rw [timestampText, Instant.toList_millisText]
    exact (Calendar.head?_yearText _ _).1
  plus := by
    rw [timestampText, Instant.toList_millisText]
    exact (Calendar.head?_yearText _ _).2
  read_back := e.timestamp.ofMillisText?_millisText

/-- Whenever two requests came in, before 1970 or after, their events say so; they say the same exactly if it was in one
millisecond, and the lesser text is that of the earlier one. -/
theorem timestamps_tell {req req' : Request} {now now' : Instant} (dated : req.receivedAt.HasDate)
    (dated' : req'.receivedAt.HasDate) (clocked : req.receivedAt.nanos ≤ now.nanos ∨ now.HasDate)
    (clocked' : req'.receivedAt.nanos ≤ now'.nanos ∨ now'.HasDate) (res res' : Response) (service service' : Service)
    (id id' : Uuid) :
    ∃ x x' notes notes', Exchange.read req res now = .ok (x, notes) ∧
      Exchange.read req' res' now' = .ok (x', notes') ∧
      let e := assemble x service id
      let e' := assemble x' service' id'
      e.Stamped req.receivedAt ∧ e'.Stamped req'.receivedAt ∧
      (e.timestampText = e'.timestampText ↔ req.receivedAt.millis = req'.receivedAt.millis) ∧
      (req.receivedAt.InFourDigits → req'.receivedAt.InFourDigits →
        (e.timestampText < e'.timestampText ↔ req.receivedAt.millis < req'.receivedAt.millis)) := by
  obtain ⟨x, notes, read⟩ := Exchange.read_of_dated res (Exchange.dated_iff.mpr ⟨dated, clocked⟩)
  obtain ⟨x', notes', read'⟩ := Exchange.read_of_dated res' (Exchange.dated_iff.mpr ⟨dated', clocked'⟩)
  refine ⟨x, x', notes, notes', read, read', ?_⟩
  intro e e'
  have at_ : e.timestamp = req.receivedAt := (Exchange.received_of_read read).1
  have at_' : e'.timestamp = req'.receivedAt := (Exchange.received_of_read read').1
  rw [← at_, ← at_']
  exact ⟨e.stamped_timestamp, e'.stamped_timestamp, Instant.millisText_eq_iff, Instant.millisText_lt_iff⟩

/-- The last nanosecond before 1970, with the clock set back in between, and one in the second millisecond of 1970. -/
theorem timestamps_tell_around_1970 :
    let early := Request.received .get .root .empty ⟨-1⟩
    let late := Request.received .get .root .empty ⟨1999999⟩
    ∃ x y notes notes', Exchange.read early (Response.empty .ok) ⟨-2⟩ = .ok (x, notes) ∧
      Exchange.read late (Response.empty .ok) ⟨1999999⟩ = .ok (y, notes') ∧
      let e := assemble x {} ⟨0, by decide⟩
      let e' := assemble y {} ⟨1, by decide⟩
      Instant.ofMillisText? e.timestampText = some ⟨-1000000⟩ ∧
      Instant.ofMillisText? e'.timestampText = some ⟨1000000⟩ ∧
      e.timestampText ≠ e'.timestampText ∧ e.timestampText < e'.timestampText := by
  intro early late
  have dated : early.receivedAt.HasDate := by decide
  have dated' : late.receivedAt.HasDate := by decide
  have clocked : early.receivedAt.nanos ≤ (⟨-2⟩ : Instant).nanos ∨ (⟨-2⟩ : Instant).HasDate := by decide
  have clocked' : late.receivedAt.nanos ≤ (⟨1999999⟩ : Instant).nanos ∨ (⟨1999999⟩ : Instant).HasDate := by decide
  obtain ⟨x, y, notes, notes', read, read', stamped, stamped', same, order⟩ :=
    timestamps_tell dated dated' clocked clocked' (Response.empty .ok) (Response.empty .ok) {} {} ⟨0, by decide⟩
      ⟨1, by decide⟩
  exact ⟨x, y, notes, notes', read, read', stamped.read_back, stamped'.read_back, mt same.mp (by decide),
    (order (by decide) (by decide)).mpr (by decide)⟩

end Event

end AccessLog
