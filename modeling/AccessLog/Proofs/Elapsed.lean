import AccessLog.Exchange
import AccessLog.Proofs.Calendar.Years

/-!
# How long an exchange took

Measuring from one instant to a later one asks nothing of the calendar and stops at the longest duration. A clock that was
set back gives zero and a warning that tells by how many microseconds, all of them: no two instants of the calendar are so
far apart that 64 bits would not hold their distance. An instant without a date cannot be told.
-/

namespace AccessLog

namespace Instant

def HasDate (t : Instant) : Prop := Calendar.firstYear ≤ t.year ∧ t.year ≤ Calendar.lastYear

instance (t : Instant) : Decidable t.HasDate := inferInstanceAs (Decidable (_ ∧ _))

theorem microsUntil_eq {start now : Instant} (h : start.nanos ≤ now.nanos) :
    (start.microsUntil now : Int) = (now.nanos - start.nanos) / 1000 := by
  unfold microsUntil
  omega

theorem nanos_of_inCalendar {t : Instant} (h : t.inCalendar = true) :
    Calendar.firstSecond * 1000000000 ≤ t.nanos ∧ t.nanos < (Calendar.lastSecond + 1) * 1000000000 := by
  have hs : t.seconds = t.nanos / 1000000000 := Int.fdiv_eq_ediv_of_nonneg _ (by decide)
  rw [inCalendar, Bool.and_eq_true, decide_eq_true_eq, decide_eq_true_eq, hs] at h
  simp only [Calendar.firstSecond, Calendar.lastSecond] at h ⊢
  omega

theorem microsUntil_le_longest {a b : Instant} (ha : a.inCalendar = true) (hb : b.inCalendar = true) :
    a.microsUntil b ≤ longestMicros := by
  have low := (nanos_of_inCalendar ha).1
  have high := (nanos_of_inCalendar hb).2
  simp only [Calendar.firstSecond, Calendar.lastSecond] at low high
  unfold microsUntil longestMicros
  omega

end Instant

namespace Exchange

theorem recorded_clockWarning (start now : Instant) :
    (clockWarning start now).recorded.message = some "Clock is behind request start, clamping duration to zero" ∧
    (clockWarning start now).recorded.data =
      [("behind_micros", .integer (now.microsUntil start % (longestMicros + 1) : Nat)),
       ("now", .text now.exactText), ("start", .text start.exactText)] := by
  have order : ("now" : String) < "start" ∧ ("behind_micros" : String) < "now" := by decide
  refine ⟨rfl, ?_⟩
  simp [clockWarning, Trace.note, Trace.recorded, Trace.record, Trace.insertSorted, Trace.messageName, Trace.textual?,
    Trace.scalar, order]

theorem elapsed_of_le {start now : Instant} (h : start.nanos ≤ now.nanos) :
    elapsed start now = .ok (min (start.microsUntil now) longestMicros, []) := if_pos h

theorem elapsed_of_behind {start now : Instant} (h : now.nanos < start.nanos) (hs : start.inCalendar = true)
    (hn : now.inCalendar = true) : elapsed start now = .ok (0, [clockWarning start now]) := by
  simp [elapsed, Int.not_le.mpr h, hs, hn]

theorem elapsed_of_no_date {start now : Instant} (h : now.nanos < start.nanos)
    (hd : ¬ (start.inCalendar = true ∧ now.inCalendar = true)) :
    ∃ outside, elapsed start now = .error ⟨outside⟩ ∧ (outside = start ∨ outside = now) ∧
      ¬ outside.inCalendar = true := by
  by_cases hs : start.inCalendar = true
  · have hn : ¬ now.inCalendar = true := fun hn => hd ⟨hs, hn⟩
    exact ⟨now, by simp [elapsed, Int.not_le.mpr h, hs, hn], .inr rfl, hn⟩
  · exact ⟨start, by simp [elapsed, Int.not_le.mpr h, hs], .inl rfl, hs⟩

/-- All that measuring from an instant of the calendar can come to. -/
theorem elapsed_cases {start : Instant} (now : Instant) (hs : start.inCalendar = true) :
    (start.nanos ≤ now.nanos ∧ ∃ micros, elapsed start now = .ok (micros, [])) ∨
    (now.inCalendar = true ∧ elapsed start now = .ok (0, [clockWarning start now])) ∨
    (¬ start.nanos ≤ now.nanos ∧ now.inCalendar = false ∧ elapsed start now = .error ⟨now⟩) := by
  rcases Int.lt_or_le now.nanos start.nanos with behind | ahead
  · cases hn : now.inCalendar with
    | true => exact .inr (.inl ⟨rfl, elapsed_of_behind behind hs hn⟩)
    | false =>
      have undated : ¬ (start.inCalendar = true ∧ now.inCalendar = true) := by simp [hn]
      obtain ⟨_, failed, rfl | rfl, outside⟩ := elapsed_of_no_date behind undated
      · exact absurd hs outside
      · exact .inr (.inr ⟨Int.not_le.mpr behind, rfl, failed⟩)
  · exact .inl ⟨ahead, _, elapsed_of_le ahead⟩

theorem elapsed_le {start now : Instant} {micros : Nat} {notes : List Trace}
    (h : elapsed start now = .ok (micros, notes)) : micros ≤ longestMicros := by
  unfold elapsed at h
  split at h
  · obtain ⟨rfl, -⟩ := Prod.mk.inj (Except.ok.inj h)
    exact Nat.min_le_right ..
  split at h
  · cases h
  split at h
  · cases h
  · obtain ⟨rfl, -⟩ := Prod.mk.inj (Except.ok.inj h)
    exact Nat.zero_le _

/-- What measuring a duration gives, for all instants, before 1970 and after. The warning is taken to be written. -/
theorem elapsed_measures (start now : Instant) :
    (start.nanos ≤ now.nanos →
      ∃ micros : Nat, elapsed start now = .ok (micros, []) ∧
        (micros : Int) = min ((now.nanos - start.nanos) / 1000) longestMicros) ∧
    (now.nanos < start.nanos → start.HasDate → now.HasDate →
      ∃ (warning : Trace) (behind : Nat), elapsed start now = .ok (0, [warning]) ∧ warning.level = .warn ∧
        warning.recorded.message = some "Clock is behind request start, clamping duration to zero" ∧
        warning.recorded.data = [("behind_micros", .integer behind), ("now", .text now.exactText),
          ("start", .text start.exactText)] ∧
        (behind : Int) = (start.nanos - now.nanos) / 1000 ∧ behind ≤ longestMicros) ∧
    (now.nanos < start.nanos → ¬ (start.HasDate ∧ now.HasDate) →
      ∃ outside, elapsed start now = .error ⟨outside⟩ ∧ (outside = start ∨ outside = now) ∧ ¬ outside.HasDate) := by
  have dated (t : Instant) : t.inCalendar = true ↔ t.HasDate := t.inCalendar_iff_year
  refine ⟨?_, ?_, ?_⟩
  · intro h
    refine ⟨_, elapsed_of_le h, ?_⟩
    rw [← Instant.microsUntil_eq h]
    omega
  · intro h hs hn
    have fits := Instant.microsUntil_le_longest ((dated now).mpr hn) ((dated start).mpr hs)
    obtain ⟨message, data⟩ := recorded_clockWarning start now
    rw [Nat.mod_eq_of_lt (Nat.lt_succ_of_le fits)] at data
    exact ⟨_, _, elapsed_of_behind h ((dated start).mpr hs) ((dated now).mpr hn), rfl, message, data,
      Instant.microsUntil_eq (Int.le_of_lt h), fits⟩
  · intro h hd
    rw [← dated, ← dated] at hd
    obtain ⟨outside, he, which, ho⟩ := elapsed_of_no_date h hd
    exact ⟨outside, he, which, by rwa [← dated]⟩

/-- Two instants before 1970, measured in both directions, and one behind the calendar's last year. -/
theorem elapsed_measures_before_1970 :
    let early : Instant := ⟨-2501⟩
    let late : Instant := ⟨-1⟩
    let outside : Instant := ⟨(Calendar.lastSecond + 1) * 1000000000⟩
    elapsed early late = .ok (2, []) ∧
    (∃ warning, elapsed late early = .ok (0, [warning]) ∧
      warning.recorded.data.lookup "behind_micros" = some (.integer 2)) ∧
    elapsed outside late = .error ⟨outside⟩ := by
  intro early late outside
  obtain ⟨micros, forward, exactly⟩ := (elapsed_measures early late).1 (by decide)
  obtain ⟨warning, behind, backward, -, -, data, distance, -⟩ :=
    (elapsed_measures late early).2.1 (by decide) (by decide) (by decide)
  obtain ⟨which, failed, rfl | rfl, undated⟩ := (elapsed_measures outside late).2.2 (by decide) (by decide)
  · have two : micros = 2 := Int.ofNat_inj.mp exactly
    have behind_two : behind = 2 := Int.ofNat_inj.mp distance
    subst two behind_two
    refine ⟨forward, ⟨warning, backward, ?_⟩, failed⟩
    rw [data]
    rfl
  · exact absurd (by decide) undated

end Exchange

end AccessLog
