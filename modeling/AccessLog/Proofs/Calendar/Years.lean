import AccessLog.Proofs.Calendar

/-!
# The years of the calendar

The calendar covers the years -262143 to 262142, all of them and no other: an instant is in the calendar exactly if its year
is one of these.
-/

namespace AccessLog

namespace Calendar

def firstYear : Int := -262143

def lastYear : Int := 262142

theorem daysBeforeYear_mono {a b : Int} (h : a ≤ b) : daysBeforeYear a ≤ daysBeforeYear b := by
  unfold daysBeforeYear
  omega

theorem daysBeforeMonth_add_day_le {d : Date} (h : d.Valid) :
    daysBeforeMonth d.year d.month + d.day ≤ if isLeap d.year then 366 else 365 := by
  obtain ⟨hm, hm', -, hd⟩ := h
  obtain ⟨year, month, day⟩ := d
  dsimp only at hm hm' hd ⊢
  obtain early | ⟨m, rfl⟩ : month ≤ 2 ∨ ∃ m, month = m + 3 := by
    by_cases hl : month ≤ 2
    · exact .inl hl
    · exact .inr ⟨month - 3, by omega⟩
  · have january : daysInMonth year 1 = 31 := rfl
    have february : daysInMonth year 2 = if isLeap year then 29 else 28 := if_pos rfl
    obtain rfl | rfl : month = 1 ∨ month = 2 := by omega
    · rw [january] at hd
      change 0 + day ≤ _
      split <;> omega
    · rw [february] at hd
      change 0 + daysInMonth year 1 + day ≤ _
      rw [january]
      split <;> simp_all <;> omega
  · have before := daysBeforeMonth_of_march year (m := m) (by omega)
    rw [daysInMonth_of_march year (by omega)] at hd
    rw [before]
    split <;> omega

theorem dayOfDate_within {d : Date} (h : d.Valid) :
    daysBeforeYear d.year - daysBeforeYear 1970 ≤ dayOfDate d ∧
      dayOfDate d < daysBeforeYear (d.year + 1) - daysBeforeYear 1970 := by
  have last := daysBeforeMonth_add_day_le h
  have first := h.day_pos
  have next := daysBeforeYear_succ d.year
  unfold dayOfDate
  split at last <;> simp_all <;> omega

theorem year_dateOfDay_iff (n year : Int) :
    year ≤ (dateOfDay n).year ↔ daysBeforeYear year - daysBeforeYear 1970 ≤ n := by
  obtain ⟨low, high⟩ := dayOfDate_within (valid_dateOfDay n)
  rw [dayOfDate_dateOfDay] at low high
  constructor
  · intro h
    have := daysBeforeYear_mono h
    omega
  · intro h
    rcases Int.lt_or_le (dateOfDay n).year year with hlt | hle
    · have := daysBeforeYear_mono (show (dateOfDay n).year + 1 ≤ year from hlt)
      omega
    · exact hle

end Calendar

namespace Instant

def year (t : Instant) : Int := (Calendar.dateOfDay (t.seconds.fdiv 86400)).year

theorem inCalendar_iff_year (t : Instant) :
    t.inCalendar = true ↔ Calendar.firstYear ≤ t.year ∧ t.year ≤ Calendar.lastYear := by
  have upper : t.year ≤ Calendar.lastYear ↔ ¬ Calendar.lastYear + 1 ≤ t.year := by omega
  rw [upper, year, Calendar.year_dateOfDay_iff, Calendar.year_dateOfDay_iff,
    Int.fdiv_eq_ediv_of_nonneg _ (by decide), inCalendar, Bool.and_eq_true, decide_eq_true_eq, decide_eq_true_eq]
  simp only [Calendar.firstSecond, Calendar.lastSecond, Calendar.firstYear, Calendar.lastYear, Calendar.daysBeforeYear]
  omega

end Instant

end AccessLog
