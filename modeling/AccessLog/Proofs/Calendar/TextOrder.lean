import AccessLog.Proofs.Calendar.Years

/-!
# The order of written instants

An instant is written part by part, from the year down to the millisecond. Within the years of four digits all parts have
a fixed width, so comparing two texts character by character is comparing the instants, to the millisecond. Years
outside of these begin with a sign, and their texts are in no such order.
-/

namespace AccessLog

namespace Text

theorem append_lt_append {a b : List Char} (hl : a.length = b.length) (h : a < b) (s t : List Char) :
    a ++ s < b ++ t := by
  induction a generalizing b with
  | nil =>
    obtain rfl := List.length_eq_zero_iff.mp hl.symm
    exact absurd h (List.lt_irrefl [])
  | cons c a ih =>
    cases b with
    | nil => cases hl
    | cons d b =>
      rcases List.cons_lt_cons_iff.mp h with first | ⟨rfl, rest⟩
      · exact List.cons_lt_cons_iff.mpr (.inl first)
      · exact List.cons_lt_cons_iff.mpr (.inr ⟨rfl, ih (Nat.succ.inj hl) rest⟩)

end Text

namespace Decimal

theorem digit_lt {a b : Nat} (hb : b < 10) (h : a < b) : digit a < digit b := by
  have code {n : Nat} (hn : n < 10) : (digit n).toNat = 48 + n := by
    have value : (digit n).toNat - 48 = n := digitValue_digit hn
    have range := isDigit_digit hn
    simp only [isDigit, Bool.and_eq_true, decide_eq_true_eq] at range
    omega
  change (digit a).toNat < (digit b).toNat
  rw [code (Nat.lt_trans h hb), code hb]
  omega

theorem padded_lt {width a b : Nat} (hb : b < Nat.pow 10 width) (h : a < b) : padded width a < padded width b := by
  induction width generalizing a b with
  | zero =>
    have zero : b < 1 := hb
    omega
  | succ w ih =>
    have hw : Nat.pow 10 (w + 1) = Nat.pow 10 w * 10 := rfl
    rw [padded, padded]
    rcases Nat.lt_or_ge (a / 10) (b / 10) with front | same
    · exact Text.append_lt_append (by simp) (ih (by omega) front) _ _
    · have same : a / 10 = b / 10 := by omega
      have last : digit (a % 10) < digit (b % 10) := digit_lt (Nat.mod_lt _ (by decide)) (by omega)
      rw [same]
      exact List.append_left_lt (List.cons_lt_cons_iff.mpr (.inl last))

theorem padded_append_lt {width a b : Nat} {s t : List Char} (hb : b < Nat.pow 10 width)
    (h : a < b ∨ a = b ∧ s < t) : padded width a ++ s < padded width b ++ t := by
  rcases h with less | ⟨rfl, rest⟩
  · exact Text.append_lt_append (by simp) (padded_lt hb less) s t
  · exact List.append_left_lt rest

theorem cons_padded_append_lt {mark : Char} {width a b : Nat} {s t : List Char} (hb : b < Nat.pow 10 width)
    (h : a < b ∨ a = b ∧ s < t) : mark :: (padded width a ++ s) < mark :: (padded width b ++ t) :=
  List.cons_lt_cons_iff.mpr (.inr ⟨rfl, padded_append_lt hb h⟩)

end Decimal

namespace Calendar

theorem daysBeforeMonth_succ (year : Int) {month : Nat} (h : 1 ≤ month) :
    daysBeforeMonth year (month + 1) = daysBeforeMonth year month + daysInMonth year month := by
  obtain ⟨m, rfl⟩ : ∃ m, month = m + 1 := ⟨month - 1, by omega⟩
  rfl

theorem daysBeforeMonth_mono (year : Int) {a b : Nat} (h : a ≤ b) : daysBeforeMonth year a ≤ daysBeforeMonth year b := by
  induction b with
  | zero =>
    obtain rfl := Nat.le_zero.mp h
    exact Nat.le_refl _
  | succ b ih =>
    rcases Nat.lt_or_eq_of_le h with less | rfl
    · have before := ih (Nat.le_of_lt_succ less)
      rcases Nat.eq_zero_or_pos b with rfl | positive
      · exact before
      · rw [daysBeforeMonth_succ year positive]
        omega
    · exact Nat.le_refl _

theorem head?_yearText (year : Int) (rest : List Char) :
    ((yearText year ++ rest).head? = some '-' ↔ year < 0) ∧ ((yearText year ++ rest).head? = some '+' ↔ 9999 < year) := by
  unfold yearText
  split
  · case isTrue low =>
    split
    · case isTrue high =>
      have unsigned {sign : Char} (hs : Decimal.isDigit sign = false) :
          (Decimal.padded 4 year.toNat ++ rest).head? ≠ some sign := by
        intro first
        obtain ⟨c, more, digits⟩ := List.exists_cons_of_length_pos (show 0 < (Decimal.padded 4 year.toNat).length by simp)
        rw [digits, List.cons_append, List.head?_cons] at first
        have digit := isDigit_of_mem_padded (digits ▸ List.mem_cons_self : c ∈ Decimal.padded 4 year.toNat)
        rw [Option.some.inj first, hs] at digit
        cases digit
      refine ⟨iff_of_false (unsigned rfl) (by omega), iff_of_false (unsigned rfl) (by omega)⟩
    · case isFalse high =>
      refine ⟨iff_of_false (by simp) (by omega), iff_of_true rfl (by omega)⟩
  · case isFalse low =>
    refine ⟨iff_of_true rfl (by omega), iff_of_false (by simp) (by omega)⟩

end Calendar

namespace Date

def Before (d e : Date) : Prop :=
  d.year < e.year ∨ d.year = e.year ∧ (d.month < e.month ∨ d.month = e.month ∧ d.day < e.day)

theorem before_of_dayOfDate_lt {d e : Date} (hd : d.Valid) (he : e.Valid)
    (h : Calendar.dayOfDate d < Calendar.dayOfDate e) : d.Before e := by
  have firstD := (Calendar.dayOfDate_within hd).1
  have lastE := (Calendar.dayOfDate_within he).2
  rcases Int.lt_trichotomy d.year e.year with year | year | year
  · exact .inl year
  · refine .inr ⟨year, ?_⟩
    rcases Nat.lt_trichotomy d.month e.month with month | month | month
    · exact .inl month
    · refine .inr ⟨month, ?_⟩
      simp only [Calendar.dayOfDate, year, month] at h
      omega
    · have ended := Calendar.daysBeforeMonth_mono e.year (show e.month + 1 ≤ d.month from month)
      rw [Calendar.daysBeforeMonth_succ e.year he.month_pos] at ended
      have first := hd.day_pos
      have last := he.day_le
      simp only [Calendar.dayOfDate, year] at h
      omega
  · have ended := Calendar.daysBeforeYear_mono (show e.year + 1 ≤ d.year from year)
    omega

end Date

/-- A date and a time of day, to the millisecond. -/
structure Moment where
  date : Date
  hour : Nat
  minute : Nat
  second : Nat
  millis : Nat

namespace Moment

structure Valid (m : Moment) : Prop where
  date : m.date.Valid
  hour : m.hour < 24
  minute : m.minute < 60
  second : m.second < 60
  millis : m.millis < 1000

def chars (m : Moment) : List Char :=
  Calendar.yearText m.date.year ++ '-' :: (Decimal.padded 2 m.date.month ++ '-' :: (Decimal.padded 2 m.date.day ++
    'T' :: (Decimal.padded 2 m.hour ++ ':' :: (Decimal.padded 2 m.minute ++ ':' :: (Decimal.padded 2 m.second ++
      '.' :: (Decimal.padded 3 m.millis ++ ['Z']))))))

def Before (m n : Moment) : Prop :=
  m.date.Before n.date ∨ m.date = n.date ∧ (m.hour < n.hour ∨ m.hour = n.hour ∧ (m.minute < n.minute ∨
    m.minute = n.minute ∧ (m.second < n.second ∨ m.second = n.second ∧ m.millis < n.millis)))

theorem chars_lt_of_before {m n : Moment} (h : m.Before n) (hn : n.Valid) (low : 0 ≤ m.date.year)
    (high : n.date.year ≤ 9999) : m.chars < n.chars := by
  have years : m.date.year ≤ n.date.year := by
    rcases h with (year | ⟨year, -⟩) | ⟨date, -⟩
    · exact Int.le_of_lt year
    · exact Int.le_of_eq year
    · exact Int.le_of_eq (congrArg Date.year date)
  have order : m.date.year.toNat < n.date.year.toNat ∨ m.date.year.toNat = n.date.year.toNat ∧
      (m.date.month < n.date.month ∨ m.date.month = n.date.month ∧ (m.date.day < n.date.day ∨ m.date.day = n.date.day ∧
        (m.hour < n.hour ∨ m.hour = n.hour ∧ (m.minute < n.minute ∨ m.minute = n.minute ∧
          (m.second < n.second ∨ m.second = n.second ∧ m.millis < n.millis))))) := by
    rcases h with (year | ⟨year, month | ⟨month, day⟩⟩) | ⟨date, time⟩
    · exact .inl (by omega)
    · exact .inr ⟨by rw [year], .inl month⟩
    · exact .inr ⟨by rw [year], .inr ⟨month, .inl day⟩⟩
    · rw [date]
      exact .inr ⟨rfl, .inr ⟨rfl, .inr ⟨rfl, time⟩⟩⟩
  have month : n.date.month < 100 := Nat.lt_of_le_of_lt hn.date.month_le (by decide)
  have day : n.date.day < 100 :=
    Nat.lt_of_le_of_lt (Nat.le_trans hn.date.day_le (Calendar.daysInMonth_le ..)) (by decide)
  have hour : n.hour < 100 := Nat.lt_trans hn.hour (by decide)
  have minute : n.minute < 100 := Nat.lt_trans hn.minute (by decide)
  have second : n.second < 100 := Nat.lt_trans hn.second (by decide)
  rw [chars, chars, Calendar.yearText, Calendar.yearText, if_pos low, if_pos (Int.le_trans years high),
    if_pos (Int.le_trans low years), if_pos high]
  refine Decimal.padded_append_lt (show n.date.year.toNat < 10000 by omega) ?_
  refine order.imp_right (And.imp_right fun order => Decimal.cons_padded_append_lt month ?_)
  refine order.imp_right (And.imp_right fun order => Decimal.cons_padded_append_lt day ?_)
  refine order.imp_right (And.imp_right fun order => Decimal.cons_padded_append_lt hour ?_)
  refine order.imp_right (And.imp_right fun order => Decimal.cons_padded_append_lt minute ?_)
  refine order.imp_right (And.imp_right fun order => Decimal.cons_padded_append_lt second ?_)
  exact order.imp_right (And.imp_right fun order => Decimal.cons_padded_append_lt hn.millis (.inl order))

end Moment

namespace Instant

def millis (t : Instant) : Int := t.nanos.fdiv 1000000

def moment (t : Instant) : Moment where
  date := Calendar.dateOfDay (t.seconds.fdiv 86400)
  hour := (t.seconds.fmod 86400).toNat / 3600
  minute := (t.seconds.fmod 86400).toNat / 60 % 60
  second := (t.seconds.fmod 86400).toNat % 60
  millis := t.fraction / 1000000

theorem toList_millisText (t : Instant) : t.millisText.toList = t.moment.chars := by
  rw [millisText, String.toList_ofList, clockText, Calendar.dateText, Calendar.timeText]
  simp only [List.append_assoc, List.cons_append]
  rfl

section Parts

variable (t : Instant)

theorem millis_eq : t.millis = t.nanos / 1000000 := Int.fdiv_eq_ediv_of_nonneg _ (by decide)

theorem seconds_eq : t.seconds = t.nanos / 1000000000 := Int.fdiv_eq_ediv_of_nonneg _ (by decide)

theorem fraction_eq : (t.fraction : Int) = t.nanos % 1000000000 := by
  rw [fraction, nanosPerSecond, Int.fmod_eq_emod_of_nonneg _ (by decide)]
  omega

theorem day_eq : t.seconds.fdiv 86400 = t.seconds / 86400 := Int.fdiv_eq_ediv_of_nonneg _ (by decide)

theorem secondOfDay_eq : ((t.seconds.fmod 86400).toNat : Int) = t.seconds % 86400 := by
  rw [Int.fmod_eq_emod_of_nonneg _ (by decide)]
  omega

end Parts

theorem valid_moment (t : Instant) : t.moment.Valid := by
  have seconds := t.secondOfDay_eq
  have nanos := t.fraction_eq
  constructor
  · exact Calendar.valid_dateOfDay _
  all_goals
    dsimp only [moment]
    omega

theorem moment_before {t u : Instant} (h : t.millis < u.millis) : t.moment.Before u.moment := by
  rw [millis_eq, millis_eq] at h
  have order : t.seconds.fdiv 86400 < u.seconds.fdiv 86400 ∨ t.seconds.fdiv 86400 = u.seconds.fdiv 86400 ∧
      ((t.seconds.fmod 86400).toNat < (u.seconds.fmod 86400).toNat ∨
        (t.seconds.fmod 86400).toNat = (u.seconds.fmod 86400).toNat ∧ t.fraction / 1000000 < u.fraction / 1000000) := by
    have seconds := t.seconds_eq
    have seconds' := u.seconds_eq
    have fraction := t.fraction_eq
    have fraction' := u.fraction_eq
    have time := t.secondOfDay_eq
    have time' := u.secondOfDay_eq
    rw [day_eq, day_eq]
    omega
  rcases order with day | ⟨day, time⟩
  · refine .inl (Date.before_of_dayOfDate_lt (Calendar.valid_dateOfDay _) (Calendar.valid_dateOfDay _) ?_)
    rwa [moment, moment, Calendar.dayOfDate_dateOfDay, Calendar.dayOfDate_dateOfDay]
  · refine .inr ⟨congrArg Calendar.dateOfDay day, ?_⟩
    dsimp only [moment]
    omega

theorem millisText_congr {t u : Instant} (h : t.millis = u.millis) : t.millisText = u.millisText := by
  rw [millis_eq, millis_eq] at h
  have seconds : t.seconds = u.seconds := by
    rw [seconds_eq, seconds_eq]
    omega
  have millis : t.fraction / 1000000 = u.fraction / 1000000 := by
    have fraction := t.fraction_eq
    have fraction' := u.fraction_eq
    omega
  rw [millisText, millisText, clockText, clockText, seconds, millis]

theorem millisText_eq_iff {t u : Instant} : t.millisText = u.millisText ↔ t.millis = u.millis := by
  constructor
  · intro h
    have read := ofMillisText?_millisText t
    rw [h, ofMillisText?_millisText] at read
    have same : u.millis * 1000000 = t.millis * 1000000 := congrArg Instant.nanos (Option.some.inj read)
    omega
  · exact millisText_congr

/-- The year is one of those that are written with four digits and no sign. -/
def InFourDigits (t : Instant) : Prop := 0 ≤ t.year ∧ t.year ≤ 9999

instance (t : Instant) : Decidable t.InFourDigits := inferInstanceAs (Decidable (_ ∧ _))

theorem millisText_lt_of_lt {t u : Instant} (ht : t.InFourDigits) (hu : u.InFourDigits) (h : t.millis < u.millis) :
    t.millisText < u.millisText := by
  show t.millisText.toList < u.millisText.toList
  rw [toList_millisText, toList_millisText]
  exact Moment.chars_lt_of_before (moment_before h) u.valid_moment ht.1 hu.2

theorem millisText_lt_iff {t u : Instant} (ht : t.InFourDigits) (hu : u.InFourDigits) :
    t.millisText < u.millisText ↔ t.millis < u.millis := by
  constructor
  · intro h
    rcases Int.lt_trichotomy t.millis u.millis with less | same | greater
    · exact less
    · rw [millisText_congr same] at h
      exact absurd h (String.lt_irrefl _)
    · exact absurd (millisText_lt_of_lt hu ht greater) (String.lt_asymm h)
  · exact millisText_lt_of_lt ht hu

end Instant

end AccessLog
