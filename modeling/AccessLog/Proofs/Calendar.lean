import AccessLog.Calendar

/-!
# Reading dates and instants

The proleptic Gregorian calendar by its own rules: leap years, lengths of months, days counted from the years and
months before. The date of a day is a date of that calendar, and counting its days gives the day back. An
instant written to the millisecond is read back, rounded down to it.
-/

namespace AccessLog

namespace Calendar

def isLeap (year : Int) : Bool := year % 4 = 0 && (year % 100 ≠ 0 || year % 400 = 0)

def daysInMonth (year : Int) (month : Nat) : Nat :=
  if month = 2 then if isLeap year then 29 else 28
  else if month = 4 ∨ month = 6 ∨ month = 9 ∨ month = 11 then 30
  else 31

def daysBeforeYear (year : Int) : Int :=
  365 * year + (year + 3) / 4 - (year + 99) / 100 + (year + 399) / 400

def daysBeforeMonth (year : Int) : Nat → Nat
  | 0 => 0
  | 1 => 0
  | month + 1 => daysBeforeMonth year month + daysInMonth year month

def dayOfDate (d : Date) : Int :=
  daysBeforeYear d.year - daysBeforeYear 1970 + daysBeforeMonth d.year d.month + (d.day - 1)

end Calendar

structure Date.Valid (d : Date) : Prop where
  month_pos : 1 ≤ d.month
  month_le : d.month ≤ 12
  day_pos : 1 ≤ d.day
  day_le : d.day ≤ Calendar.daysInMonth d.year d.month

instance (d : Date) : Decidable d.Valid :=
  decidable_of_iff (1 ≤ d.month ∧ d.month ≤ 12 ∧ 1 ≤ d.day ∧
      d.day ≤ Calendar.daysInMonth d.year d.month)
    ⟨fun ⟨a, b, c, d⟩ => ⟨a, b, c, d⟩, fun ⟨a, b, c, d⟩ => ⟨a, b, c, d⟩⟩

namespace Calendar

theorem daysBeforeYear_succ (year : Int) :
    daysBeforeYear (year + 1) = daysBeforeYear year + if isLeap year then 366 else 365 := by
  have h4 : (year + 1 + 3) / 4 = (year + 3) / 4 + if year % 4 = 0 then 1 else 0 := by
    split <;> omega
  have h100 : (year + 1 + 99) / 100 = (year + 99) / 100 + if year % 100 = 0 then 1 else 0 := by
    split <;> omega
  have h400 : (year + 1 + 399) / 400 = (year + 399) / 400 + if year % 400 = 0 then 1 else 0 := by
    split <;> omega
  have hc : year % 100 = 0 → year % 4 = 0 := by omega
  have hq : year % 400 = 0 → year % 100 = 0 := by omega
  rw [daysBeforeYear, daysBeforeYear, h4, h100, h400, isLeap]
  generalize (year + 3) / 4 = leaps
  generalize (year + 99) / 100 = skipped
  generalize (year + 399) / 400 = kept
  by_cases m4 : year % 4 = 0
  · by_cases m100 : year % 100 = 0
    · by_cases m400 : year % 400 = 0
      · simp [m4, m100, m400]
        omega
      · simp [m4, m100, m400]
        omega
    · simp [m4, m100, mt hq m100]
      omega
  · simp [m4, mt hc m4, mt hq (mt hc m4)]
    omega

/-- A day of a cycle as a year from March and a day in it, which is the leap day only before the
January of a leap year. -/
theorem yearOfCycle_eq {r : Nat} (h : r < 146097) :
    let y := (yearOfCycle r).1
    let d := (yearOfCycle r).2
    y < 400 ∧ r = 365 * y + y / 4 - y / 100 + d ∧
      (d ≤ 364 ∨ d = 365 ∧ (y + 1) % 4 = 0 ∧ ((y + 1) % 100 ≠ 0 ∨ (y + 1) % 400 = 0)) := by
  simp only [yearOfCycle]
  generalize hc : min 3 (r / 36524) = c
  have hle : c * 36524 ≤ r :=
    Nat.mul_le_of_le_div _ _ _ (hc ▸ Nat.min_le_right 3 (r / 36524))
  generalize hr : r - c * 36524 = r'
  generalize hq : r' / 1461 = q
  have hle' : q * 1461 ≤ r' := hq ▸ Nat.div_mul_le_self r' 1461
  generalize hs : r' - q * 1461 = r''
  generalize ht : min 3 (r'' / 365) = t
  have hle'' : t * 365 ≤ r'' :=
    Nat.mul_le_of_le_div _ _ _ (ht ▸ Nat.min_le_right 3 (r'' / 365))
  have hc3 : c ≤ 3 := by omega
  have ht3 : t ≤ 3 := by omega
  have hr' : r' < 36525 ∧ (r' = 36524 → c = 3) := by omega
  have hq24 : q ≤ 24 := by omega
  have hr'' : r'' < 1461 := by omega
  have hq' : r'' = 1460 → q = 24 → c = 3 := by omega
  have hd : r'' - t * 365 ≤ 364 ∨ r'' - t * 365 = 365 ∧ t = 3 := by omega
  have h4 : (c * 100 + q * 4 + t) / 4 = 25 * c + q := by omega
  have h100 : (c * 100 + q * 4 + t) / 100 = c := by omega
  refine ⟨by omega, ?_, ?_⟩
  · rw [h4, h100]
    clear hc hq ht hr' hr'' hq' hd h4 h100
    omega
  rcases hd with hd | ⟨hd, rfl⟩
  · exact .inl hd
  · right
    refine ⟨hd, by omega, ?_⟩
    omega

theorem daysInMonth_of_march (year : Int) {m : Nat} (h : m < 10) :
    daysInMonth year (m + 3) = (153 * (m + 1) + 2) / 5 - (153 * m + 2) / 5 := by
  rcases m with _ | _ | _ | _ | _ | _ | _ | _ | _ | _ | m <;>
    first
    | omega
    | simp [daysInMonth]

theorem daysBeforeMonth_of_march (year : Int) {m : Nat} (h : m < 10) :
    daysBeforeMonth year (m + 3) = (if isLeap year then 60 else 59) + (153 * m + 2) / 5 := by
  induction m with
  | zero =>
    change 0 + 31 + daysInMonth year 2 = _
    rw [daysInMonth, if_pos rfl]
    cases isLeap year <;> rfl
  | succ m ih =>
    rw [show daysBeforeMonth year (m + 1 + 3) = daysBeforeMonth year (m + 3) +
      daysInMonth year (m + 3) from rfl, ih (by omega), daysInMonth_of_march year (by omega)]
    omega

theorem daysInMonth_le (year : Int) (month : Nat) : daysInMonth year month ≤ 31 := by
  unfold daysInMonth
  repeat' split
  all_goals omega

theorem daysBeforeMarch (cycle : Int) (y : Nat) :
    daysBeforeYear (cycle * 400 + y + 1) - daysBeforeYear 1970 =
      146097 * cycle + 365 * y + y / 4 - y / 100 + y / 400 + 366 - 719528 := by
  simp only [daysBeforeYear]
  omega

theorem dateOfDay_eq (n : Int) : ∃ (cycle : Int) (y d : Nat),
    n + epochDay = 146097 * cycle + 365 * y + y / 4 - y / 100 + d ∧ y < 400 ∧
    (d ≤ 364 ∨ d = 365 ∧ isLeap (cycle * 400 + y + 1)) ∧
    dateOfDay n =
      let m := (5 * d + 2) / 153
      let day := d - (153 * m + 2) / 5 + 1
      if m < 10 then ⟨cycle * 400 + y, m + 3, day⟩ else ⟨cycle * 400 + y + 1, m - 9, day⟩ := by
  have hr : 0 ≤ (n + epochDay) % 146097 ∧ (n + epochDay) % 146097 < 146097 := by omega
  have hspec := yearOfCycle_eq (r := ((n + epochDay) % 146097).toNat) (by omega)
  cases hyd : yearOfCycle ((n + epochDay) % 146097).toNat with
  | mk y d =>
    simp only [hyd] at hspec
    obtain ⟨hy, he, hl⟩ := hspec
    refine ⟨(n + epochDay) / 146097, y, d, by omega, hy, ?_, ?_⟩
    · rcases hl with hl | ⟨hd, h4, h100⟩
      · exact .inl hl
      · refine .inr ⟨hd, ?_⟩
        simp only [isLeap, Bool.and_eq_true, Bool.or_eq_true, decide_eq_true_eq]
        omega
    · simp only [dateOfDay, Int.fdiv_eq_ediv_of_nonneg _ (show (0 : Int) ≤ 146097 by decide),
        Int.fmod_eq_emod_of_nonneg _ (show (0 : Int) ≤ 146097 by decide), hyd]
      split <;> rfl

theorem dayOfDate_dateOfDay (n : Int) : dayOfDate (dateOfDay n) = n := by
  obtain ⟨cycle, y, d, hn, hy, hd, he⟩ := dateOfDay_eq n
  have hd' : d ≤ 365 := by omega
  have hb := daysBeforeMarch cycle y
  have hs := daysBeforeYear_succ (cycle * 400 + y)
  rw [epochDay] at hn
  rw [he]
  generalize hm : (5 * d + 2) / 153 = m
  dsimp only
  split
  · case isTrue h =>
    rw [dayOfDate, daysBeforeMonth_of_march _ h]
    cases hl : isLeap (cycle * 400 + y) <;> rw [hl] at hs <;> simp at hs ⊢ <;> omega
  · case isFalse h =>
    obtain rfl | rfl : m = 10 ∨ m = 11 := by omega
    · rw [dayOfDate, show daysBeforeMonth _ (10 - 9) = 0 from rfl]
      dsimp only
      omega
    · rw [dayOfDate, show daysBeforeMonth _ (11 - 9) = 31 from rfl]
      dsimp only
      omega

theorem valid_dateOfDay (n : Int) : (dateOfDay n).Valid := by
  obtain ⟨cycle, y, d, hn, hy, hd, he⟩ := dateOfDay_eq n
  have hd' : d ≤ 365 := by omega
  rw [he]
  generalize hm : (5 * d + 2) / 153 = m
  dsimp only
  split
  · case isTrue h =>
    have hk := daysInMonth_of_march (cycle * 400 + y) h
    constructor <;> dsimp only <;> omega
  · case isFalse h =>
    obtain rfl | rfl : m = 10 ∨ m = 11 := by omega
    · constructor <;> simp [daysInMonth]
      omega
    · rcases hd with hd | ⟨hd, hl⟩
      · constructor <;> simp [daysInMonth]
        split <;> omega
      · constructor <;> simp [daysInMonth, hl, hd]

def field? (mark : Char) (width : Nat) : List Char → Option (Nat × List Char)
  | [] => none
  | c :: s =>
    if c = mark ∧ (s.take width).length = width ∧ (s.take width).all Decimal.isDigit then
      some (Decimal.value (s.take width), s.drop width)
    else none

def year? : List Char → Option (Int × List Char)
  | '+' :: s => (signedYear? s).map fun (n, rest) => (n, rest)
  | '-' :: s => (signedYear? s).map fun (n, rest) => (-n, rest)
  | s => (field? ' ' 4 (' ' :: s)).map fun (n, rest) => (n, rest)
where
  signedYear? (s : List Char) : Option (Nat × List Char) :=
    let digits := s.takeWhile Decimal.isDigit
    if 4 ≤ digits.length then some (Decimal.value digits, s.dropWhile Decimal.isDigit) else none

/-- Date and time of day to the millisecond, in UTC. The date and the time have to exist. -/
def readMillis? (s : List Char) : Option Instant := do
  let (year, s) ← year? s
  let (month, s) ← field? '-' 2 s
  let (day, s) ← field? '-' 2 s
  let (hour, s) ← field? 'T' 2 s
  let (minute, s) ← field? ':' 2 s
  let (second, s) ← field? ':' 2 s
  let (millis, s) ← field? '.' 3 s
  let date : Date := ⟨year, month, day⟩
  if s = ['Z'] ∧ date.Valid ∧ hour < 24 ∧ minute < 60 ∧ second < 60 then
    some (Instant.ofSeconds (dayOfDate date * 86400 + (hour * 3600 + minute * 60 + second : Nat))
      (millis * 1000000 : Nat))
  else none

theorem isDigit_of_mem_padded {width n : Nat} {c : Char} (h : c ∈ Decimal.padded width n) :
    Decimal.isDigit c = true := by
  induction width generalizing n with
  | zero => simp [Decimal.padded] at h
  | succ w ih =>
    rw [Decimal.padded, List.mem_append, List.mem_singleton] at h
    rcases h with h | rfl
    · exact ih h
    · exact Decimal.isDigit_digit (Nat.mod_lt _ (by decide))

theorem value_padded {width n : Nat} (h : n < Nat.pow 10 width) :
    Decimal.value (Decimal.padded width n) = n := by
  induction width generalizing n with
  | zero =>
    obtain rfl : n = 0 := by simp at h; exact h
    rfl
  | succ w ih =>
    have hw : Nat.pow 10 (w + 1) = Nat.pow 10 w * 10 := rfl
    rw [Decimal.padded, Decimal.value_append_digit, ih (by omega),
      Decimal.digitValue_digit (Nat.mod_lt _ (by decide))]
    omega

theorem field?_padded (mark : Char) (width : Nat) {n : Nat} (h : n < Nat.pow 10 width) (rest : List Char) :
    field? mark width (mark :: (Decimal.padded width n ++ rest)) = some (n, rest) := by
  have hl := Decimal.length_padded width n
  have ht : (Decimal.padded width n ++ rest).take width = Decimal.padded width n :=
    List.take_left' hl
  have hd : (Decimal.padded width n ++ rest).drop width = rest := List.drop_left' hl
  have ha : (Decimal.padded width n).all Decimal.isDigit = true :=
    List.all_eq_true.mpr fun c hc => isDigit_of_mem_padded hc
  simp [field?, ht, hd, ha, hl, value_padded h]

theorem span_digits {digits : List Char} (h : ∀ c ∈ digits, Decimal.isDigit c = true)
    (rest : List Char) :
    (digits ++ '-' :: rest).takeWhile Decimal.isDigit = digits ∧
      (digits ++ '-' :: rest).dropWhile Decimal.isDigit = '-' :: rest := by
  have hm : Decimal.isDigit '-' = false := rfl
  rw [List.takeWhile_append_of_pos h, List.dropWhile_append_of_pos h]
  simp [hm]

theorem signedYear?_eq {digits : List Char} (h : ∀ c ∈ digits, Decimal.isDigit c = true)
    (hl : 4 ≤ digits.length) (rest : List Char) :
    year?.signedYear? (digits ++ '-' :: rest) = some (Decimal.value digits, '-' :: rest) := by
  obtain ⟨ht, hd⟩ := span_digits h rest
  simp only [year?.signedYear?, ht, hd, hl, if_true]

theorem four_le_length_ofNat {n : Nat} (h : 1000 ≤ n) : 4 ≤ (Decimal.ofNat n).length := by
  have hp := List.length_pos_iff.mpr (Decimal.ofNat_ne_nil (n / 10 / 10 / 10))
  rw [Decimal.ofNat, if_neg (by omega), Decimal.ofNat, if_neg (by omega), Decimal.ofNat,
    if_neg (by omega)]
  simp only [List.length_append, List.length_singleton]
  omega

theorem year?_yearText (year : Int) (rest : List Char) :
    year? (yearText year ++ '-' :: rest) = some (year, '-' :: rest) := by
  have digits : ∀ n, ∀ c ∈ Decimal.ofNat n, Decimal.isDigit c = true :=
    fun n c hc => Decimal.isDigit_of_mem_ofNat hc
  have padded : ∀ n, ∀ c ∈ Decimal.padded 4 n, Decimal.isDigit c = true :=
    fun n c hc => isDigit_of_mem_padded hc
  rw [yearText]
  split
  · case isTrue h0 =>
    have hy : ((year.toNat : Nat) : Int) = year := Int.toNat_of_nonneg h0
    split
    · case isTrue h =>
      have hf := field?_padded ' ' 4 (n := year.toNat) (by simp; omega) ('-' :: rest)
      have hs : ∀ sign, Decimal.isDigit sign = false →
          ∀ s, Decimal.padded 4 year.toNat ++ '-' :: rest ≠ sign :: s := by
        intro sign hsign s he
        have hc := List.mem_of_mem_head? (a := sign) (l := Decimal.padded 4 year.toNat)
          (by simpa [Decimal.padded] using congrArg List.head? he)
        rw [padded _ sign hc] at hsign
        exact Bool.noConfusion hsign
      rw [year?]
      · simp only [hf, Option.map_some, hy]
      · exact hs '+' rfl
      · exact hs '-' rfl
    · case isFalse h =>
      rw [List.cons_append, year?, signedYear?_eq (digits _) (four_le_length_ofNat (by omega)),
        Decimal.value_ofNat]
      simp only [Option.map_some, hy]
  · case isFalse h0 =>
    have hy : -(((-year).toNat : Nat) : Int) = year := by omega
    split
    · case isTrue h =>
      rw [List.cons_append, year?, signedYear?_eq (padded _) (by simp),
        value_padded (by simp; omega)]
      simp only [Option.map_some, hy]
    · case isFalse h =>
      rw [List.cons_append, year?, signedYear?_eq (digits _) (four_le_length_ofNat (by omega)),
        Decimal.value_ofNat]
      simp only [Option.map_some, hy]

end Calendar

namespace Instant

def floorMillis (t : Instant) : Instant := ⟨t.nanos.fdiv 1000000 * 1000000⟩

def ofMillisText? (s : String) : Option Instant := Calendar.readMillis? s.toList

theorem ofMillisText?_millisText (t : Instant) :
    ofMillisText? t.millisText = some t.floorMillis := by
  have hs : t.seconds = t.nanos / 1000000000 :=
    Int.fdiv_eq_ediv_of_nonneg _ (by decide)
  have hf : (t.fraction : Int) = t.nanos % 1000000000 := by
    rw [fraction, nanosPerSecond, Int.fmod_eq_emod_of_nonneg _ (by decide)]
    omega
  have hday : t.seconds.fdiv 86400 = t.seconds / 86400 :=
    Int.fdiv_eq_ediv_of_nonneg _ (by decide)
  have htime : t.seconds.fmod 86400 = t.seconds % 86400 :=
    Int.fmod_eq_emod_of_nonneg _ (by decide)
  have hv := Calendar.valid_dateOfDay (t.seconds / 86400)
  have hd := Calendar.dayOfDate_dateOfDay (t.seconds / 86400)
  rw [ofMillisText?, millisText, String.toList_ofList, clockText, hday, htime]
  generalize Calendar.dateOfDay (t.seconds / 86400) = date at *
  generalize hsec : (t.seconds % 86400).toNat = second
  have hm := hv.month_le
  have hdm := Nat.le_trans hv.day_le (Calendar.daysInMonth_le date.year date.month)
  have month := Calendar.field?_padded '-' 2 (show date.month < 100 by omega)
  have day := Calendar.field?_padded '-' 2 (show date.day < 100 by omega)
  have hour := Calendar.field?_padded 'T' 2 (show second / 3600 < 100 by omega)
  have minute := Calendar.field?_padded ':' 2 (show second / 60 % 60 < 100 by omega)
  have second' := Calendar.field?_padded ':' 2 (show second % 60 < 100 by omega)
  have millis := Calendar.field?_padded '.' 3
    (show t.fraction / 1000000 < 1000 by omega)
  simp only [Calendar.dateText, Calendar.timeText, List.append_assoc, List.cons_append]
  simp only [Calendar.readMillis?, Calendar.year?_yearText, Option.bind_eq_bind, Option.bind_some,
    month, day, hour, minute, second', millis, true_and]
  rw [if_pos ⟨hv, by omega, by omega, by omega⟩, floorMillis, ofSeconds, hd, nanosPerSecond,
    Int.fdiv_eq_ediv_of_nonneg _ (by decide)]
  congr 2
  omega

end Instant

end AccessLog
