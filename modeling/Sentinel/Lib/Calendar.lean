/-
# The civil calendar

The proleptic Gregorian calendar with its year zero, and the time of day to
the nanosecond. A date has a day number and every day number a date; a date
and time has an instant and every instant a date and time. Instants are
ordered as the fields of their dates and times, from the year down.

Key theorems: `dayNumber_ofDayNumber`, `nanoseconds_ofNanoseconds`,
`nanoseconds_lt`.
-/
import Mathlib.Data.Int.Order.Basic
import Mathlib.Data.List.Lex
import Mathlib.Data.Nat.Notation
import Mathlib.Tactic.SplitIfs

namespace Calendar

/-! ### Years and months -/

def isLeap (year : ℤ) : Bool := year % 4 = 0 && (year % 100 ≠ 0 || year % 400 = 0)

def yearLength (year : ℤ) : ℕ := if isLeap year then 366 else 365

def monthLength (year : ℤ) : ℕ → ℕ
  | 2 => if isLeap year then 29 else 28
  | 4 | 6 | 9 | 11 => 30
  | _ => 31

theorem monthLength_le (year : ℤ) (month : ℕ) : monthLength year month ≤ 31 := by
  unfold monthLength
  cases isLeap year <;> split <;> decide

/-- The days from 0000-01-01 to a year's first day. -/
def daysBeforeYear (year : ℤ) : ℤ := 365 * year + (year + 3) / 4 - (year + 99) / 100 + (year + 399) / 400

/-- The days of a year before one of its months. -/
def daysBeforeMonth (year : ℤ) : ℕ → ℕ
  | 0 => 0
  | 1 => 0
  | month + 2 => daysBeforeMonth year (month + 1) + monthLength year (month + 1)

theorem daysBeforeYear_succ (year : ℤ) : daysBeforeYear (year + 1) = daysBeforeYear year + yearLength year := by
  unfold daysBeforeYear yearLength isLeap
  split_ifs with h <;> simp at h <;> omega

theorem daysBeforeYear_mono {a b : ℤ} (h : a ≤ b) : daysBeforeYear a ≤ daysBeforeYear b := by
  unfold daysBeforeYear
  omega

theorem daysBeforeMonth_succ (year : ℤ) {month : ℕ} (h : 1 ≤ month) :
    daysBeforeMonth year (month + 1) = daysBeforeMonth year month + monthLength year month := by
  obtain ⟨m, rfl⟩ := Nat.exists_eq_add_of_le' h
  rfl

theorem daysBeforeMonth_mono (year : ℤ) {a b : ℕ} (ha : 1 ≤ a) (h : a ≤ b) :
    daysBeforeMonth year a ≤ daysBeforeMonth year b := by
  induction b, h using Nat.le_induction with
  | base => exact le_rfl
  | succ b hb ih =>
    rw [daysBeforeMonth_succ year (ha.trans hb)]
    omega

/-- The months make up the year. -/
theorem daysBeforeMonth_end (year : ℤ) : daysBeforeMonth year 13 = yearLength year := by
  simp only [daysBeforeMonth, monthLength, yearLength]
  split_ifs <;> rfl

/-! ### Dates -/

structure Date where
  year : ℤ
  month : ℕ
  day : ℕ
  deriving DecidableEq, Repr

namespace Date

structure Valid (date : Date) : Prop where
  month_pos : 1 ≤ date.month
  month_le : date.month ≤ 12
  day_pos : 1 ≤ date.day
  day_le : date.day ≤ monthLength date.year date.month

/-- The days from 0000-01-01. -/
def dayNumber (date : Date) : ℤ :=
  daysBeforeYear date.year + daysBeforeMonth date.year date.month + (date.day - 1)

/-- A date is within its month, and its month within its year. -/
theorem Valid.dayNumber_bounds {date : Date} (h : date.Valid) :
    daysBeforeYear date.year + daysBeforeMonth date.year date.month ≤ date.dayNumber ∧
      date.dayNumber < daysBeforeYear date.year + daysBeforeMonth date.year (date.month + 1) ∧
      date.dayNumber < daysBeforeYear (date.year + 1) := by
  have hday := h.day_pos
  have hmonth := h.day_le
  have hsucc := daysBeforeMonth_succ date.year h.month_pos
  have hyear := daysBeforeMonth_mono date.year (b := 13) (show 1 ≤ date.month + 1 by omega) (by have := h.month_le; omega)
  rw [daysBeforeMonth_end] at hyear
  rw [daysBeforeYear_succ]
  unfold dayNumber
  omega

/-- A day comes no earlier than a year's first day if its year does. -/
theorem Valid.daysBeforeYear_le_iff {date : Date} (h : date.Valid) {year : ℤ} :
    daysBeforeYear year ≤ date.dayNumber ↔ year ≤ date.year := by
  obtain ⟨hstart, -, hend⟩ := h.dayNumber_bounds
  constructor
  · intro hle
    by_contra hlt
    have := daysBeforeYear_mono (show date.year + 1 ≤ year by omega)
    omega
  · intro hle
    have := daysBeforeYear_mono hle
    omega

/-- **Day numbers are ordered as dates**, from the year down. -/
theorem dayNumber_lt {a b : Date} (ha : a.Valid) (hb : b.Valid)
    (h : a.year < b.year ∨ a.year = b.year ∧ (a.month < b.month ∨ a.month = b.month ∧ a.day < b.day)) :
    a.dayNumber < b.dayNumber := by
  obtain ⟨-, hmonth, hyear⟩ := ha.dayNumber_bounds
  obtain ⟨hstart, -, -⟩ := hb.dayNumber_bounds
  rcases h with h | ⟨heq, h | ⟨heq', h⟩⟩
  · have := daysBeforeYear_mono (show a.year + 1 ≤ b.year by omega)
    omega
  · have := daysBeforeMonth_mono b.year (show 1 ≤ a.month + 1 by omega) (show a.month + 1 ≤ b.month by omega)
    rw [heq] at hmonth
    omega
  · unfold dayNumber
    rw [heq, heq']
    omega

/-- The year of a day: days come at 146097 in 400 years, and the estimate is
off by one year at most. -/
def yearOf (n : ℤ) : ℤ :=
  let guess := 400 * n / 146097
  if n < daysBeforeYear guess then guess - 1
  else if daysBeforeYear (guess + 1) ≤ n then guess + 1
  else guess

theorem yearOf_bounds (n : ℤ) : daysBeforeYear (yearOf n) ≤ n ∧ n < daysBeforeYear (yearOf n + 1) := by
  unfold yearOf
  simp only
  split_ifs with hbefore hafter
  · rw [Int.sub_add_cancel]
    unfold daysBeforeYear at hbefore ⊢
    omega
  · unfold daysBeforeYear at hafter ⊢
    omega
  · exact ⟨Int.not_lt.mp hbefore, Int.not_le.mp hafter⟩

/-- The month and day of a day of the year, looked for from a month on. -/
def monthDay (year : ℤ) : ℕ → ℕ → ℕ → ℕ × ℕ
  | 0, month, rest => (month, rest + 1)
  | left + 1, month, rest =>
    if rest < monthLength year month then (month, rest + 1)
    else monthDay year left (month + 1) (rest - monthLength year month)

theorem monthDay_spec (year : ℤ) : ∀ (left month rest : ℕ), 1 ≤ month → month + left = 12 →
    daysBeforeMonth year month + rest < daysBeforeMonth year 13 →
    (⟨year, (monthDay year left month rest).1, (monthDay year left month rest).2⟩ : Date).Valid ∧
      daysBeforeMonth year (monthDay year left month rest).1 + (monthDay year left month rest).2 =
        daysBeforeMonth year month + rest + 1
  | 0, month, rest, hmonth, hend, hrest => by
    obtain rfl : month = 12 := by omega
    have hlast : daysBeforeMonth year 13 = daysBeforeMonth year 12 + monthLength year 12 := daysBeforeMonth_succ year hmonth
    exact ⟨⟨hmonth, le_rfl, Nat.le_add_left 1 rest, by simp only [monthDay]; omega⟩, rfl⟩
  | left + 1, month, rest, hmonth, hend, hrest => by
    have hnext := daysBeforeMonth_succ year hmonth
    unfold monthDay
    by_cases h : rest < monthLength year month
    · rw [if_pos h]
      exact ⟨⟨hmonth, by simp only; omega, Nat.le_add_left 1 rest, h⟩, rfl⟩
    · rw [if_neg h]
      obtain ⟨hvalid, hsum⟩ := monthDay_spec year left (month + 1) (rest - monthLength year month) (by omega) (by omega)
        (by omega)
      exact ⟨hvalid, by omega⟩

/-- The date of a day number. -/
def ofDayNumber (n : ℤ) : Date :=
  let year := yearOf n
  let (month, day) := monthDay year 11 1 (n - daysBeforeYear year).toNat
  ⟨year, month, day⟩

/-- **Every day number has its date.** -/
theorem dayNumber_ofDayNumber (n : ℤ) : (ofDayNumber n).Valid ∧ (ofDayNumber n).dayNumber = n := by
  obtain ⟨hstart, hend⟩ := yearOf_bounds n
  rw [daysBeforeYear_succ, ← daysBeforeMonth_end] at hend
  have hrest : ((n - daysBeforeYear (yearOf n)).toNat : ℤ) = n - daysBeforeYear (yearOf n) :=
    Int.toNat_of_nonneg (by omega)
  obtain ⟨hvalid, hsum⟩ := monthDay_spec (yearOf n) 11 1 (n - daysBeforeYear (yearOf n)).toNat le_rfl rfl (by
    have hfirst : daysBeforeMonth (yearOf n) 1 = 0 := rfl
    omega)
  refine ⟨hvalid, ?_⟩
  have hfirst : daysBeforeMonth (yearOf n) 1 = 0 := rfl
  rw [hfirst] at hsum
  simp only [dayNumber, ofDayNumber]
  omega

end Date

/-! ### Times -/

/-- A date and a time of day. -/
structure Civil where
  date : Date
  hour : ℕ
  minute : ℕ
  second : ℕ
  nanosecond : ℕ
  deriving DecidableEq, Repr

namespace Civil

structure Valid (civil : Civil) : Prop where
  date : civil.date.Valid
  hour : civil.hour < 24
  minute : civil.minute < 60
  second : civil.second < 60
  nanosecond : civil.nanosecond < 1000000000

/-- The day number of 1970-01-01. -/
def epochDay : ℤ := 719528

example : Date.dayNumber ⟨1970, 1, 1⟩ = epochDay := by decide

/-- The nanoseconds from the Unix epoch. -/
def nanoseconds (civil : Civil) : ℤ :=
  ((((civil.date.dayNumber - epochDay) * 24 + civil.hour) * 60 + civil.minute) * 60 + civil.second) * 1000000000 +
    civil.nanosecond

/-- The date and time of an instant. -/
def ofNanoseconds (n : ℤ) : Civil :=
  let second := n / 1000000000
  let minute := second / 60
  let hour := minute / 60
  ⟨.ofDayNumber (hour / 24 + epochDay), (hour % 24).toNat, (minute % 60).toNat, (second % 60).toNat,
    (n % 1000000000).toNat⟩

/-- **Every instant has its date and time.** -/
theorem nanoseconds_ofNanoseconds (n : ℤ) : (ofNanoseconds n).Valid ∧ (ofNanoseconds n).nanoseconds = n := by
  obtain ⟨hdate, hnumber⟩ := Date.dayNumber_ofDayNumber (n / 1000000000 / 60 / 60 / 24 + epochDay)
  constructor
  · exact ⟨hdate, by simp only [ofNanoseconds]; omega, by simp only [ofNanoseconds]; omega,
      by simp only [ofNanoseconds]; omega, by simp only [ofNanoseconds]; omega⟩
  · simp only [nanoseconds, ofNanoseconds, hnumber]
    omega

/-- An instant comes no earlier than a year's first if its year does. -/
theorem le_year_iff {n year : ℤ} :
    year ≤ (ofNanoseconds n).date.year ↔ (daysBeforeYear year - epochDay) * 86400000000000 ≤ n := by
  obtain ⟨hvalid, hn⟩ := nanoseconds_ofNanoseconds n
  rw [← hvalid.date.daysBeforeYear_le_iff]
  have := hvalid.hour
  have := hvalid.minute
  have := hvalid.second
  have := hvalid.nanosecond
  unfold nanoseconds at hn
  omega

/-- The numbers of a date and time, from the year down. -/
def fields (civil : Civil) : List ℕ :=
  [civil.date.year.toNat, civil.date.month, civil.date.day, civil.hour, civil.minute, civil.second, civil.nanosecond]

/-- **Instants are ordered as the fields of their dates and times.** -/
theorem nanoseconds_lt {a b : Civil} (ha : a.Valid) (hb : b.Valid) (hyear : 0 ≤ a.date.year)
    (hyear' : 0 ≤ b.date.year) (h : a.fields < b.fields) : a.nanoseconds < b.nanoseconds := by
  have := ha.hour
  have := ha.minute
  have := ha.second
  have := ha.nanosecond
  have hdate (h : a.date.year < b.date.year ∨ a.date.year = b.date.year ∧
      (a.date.month < b.date.month ∨ a.date.month = b.date.month ∧ a.date.day < b.date.day)) :
      a.nanoseconds < b.nanoseconds := by
    have := Date.dayNumber_lt ha.date hb.date h
    unfold nanoseconds
    omega
  simp only [fields, List.cons_lt_cons_iff] at h
  rcases h with h | ⟨hy, h | ⟨hm, h | ⟨hd, h⟩⟩⟩
  · exact hdate (.inl (by omega))
  · exact hdate (by omega)
  · exact hdate (by omega)
  · -- the dates agree, so the times of day decide
    have hday : a.date.dayNumber = b.date.dayNumber := by
      have : a.date.year = b.date.year := by omega
      rw [Date.dayNumber, Date.dayNumber, this, hm, hd]
    unfold nanoseconds
    rw [hday]
    rcases h with h | ⟨hh, h | ⟨hmi, h | ⟨hs, h⟩⟩⟩
    · omega
    · omega
    · omega
    · simp at h
      omega

theorem fields_inj {a b : Civil} (hyear : 0 ≤ a.date.year) (hyear' : 0 ≤ b.date.year) (h : a.fields = b.fields) :
    a = b := by
  obtain ⟨⟨year, month, day⟩, hour, minute, second, nanosecond⟩ := a
  obtain ⟨⟨year', month', day'⟩, hour', minute', second', nanosecond'⟩ := b
  simp only [fields, List.cons.injEq] at h
  obtain ⟨hy, rfl, rfl, rfl, rfl, rfl, rfl, -⟩ := h
  simp only at hyear hyear'
  obtain rfl : year = year' := by omega
  rfl

/-- The fields of the dates and times of two instants are ordered as they are. -/
theorem fields_ofNanoseconds_lt {n m : ℤ} (hyear : 0 ≤ (ofNanoseconds n).date.year)
    (hyear' : 0 ≤ (ofNanoseconds m).date.year) (h : n < m) : (ofNanoseconds n).fields < (ofNanoseconds m).fields := by
  obtain ⟨hvalid, hn⟩ := nanoseconds_ofNanoseconds n
  obtain ⟨hvalid', hm⟩ := nanoseconds_ofNanoseconds m
  rcases lt_trichotomy (ofNanoseconds n).fields (ofNanoseconds m).fields with hlt | heq | hgt
  · exact hlt
  · rw [fields_inj hyear hyear' heq, hm] at hn
    omega
  · have := nanoseconds_lt hvalid' hvalid hyear' hyear hgt
    omega

end Civil

end Calendar
