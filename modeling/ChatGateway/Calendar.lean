/-!
Moments and the calendar that names them. A calendar reaches over some span of time and knows the
Unix milliseconds of each of its moments. The one that is used is the proleptic Gregorian calendar:
a year and a day within it, four centuries being 146097 days.
-/

namespace ChatGateway

/-- A calendar reads Unix milliseconds as a moment, where it reaches, and tells those of a moment.
-/
structure Calendar where
  Moment : Type
  ofMilliseconds? : Int64 → Option Moment
  milliseconds : Moment → Int

namespace Calendar

/-- The Unix milliseconds with which the year −262143 begins. -/
def first : Int := -8334601228800000

/-- The last of the Unix milliseconds of the year 262142. -/
def last : Int := 8210266876799999

/-- A moment keeps the milliseconds it was read from, and the years −262143 to 262142 are all
within reach. -/
structure Lawful (calendar : Calendar) : Prop where
  keeps : ∀ {t : Int64} {moment : calendar.Moment},
    calendar.ofMilliseconds? t = some moment → calendar.milliseconds moment = t.toInt
  reaches : ∀ {t : Int64}, first ≤ t.toInt → t.toInt ≤ last → (calendar.ofMilliseconds? t).isSome

end Calendar

namespace Gregorian

def isLeap (year : Int) : Bool := year % 4 == 0 && (year % 100 != 0 || year % 400 == 0)

def yearLength (year : Int) : Nat := if isLeap year then 366 else 365

/-- The number of the first day of a year, counted from the first day of the year 0. -/
def firstDay (year : Int) : Int :=
  365 * year + (year + 3) / 4 - (year + 99) / 100 + (year + 399) / 400

/-- The year of a day. Years of 365 days are short, so the first guess is late by a year at most. -/
def yearOf (day : Int) : Int :=
  let cycle := day / 146097
  let rest := day % 146097
  400 * cycle + if firstDay (rest / 365) ≤ rest then rest / 365 else rest / 365 - 1

theorem firstDay_succ (year : Int) : firstDay (year + 1) = firstDay year + yearLength year := by
  simp only [firstDay, yearLength, isLeap, Bool.and_eq_true, Bool.or_eq_true, beq_iff_eq,
    bne_iff_ne]
  split <;> omega

theorem firstDay_le {year later : Int} (h : year ≤ later) : firstDay year ≤ firstDay later := by
  simp only [firstDay]
  omega

theorem firstDay_cycle (cycle year : Int) :
    firstDay (400 * cycle + year) = 146097 * cycle + firstDay year := by
  simp only [firstDay]
  omega

theorem firstDay_yearOf_le (day : Int) : firstDay (yearOf day) ≤ day := by
  have hrest : 0 ≤ day % 146097 := by omega
  rw [yearOf, firstDay_cycle]
  split
  next => omega
  next hlate =>
    -- the leap days of four centuries are fewer than the days of a year
    simp only [firstDay] at hlate ⊢
    omega

theorem lt_firstDay_yearOf_succ (day : Int) : day < firstDay (yearOf day + 1) := by
  have hrest : 0 ≤ day % 146097 ∧ day % 146097 < 146097 := by omega
  rw [yearOf, Int.add_assoc, firstDay_cycle]
  split
  next =>
    simp only [firstDay]
    omega
  next hlate =>
    rw [Int.sub_add_cancel]
    omega

/-- A year begins by a day exactly if it is not after the year of the day. -/
theorem firstDay_le_iff {year day : Int} : firstDay year ≤ day ↔ year ≤ yearOf day := by
  constructor
  · intro h
    refine Int.not_lt.1 fun hlate => ?_
    have hnext : firstDay (yearOf day + 1) ≤ firstDay year := firstDay_le hlate
    have hday := lt_firstDay_yearOf_succ day
    omega
  · intro h
    exact Int.le_trans (firstDay_le h) (firstDay_yearOf_le day)

def firstYear : Int := -262143

def lastYear : Int := 262142

structure Date where
  year : Int
  /-- The days since the first day of the year. -/
  day : Nat
  day_lt : day < yearLength year
  reached : firstYear ≤ year ∧ year ≤ lastYear

namespace Date

def number (date : Date) : Int := firstDay date.year + date.day

theorem day_lt_yearLength (day : Int) :
    (day - firstDay (yearOf day)).toNat < yearLength (yearOf day) := by
  have hlow := firstDay_yearOf_le day
  have hhigh := lt_firstDay_yearOf_succ day
  rw [firstDay_succ] at hhigh
  omega

def ofNumber? (day : Int) : Option Date :=
  if reached : firstYear ≤ yearOf day ∧ yearOf day ≤ lastYear then
    some ⟨yearOf day, (day - firstDay (yearOf day)).toNat, day_lt_yearLength day, reached⟩
  else none

theorem number_of_ofNumber? {day : Int} {date : Date} (h : ofNumber? day = some date) :
    date.number = day := by
  rw [ofNumber?, Option.dite_none_right_eq_some] at h
  obtain ⟨-, ⟨⟩⟩ := h
  have hlow := firstDay_yearOf_le day
  simp only [number]
  omega

example : (ofNumber? 730850).map (fun date => (date.year, date.day)) = some (2000, 365) := by decide

theorem isSome_ofNumber?_iff {day : Int} :
    (ofNumber? day).isSome ↔ firstDay firstYear ≤ day ∧ day < firstDay (lastYear + 1) := by
  rw [firstDay_le_iff, ← Int.not_le, firstDay_le_iff, Int.not_le, Int.lt_add_one_iff, ofNumber?,
    Option.isSome_dite]

end Date

/-- The milliseconds of a day. -/
def dayLength : Nat := 86400000

/-- The number of the first day of 1970. -/
def unixDay : Int := 719528

structure Moment where
  date : Date
  /-- The milliseconds since the beginning of the day. -/
  millisecond : Nat
  millisecond_lt : millisecond < dayLength

namespace Moment

def milliseconds (moment : Moment) : Int :=
  (moment.date.number - unixDay) * dayLength + moment.millisecond

def ofMilliseconds? (t : Int64) : Option Moment :=
  (Date.ofNumber? (t.toInt / dayLength + unixDay)).map fun date =>
    ⟨date, (t.toInt % dayLength).toNat, by simp only [dayLength]; omega⟩

theorem milliseconds_of_ofMilliseconds? {t : Int64} {moment : Moment}
    (h : ofMilliseconds? t = some moment) : moment.milliseconds = t.toInt := by
  obtain ⟨date, hdate, rfl⟩ := Option.map_eq_some_iff.1 h
  have hnumber := Date.number_of_ofNumber? hdate
  simp only [milliseconds, hnumber, dayLength]
  omega

theorem isSome_ofMilliseconds?_iff {t : Int64} :
    (ofMilliseconds? t).isSome ↔ Calendar.first ≤ t.toInt ∧ t.toInt ≤ Calendar.last := by
  have hfirst : firstDay firstYear = -95745764 := by decide
  have hlast : firstDay (lastYear + 1) = 95745765 := by decide
  rw [ofMilliseconds?, Option.isSome_map, Date.isSome_ofNumber?_iff]
  simp only [hfirst, hlast, dayLength, unixDay, Calendar.first, Calendar.last]
  omega

end Moment

end Gregorian

namespace Calendar

/-- The proleptic Gregorian calendar. -/
def gregorian : Calendar where
  Moment := Gregorian.Moment
  ofMilliseconds? := Gregorian.Moment.ofMilliseconds?
  milliseconds := Gregorian.Moment.milliseconds

theorem gregorian_lawful : gregorian.Lawful where
  keeps h := Gregorian.Moment.milliseconds_of_ofMilliseconds? h
  reaches hfirst hlast := Gregorian.Moment.isSome_ofMilliseconds?_iff.2 ⟨hfirst, hlast⟩

end Calendar

end ChatGateway
