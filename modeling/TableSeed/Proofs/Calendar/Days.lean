import Mathlib
import TableSeed.Calendar.Date

/-!
# Dates by their day numbers

The dates of the calendar, carried on in both directions, have the whole numbers as day numbers, one
after the other: the day after a date has the next number, and every number is that of one date.
Years are counted from March on for this, so that a leap day ends its year.
-/

namespace TableSeed.Calendar

/-- The leap years are every fourth year, except the years of centuries that 400 does not divide. -/
theorem isLeapYear_iff {year : Int} :
    isLeapYear year = true ↔ year % 4 = 0 ∧ (year % 100 ≠ 0 ∨ year % 400 = 0) := by
  simp [isLeapYear]

/-- Leap years repeat with every era of 400 years. -/
theorem isLeapYear_add_eras (year era : Int) : isLeapYear (year + 400 * era) = isLeapYear year := by
  rw [Bool.eq_iff_iff, isLeapYear_iff, isLeapYear_iff]
  omega

namespace Date

variable {d : Date}

/-- The date stands in the calendar when that is carried on in both directions. -/
structure Proper (d : Date) : Prop where
  month : 1 ≤ d.month ∧ d.month ≤ 12
  day : 1 ≤ d.day ∧ d.day ≤ daysInMonth d.year d.month

/-- The date of the next day. -/
def next (d : Date) : Date :=
  if d.day < daysInMonth d.year d.month then { d with day := d.day + 1 }
  else if d.month < 12 then ⟨d.year, d.month + 1, 1⟩
  else ⟨d.year + 1, 1, 1⟩

/-! ## Years from March on -/

/-- The year that started in March. -/
def marchYear (d : Date) : Int := if d.month ≤ 2 then d.year - 1 else d.year

/-- The months since March. -/
def marchMonth (d : Date) : Nat := (d.month + 9) % 12

/-- The days from the first of March to the first of a month that many months later. -/
def monthStart (month : Int) : Int := (153 * month + 2) / 5

/-- The days since the first of March. -/
def dayFromMarch (d : Date) : Int := monthStart d.marchMonth + d.day - 1

/-- The days before a year that starts in March, where the year zero has none before it. -/
def daysBefore (y : Int) : Int := 365 * y + y / 4 - y / 100 + y / 400

/-- The days of the years of an era before one of them. -/
def daysInEraBefore (y : Int) : Int := 365 * y + y / 4 - y / 100

/-- The days before a year are those of the whole eras before it and those of its own era. -/
theorem daysBefore_eq (y : Int) :
    daysBefore y = y / 400 * 146097 + daysInEraBefore (y % 400) := by
  unfold daysBefore daysInEraBefore
  omega

/-- A year that ends with a leap day has 366 days. -/
theorem daysBefore_succ (y : Int) :
    daysBefore (y + 1) = daysBefore y + if isLeapYear (y + 1) then 366 else 365 := by
  have leap := @isLeapYear_iff (y + 1)
  unfold daysBefore
  split_ifs with isLeap
  · have inLeapYear := leap.mp isLeap
    omega
  · have inOther := mt leap.mpr isLeap
    omega

/-- The day number of a date counts the days since the first of March of year zero, moved to the
epoch. -/
theorem toDays_eq (d : Date) : d.toDays = daysBefore d.marchYear + d.dayFromMarch - epochOffset := by
  have era (y : Int) : y.fdiv 400 = y / 400 := Int.fdiv_eq_ediv_of_nonneg y (by decide)
  have rest (y : Int) : y - y / 400 * 400 = y % 400 := by omega
  rw [daysBefore_eq]
  unfold toDays marchYear dayFromMarch monthStart marchMonth daysInEraBefore
  simp only [era, rest]
  push_cast
  omega

/-- A month other than February ends where the next one starts. -/
theorem daysInMonth_eq {month : Nat} (first : 1 ≤ month) (last : month ≤ 12) (other : month ≠ 2)
    (year : Int) : (daysInMonth year month : Int) =
      monthStart ((month + 9) % 12 + 1) - monthStart ((month + 9) % 12) := by
  interval_cases month
  case «2» => exact absurd rfl other
  all_goals rfl

/-- February has 29 days in a leap year. -/
theorem daysInFebruary (year : Int) :
    daysInMonth year 2 = if isLeapYear year then 29 else 28 := rfl

/-- A month starts after the days of the one before, and February may end early. -/
theorem Proper.day_le (proper : d.Proper) :
    (d.day : Int) ≤ monthStart (d.marchMonth + 1) - monthStart d.marchMonth := by
  obtain ⟨⟨first, last⟩, -, high⟩ := proper
  unfold marchMonth
  by_cases february : d.month = 2
  · rw [february] at high ⊢
    rw [daysInFebruary] at high
    have most : d.day ≤ 29 := by
      split_ifs at high <;> omega
    unfold monthStart
    omega
  · have days := daysInMonth_eq first last february d.year
    push_cast
    omega

/-- A day of an era stands in a year of it, where the years start in March. -/
structure InEra (y k : Int) : Prop where
  year : 0 ≤ y ∧ y < 400
  first : 0 ≤ k
  last : k < 365 ∨ k = 365 ∧ isLeapYear (y + 1) = true

/-- Every day of an era stands in one of its years. Centuries are taken off first, then spans of
four years, then years; what is longer in the end is a leap day. -/
theorem exists_inEra {day : Int} (low : 0 ≤ day) (high : day < 146097) :
    ∃ y k, InEra y k ∧ day = daysInEraBefore y + k := by
  obtain ⟨century, inCentury, same, c₀, c₁, r₀, r₁, last⟩ : ∃ century inCentury : Int,
      day = 36524 * century + inCentury ∧ 0 ≤ century ∧ century ≤ 3 ∧ 0 ≤ inCentury ∧
        inCentury ≤ 36524 ∧ (inCentury = 36524 → century = 3) := by
    by_cases final : day = 146096
    · exact ⟨3, 36524, by omega⟩
    · exact ⟨day / 36524, day % 36524, by omega⟩
  obtain ⟨span, inSpan, same', s₀, s₁, i₀, i₁⟩ : ∃ span inSpan : Int,
      inCentury = 1461 * span + inSpan ∧ 0 ≤ span ∧ span ≤ 24 ∧ 0 ≤ inSpan ∧ inSpan ≤ 1460 :=
    ⟨inCentury / 1461, inCentury % 1461, by omega⟩
  obtain ⟨odd, k, same'', o₀, o₁, k₀, k₁⟩ : ∃ odd k : Int, inSpan = 365 * odd + k ∧ 0 ≤ odd ∧
      odd ≤ 3 ∧ 0 ≤ k ∧ (k < 365 ∨ k = 365 ∧ odd = 3) := by
    by_cases final : inSpan = 1460
    · exact ⟨3, 365, by omega⟩
    · exact ⟨inSpan / 365, inSpan % 365, by omega⟩
  refine ⟨100 * century + 4 * span + odd, k, ⟨by omega, k₀, ?_⟩, ?_⟩
  · rw [isLeapYear_iff]
    omega
  · unfold daysInEraBefore
    omega

/-- The year of a day in an era. The last day of an era is the only one that ends its century a day
late, and a span of four years is one day longer than 1460, so the division by that may be one span
ahead. -/
theorem yearOfEra_eq {y k : Int} (inEra : InEra y k) :
    let day := daysInEraBefore y + k
    (day - day / 1460 + day / 36524 - day / 146096) / 365 = y := by
  obtain ⟨year, first, last⟩ := inEra
  rw [isLeapYear_iff] at last
  unfold daysInEraBefore
  intro day
  obtain ⟨century, span, odd, same, c₀, c₁, s₀, s₁, o₀, o₁⟩ : ∃ century span odd : Int,
      y = 100 * century + 4 * span + odd ∧ 0 ≤ century ∧ century ≤ 3 ∧ 0 ≤ span ∧ span ≤ 24 ∧
        0 ≤ odd ∧ odd ≤ 3 :=
    ⟨y / 100, y % 100 / 4, y % 4, by omega⟩
  have inCenturies : day = 36524 * century + (1461 * span + 365 * odd + k) := by omega
  have inSpans : day = 1460 * (25 * century + span) + (24 * century + span + 365 * odd + k) := by
    omega
  clear_value day
  have centuries : day / 36524 - day / 146096 = century := by
    obtain ⟨rest, inCentury, r₀, r₁⟩ : ∃ rest : Int, day = 36524 * century + rest ∧ 0 ≤ rest ∧
        (rest < 36524 ∨ rest = 36524 ∧ century = 3) := ⟨_, inCenturies, by omega⟩
    omega
  have spans : day / 1460 = 25 * century + span ∧ k < 365 ∨
      day / 1460 = 25 * century + span + 1 ∧ 0 < k := by omega
  omega

/-- The month of a day in a year that starts in March. -/
theorem month_eq {month day : Int} (low : 1 ≤ day)
    (high : day ≤ monthStart (month + 1) - monthStart month) :
    (5 * (monthStart month + day - 1) + 2) / 153 = month := by
  unfold monthStart at *
  omega

/-- The month and the day of a day in a year that starts in March. -/
theorem exists_month {k : Int} (low : 0 ≤ k) (high : k ≤ 365) : ∃ month day : Nat, month ≤ 11 ∧
    1 ≤ day ∧ (day : Int) ≤ monthStart (month + 1) - monthStart month ∧
      k = monthStart month + day - 1 := by
  unfold monthStart
  obtain ⟨month, inYear⟩ : ∃ month : Nat, (month : Int) = (5 * k + 2) / 153 :=
    ⟨((5 * k + 2) / 153).toNat, by omega⟩
  exact ⟨month, (k - (153 * month + 2) / 5 + 1).toNat, by omega⟩

/-- A date in its year of an era, where the years start in March. Only a February, the last month of
its year, can end with the leap day. -/
theorem Proper.inEra (proper : d.Proper) : InEra (d.marchYear % 400) d.dayFromMarch := by
  have short := proper.day_le
  obtain ⟨⟨first, last⟩, low, high⟩ := proper
  refine ⟨by omega, ?_, ?_⟩
  · unfold dayFromMarch monthStart
    omega
  · unfold dayFromMarch
    by_cases february : d.month = 2
    · have year : isLeapYear (d.marchYear % 400 + 1) = isLeapYear d.year := by
        have eras : d.year = d.marchYear % 400 + 1 + 400 * (d.marchYear / 400) := by
          rw [marchYear, if_pos (by omega)]
          omega
        rw [eras, isLeapYear_add_eras]
      have start : monthStart d.marchMonth = 337 := by
        rw [marchMonth, february]
        rfl
      rw [february, daysInFebruary] at high
      rw [year, start]
      split_ifs at high with leap
      · simp only [leap, and_true]
        omega
      · omega
    · left
      have before : d.marchMonth ≤ 10 := by
        unfold marchMonth
        omega
      unfold monthStart at *
      omega

/-! ## Numbers and dates -/

/-- The date of a day number, by the year of an era and the day in it. -/
theorem ofDays_of_inEra {era y : Int} {month day : Nat} (last : month ≤ 11) (low : 1 ≤ day)
    (high : (day : Int) ≤ monthStart (month + 1) - monthStart month)
    (inEra : InEra y (monthStart month + day - 1)) :
    ofDays (era * 146097 + daysInEraBefore y + (monthStart month + day - 1) - epochOffset) =
      ⟨y + era * 400 + (if month < 10 then 0 else 1), if month < 10 then month + 3 else month - 9,
        day⟩ := by
  have inYear := yearOfEra_eq inEra
  have inMonth := month_eq (Int.ofNat_le.mpr low) high
  obtain ⟨k, same⟩ : ∃ k, k = monthStart month + day - 1 := ⟨_, rfl⟩
  rw [← same] at inEra inYear inMonth ⊢
  dsimp only at inYear
  have bounds : 0 ≤ daysInEraBefore y + k ∧ daysInEraBefore y + k < 146097 := by
    obtain ⟨year, first, last⟩ := inEra
    rw [isLeapYear_iff] at last
    unfold daysInEraBefore
    omega
  have epoch : era * 146097 + daysInEraBefore y + k - epochOffset + epochOffset =
      era * 146097 + (daysInEraBefore y + k) := by ring
  have eras : (era * 146097 + (daysInEraBefore y + k)).fdiv 146097 = era := by
    rw [Int.fdiv_eq_ediv_of_nonneg _ (by decide)]
    omega
  have inEra' : era * 146097 + (daysInEraBefore y + k) - era * 146097 = daysInEraBefore y + k := by
    ring
  have rest : daysInEraBefore y + k - (365 * y + y / 4 - y / 100) = k := by
    unfold daysInEraBefore
    ring
  unfold ofDays
  simp only [epoch, eras, inEra', inYear, rest, inMonth]
  rw [Date.mk.injEq]
  unfold monthStart at same
  split_ifs <;> omega

/-- A date is that of its day number. -/
theorem ofDays_toDays (proper : d.Proper) : ofDays d.toDays = d := by
  have last : d.marchMonth ≤ 11 := by
    unfold marchMonth
    omega
  have found := @ofDays_of_inEra (d.marchYear / 400) _ _ _ last proper.day.1 proper.day_le proper.inEra
  rw [toDays_eq, daysBefore_eq, dayFromMarch, found]
  obtain ⟨first, last⟩ := proper.month
  obtain ⟨year, month, day⟩ := d
  unfold marchYear marchMonth
  simp only [Date.mk.injEq, and_true]
  dsimp only at first last ⊢
  split_ifs <;> omega

/-- Every number is the day number of a date. -/
theorem exists_toDays (n : Int) : ∃ d : Date, d.Proper ∧ d.toDays = n := by
  obtain ⟨era, atEra⟩ : ∃ era, era = (n + epochOffset) / 146097 := ⟨_, rfl⟩
  obtain ⟨y, k, ⟨⟨y₀, y₁⟩, k₀, k₁⟩, same⟩ := @exists_inEra ((n + epochOffset) % 146097)
    (Int.emod_nonneg _ (by decide)) (Int.emod_lt_of_pos _ (by decide))
  obtain ⟨month, day, last, low, high, inYear⟩ := exists_month k₀ (by omega)
  obtain ⟨d, made⟩ : ∃ d : Date, d = ⟨y + era * 400 + (if month < 10 then 0 else 1),
    if month < 10 then month + 3 else month - 9, day⟩ := ⟨_, rfl⟩
  have inMarch : d.marchMonth = month := by
    rw [made, marchMonth]
    dsimp only
    split_ifs <;> omega
  have proper : 1 ≤ d.month ∧ d.month ≤ 12 := by
    rw [made]
    dsimp only
    split_ifs <;> omega
  have sameDay : d.day = day := by rw [made]
  refine ⟨d, ⟨proper, by omega, ?_⟩, ?_⟩
  · by_cases february : d.month = 2
    · have lastMonth : month = 11 := by
        rw [← inMarch, marchMonth, february]
      have leapYear : isLeapYear d.year = isLeapYear (y + 1) := by
        have eras : d.year = y + 1 + 400 * era := by
          rw [made, lastMonth]
          dsimp only
          omega
        rw [eras, isLeapYear_add_eras]
      rw [february, daysInFebruary, leapYear]
      rw [lastMonth] at inYear
      unfold monthStart at inYear
      split_ifs with leap
      · omega
      · simp only [leap, and_false, or_false, Bool.false_eq_true] at k₁
        omega
    · have days := daysInMonth_eq proper.1 proper.2 february d.year
      rw [← inMarch, ← sameDay] at high
      unfold marchMonth at high
      push_cast at high
      omega
  · have year : d.marchYear = y + era * 400 := by
      rw [made, marchYear]
      dsimp only
      split_ifs <;> omega
    have days : d.dayFromMarch = k := by rw [dayFromMarch, inMarch, sameDay, inYear]
    have eras : (y + era * 400) / 400 = era ∧ (y + era * 400) % 400 = y := by omega
    rw [toDays_eq, year, days, daysBefore_eq, eras.1, eras.2]
    omega

/-- Every day number is that of a proper date. -/
theorem proper_ofDays (n : Int) : (ofDays n).Proper := by
  obtain ⟨d, proper, rfl⟩ := exists_toDays n
  rwa [ofDays_toDays proper]

/-- The date of a day number has that day number. -/
theorem toDays_ofDays (n : Int) : (ofDays n).toDays = n := by
  obtain ⟨d, proper, rfl⟩ := exists_toDays n
  rw [ofDays_toDays proper]

/-! ## The next day -/

/-- The day after a proper date is a proper date. -/
theorem Proper.next (proper : d.Proper) : d.next.Proper := by
  obtain ⟨⟨first, last⟩, low, high⟩ := proper
  unfold Date.next
  split_ifs with inMonth inYear
  · exact ⟨⟨first, last⟩, Nat.le_add_left 1 d.day, inMonth⟩
  · have days : 1 ≤ daysInMonth d.year (d.month + 1) := by
      by_cases february : d.month + 1 = 2
      · rw [february, daysInFebruary]
        split_ifs <;> decide
      · have later := daysInMonth_eq (Nat.le_add_left 1 d.month) inYear february d.year
        unfold monthStart at later
        omega
    exact ⟨⟨Nat.le_add_left 1 d.month, inYear⟩, le_refl 1, days⟩
  · have january : daysInMonth (d.year + 1) 1 = 31 := rfl
    exact ⟨⟨le_refl 1, Nat.le_add_left 1 11⟩, le_refl 1, january ▸ Nat.le_add_left 1 30⟩

/-- The next day has the next number, whether it is in the same month, starts the next one or starts
the next year. -/
theorem toDays_next (proper : d.Proper) : d.next.toDays = d.toDays + 1 := by
  obtain ⟨⟨first, last⟩, low, high⟩ := proper
  rw [toDays_eq, toDays_eq]
  unfold Date.next
  split_ifs with inMonth inYear
  · unfold marchYear dayFromMarch marchMonth
    push_cast
    ring
  · have full : d.day = daysInMonth d.year d.month := by omega
    unfold dayFromMarch marchMonth marchYear
    dsimp only
    by_cases february : d.month = 2
    · have years := daysBefore_succ (d.year - 1)
      rw [Int.sub_add_cancel] at years
      rw [full, february, daysInFebruary, if_neg (by decide), if_pos (le_refl 2), years]
      unfold monthStart
      split_ifs <;> omega
    · have days := daysInMonth_eq first last february d.year
      have months : (d.month + 1 + 9) % 12 = (d.month + 9) % 12 + 1 := by omega
      have year : (if d.month + 1 ≤ 2 then d.year - 1 else d.year) =
          if d.month ≤ 2 then d.year - 1 else d.year := by
        split_ifs <;> omega
      rw [months, year]
      push_cast
      omega
  · have december : d.month = 12 := by omega
    have full : d.day = 31 := by
      have days : daysInMonth d.year d.month = 31 := by rw [december]; rfl
      omega
    unfold dayFromMarch marchMonth marchYear monthStart
    rw [december, full]
    simp only [Nat.reduceLeDiff, if_false, Int.add_sub_cancel, if_true]
    omega

/-! ## The first and the last day -/

/-- The first day of a year. -/
def newYear (year : Int) : Int := toDays ⟨year, 1, 1⟩

/-- A year starts 306 days after the first of March of the year before. -/
theorem newYear_eq (year : Int) : newYear year = daysBefore (year - 1) + 306 - epochOffset := by
  have march : marchYear ⟨year, 1, 1⟩ = year - 1 := rfl
  have january : dayFromMarch ⟨year, 1, 1⟩ = 306 := by
    change monthStart (10 : Nat) + (1 : Nat) - 1 = 306
    decide
  rw [newYear, toDays_eq, march, january]

/-- A later year starts on a later day. -/
theorem strictMono_newYear : StrictMono newYear := by
  apply strictMono_int_of_lt_succ
  intro year
  have years := daysBefore_succ (year - 1)
  rw [Int.sub_add_cancel] at years
  rw [newYear_eq, newYear_eq, Int.add_sub_cancel, years]
  split_ifs <;> omega

/-- The days of a year are those from its first one to the first one of the next year. -/
theorem Proper.within_year (proper : d.Proper) :
    newYear d.year ≤ d.toDays ∧ d.toDays < newYear (d.year + 1) := by
  have years := daysBefore_succ (d.year - 1)
  obtain ⟨-, start, ending⟩ := proper.inEra
  have short := proper.day_le
  obtain ⟨⟨first, last⟩, low, high⟩ := proper
  rw [Int.sub_add_cancel] at years
  rw [newYear_eq, newYear_eq, Int.add_sub_cancel, toDays_eq]
  by_cases early : d.month ≤ 2
  · have march : d.marchYear = d.year - 1 := if_pos early
    have late : 306 ≤ d.dayFromMarch := by
      unfold dayFromMarch marchMonth monthStart
      omega
    rw [march]
    split_ifs at years <;> omega
  · have march : d.marchYear = d.year := if_neg early
    have soon : d.dayFromMarch < 306 := by
      unfold dayFromMarch marchMonth monthStart at *
      omega
    rw [march]
    split_ifs at years <;> omega

/-- The dates of the calendar are those from its first to its last day. -/
theorem isValid_iff : d.isValid = true ↔ d.Proper ∧ minDays ≤ d.toDays ∧ d.toDays ≤ maxDays := by
  have fields : d.isValid = true ↔ (minYear ≤ d.year ∧ d.year ≤ maxYear) ∧ d.Proper := by
    simp only [isValid, Bool.and_eq_true, decide_eq_true_eq]
    constructor
    · rintro ⟨⟨⟨⟨⟨low, high⟩, first⟩, last⟩, start⟩, ending⟩
      exact ⟨⟨low, high⟩, ⟨first, last⟩, ⟨start, ending⟩⟩
    · rintro ⟨⟨low, high⟩, ⟨first, last⟩, ⟨start, ending⟩⟩
      exact ⟨⟨⟨⟨⟨low, high⟩, first⟩, last⟩, start⟩, ending⟩
  have least : minDays = newYear minYear := rfl
  have most : maxDays + 1 = newYear (maxYear + 1) := by decide
  rw [fields, and_comm]
  refine and_congr_right fun proper => ?_
  obtain ⟨start, ending⟩ := proper.within_year
  constructor
  · rintro ⟨low, high⟩
    have lower := strictMono_newYear.monotone low
    have upper := strictMono_newYear.monotone (Int.add_le_add_right high 1)
    omega
  · rintro ⟨low, high⟩
    have lower : newYear minYear < newYear (d.year + 1) := by omega
    have upper : newYear d.year < newYear (maxYear + 1) := by omega
    rw [strictMono_newYear.lt_iff_lt] at lower upper
    omega

/-- The dates in the range of the calendar are those whose day numbers lie between its two ends. -/
theorem isValid_ofDays_iff {n : Int} : (ofDays n).isValid = true ↔ minDays ≤ n ∧ n ≤ maxDays := by
  rw [isValid_iff, and_iff_right (proper_ofDays n), toDays_ofDays]

end Date

end TableSeed.Calendar
