import TableSeed.Proofs.Calendar.Layout
import TableSeed.Proofs.Calendar.Soundness

/-!
# The normal form of a point in time

What the layouts read is a point in time of the calendar, and the normal form of such a point is read
back as it, to the second. A year of four digits is read by the layout with an offset, and any other
year by the first one without an offset, when the `Z` at the end is gone.
-/

namespace TableSeed.Calendar

open FormatItem (twoPlaces yearText)

namespace DateTime

variable {t : DateTime}

/-- The point in time without the fraction of its second. -/
def toSecond (t : DateTime) : DateTime := { t with nanosecond := t.nanosecond - t.fraction }

/-- The second of the minute stays when the fraction is taken off. -/
theorem secondOfMinute_toSecond (t : DateTime) : t.toSecond.secondOfMinute = t.secondOfMinute := by
  unfold secondOfMinute toSecond fraction nanosPerSecond
  dsimp only
  omega

/-- A leap second stays one when the fraction is taken off. -/
theorem isLeapSecond_toSecond (t : DateTime) : t.toSecond.isLeapSecond = t.isLeapSecond := by
  rw [Bool.eq_iff_iff, isLeapSecond_iff, isLeapSecond_iff]
  unfold toSecond fraction nanosPerSecond
  dsimp only
  omega

/-- A point in time that stands in the calendar stays there when the fraction is taken off. -/
theorem Sound.toSecond (sound : t.Sound) : t.toSecond.Sound := by
  have nanosecond : t.toSecond.nanosecond ≤ t.nanosecond := Nat.sub_le _ _
  refine ⟨sound.days, sound.second, nanosecond.trans_lt sound.nanosecond, ?_⟩
  rw [isLeapSecond_toSecond]
  exact sound.leap

/-- The normal form shows no fraction of a second. -/
theorem isoText_toSecond (t : DateTime) : t.toSecond.isoText = t.isoText := by
  have second := secondOfMinute_toSecond t
  unfold isoText isoItems
  simp only [List.flatMap_cons, FormatItem.write, FormatItem.numericText, second]
  rfl

/-- Nothing changes in a shift by no seconds. -/
theorem shiftSeconds_zero (inDay : t.second < secondsPerDay) : t.shiftSeconds 0 = t := by
  obtain ⟨days, second, nanosecond⟩ := t
  have day : (days * 86400 + second).fdiv 86400 = days := by
    rw [Int.fdiv_eq_ediv_of_nonneg _ (by decide)]
    unfold secondsPerDay at inDay
    dsimp only at inDay
    omega
  unfold shiftSeconds ofUnixTime unixTime secondsPerDay
  simp only [Int.add_zero, Nat.cast_ofNat, day]
  simp

end DateTime

namespace Reader

variable {d : Date} {t : DateTime} {text rest cs : List Char} {n : Nat}

/-! ## Reading the normal form -/

/-- A date, with the year first. -/
def dateText (d : Date) : List Char :=
  yearText .zero d.year ++ (['-'] ++ (twoPlaces .zero d.month ++ (['-'] ++ twoPlaces .zero d.day)))

/-- A time of the day. -/
def clockText (hour minute second : Nat) : List Char :=
  twoPlaces .zero hour ++ ([':'] ++ (twoPlaces .zero minute ++ ([':'] ++ twoPlaces .zero second)))

/-- The normal form is the date, the time of the day and the letter for Greenwich, with a letter
between them. -/
theorem toList_isoText (t : DateTime) : t.isoText.toList =
    dateText t.date ++ (['T'] ++ (clockText t.hour t.minute t.secondOfMinute ++ ['Z'])) := by
  simp [DateTime.isoText, DateTime.isoItems, FormatItem.write, FormatItem.numericText, dateText,
    clockText]

/-- No month has more than 31 days. -/
theorem daysInMonth_le (year : Int) (month : Nat) : daysInMonth year month ≤ 31 := by
  unfold daysInMonth
  split <;> try split
  all_goals omega

/-- The fields of a date of the calendar. -/
theorem fields_of_isValid (valid : d.isValid = true) :
    (1 ≤ d.month ∧ d.month ≤ 12) ∧ 1 ≤ d.day ∧ d.day ≤ 31 := by
  obtain ⟨⟨month, low, high⟩, -⟩ := Date.isValid_iff.mp valid
  exact ⟨month, low, high.trans (daysInMonth_le _ _)⟩

/-- The layout with the year first reads the date of the normal form. -/
theorem reads_yearFirst (valid : d.isValid = true) : Reads yearFirst (dateText d) rest d := by
  obtain ⟨⟨m₀, m₁⟩, d₀, d₁⟩ := fields_of_isValid valid
  apply Reads.bind (reads_year d.year)
  apply Reads.bind (reads_char '-')
  apply Reads.bind (reads_field (by omega) m₀ m₁)
  apply Reads.bind (reads_char '-')
  rw [← List.append_nil (twoPlaces _ _)]
  apply Reads.bind (reads_field (by omega) d₀ d₁)
  exact reads_checkedDate valid

/-- The fields of the time in a point in time. -/
theorem fields_of_sound (sound : t.Sound) :
    t.hour ≤ 23 ∧ t.minute ≤ 59 ∧ t.secondOfMinute ≤ 60 := by
  have inDay := sound.second
  have nanosecond := sound.nanosecond
  have leap := sound.leap
  rw [DateTime.isLeapSecond_iff] at leap
  unfold secondsPerDay at inDay
  unfold DateTime.hour DateTime.minute DateTime.secondOfMinute nanosPerSecond at *
  omega

/-- The fields of a point in time make it, but for the fraction of the second. -/
theorem atTime_fields (sound : t.Sound) :
    atTime t.date t.hour t.minute t.secondOfMinute 0 = t.toSecond := by
  have nanosecond := sound.nanosecond
  have leap := sound.leap
  have days : t.date.toDays = t.days := Date.toDays_ofDays t.days
  rw [DateTime.isLeapSecond_iff] at leap
  unfold atTime DateTime.toSecond
  rw [days, DateTime.mk.injEq]
  unfold DateTime.hour DateTime.minute DateTime.secondOfMinute DateTime.fraction nanosPerSecond at *
  refine ⟨rfl, ?_, ?_⟩
  · split_ifs <;> omega
  · split_ifs <;> omega

/-- The layout with an offset reads the normal form in a year of four digits. -/
theorem reads_withOffset (sound : t.Sound) (short : 0 ≤ t.date.year ∧ t.date.year < 10000) :
    Reads withOffset (dateText t.date ++ (['T'] ++ (clockText t.hour t.minute t.secondOfMinute ++
      ['Z']))) [] t.toSecond := by
  have valid := sound.isValid
  have same := atTime_fields sound
  have inRange : ((atTime t.date t.hour t.minute t.secondOfMinute 0).shiftSeconds (-0)).inRange =
      some t.toSecond := by
    have days : (Date.minDays ≤ t.toSecond.days && t.toSecond.days ≤ Date.maxDays) = true := by
      simp [DateTime.toSecond, sound.days]
    rw [same, Int.neg_zero, DateTime.shiftSeconds_zero sound.toSecond.second]
    exact if_pos days
  have year : ((t.date.year.natAbs : Nat) : Int) = t.date.year := by omega
  have four := length_short short
  obtain ⟨⟨m₀, m₁⟩, d₀, d₁⟩ := fields_of_isValid valid
  obtain ⟨h₁, n₁, s₁⟩ := fields_of_sound sound
  unfold dateText clockText
  simp only [List.append_assoc]
  rw [yearText_of_short short]
  apply Reads.bind (reads_number (spells_year _) four.ge four.le (.inl four))
  apply Reads.bind (reads_char '-')
  apply Reads.bind (reads_two (by omega) (le_refl 2) m₀ m₁)
  apply Reads.bind (reads_char '-')
  apply Reads.bind (reads_two (by omega) (le_refl 2) d₀ d₁)
  apply Reads.bind (reads_oneOf rfl)
  apply Reads.bind (reads_two (by omega) (le_refl 2) (Nat.zero_le _) h₁)
  apply Reads.bind (reads_char ':')
  apply Reads.bind (reads_two (by omega) (le_refl 2) (Nat.zero_le _) n₁)
  apply Reads.bind (reads_char ':')
  apply Reads.bind (reads_two (by omega) (le_refl 2) (Nat.zero_le _) s₁)
  apply Reads.bind_nil (reads_fraction (by decide))
  rw [← List.append_nil ['Z']]
  apply Reads.bind reads_utc
  apply Reads.bind_nil reads_atEnd
  rw [year]
  apply Reads.bind_nil (reads_checkedDate valid)
  exact reads_liftM inRange

/-- The first layout without an offset reads the normal form without its last letter. -/
theorem reads_withoutOffset (sound : t.Sound) :
    Reads (withoutOffset yearFirst (char 'T') anySecond)
      (dateText t.date ++ (['T'] ++ clockText t.hour t.minute t.secondOfMinute)) [] t.toSecond := by
  obtain ⟨h₁, n₁, s₁⟩ := fields_of_sound sound
  have second : Reads anySecond (twoPlaces .zero t.secondOfMinute) [] (t.secondOfMinute, 0) := by
    rw [← List.append_nil (twoPlaces _ _)]
    apply Reads.bind (reads_field (by omega) (Nat.zero_le _) s₁)
    exact (reads_fraction (by decide)).map (Prod.mk t.secondOfMinute)
  rw [← atTime_fields sound]
  apply Reads.bind (reads_yearFirst sound.isValid)
  apply Reads.bind (reads_char 'T')
  apply Reads.bind (reads_field (by omega) (Nat.zero_le _) h₁)
  apply Reads.bind (reads_char ':')
  apply Reads.bind (reads_field (by omega) (Nat.zero_le _) n₁)
  apply Reads.bind (reads_char ':')
  rw [← List.append_nil (twoPlaces _ _)]
  apply Reads.bind second
  apply Reads.bind_nil reads_atEnd
  exact reads_pure _

/-- The layout with an offset reads no year with a sign. -/
theorem withOffset_long (long : ¬ (0 ≤ t.date.year ∧ t.date.year < 10000)) :
    withOffset t.isoText.toList = none := by
  obtain ⟨c, cs, signed, sign⟩ : ∃ c cs, t.isoText.toList = c :: cs ∧ c.isDigit = false := by
    rw [toList_isoText, dateText, yearText_of_long long]
    exact ⟨_, _, rfl, by split_ifs <;> rfl⟩
  have short : number 4 4 (c :: cs) = none := by
    unfold number
    dsimp only
    rw [List.take_succ_cons, List.takeWhile_cons_of_neg (by simp [sign])]
    exact if_pos (by decide)
  rw [signed]
  change (number 4 4 (c :: cs)).bind _ = none
  rw [short]
  rfl

/-- Two places end with a digit and not with the letter for Greenwich. -/
theorem getLast?_append_twoPlaces (small : n < 100) :
    (cs ++ twoPlaces .zero n).getLast? ≠ some 'Z' := by
  have ones : ∀ n < 10, Nat.digitChar n ≠ 'Z' := by decide
  have nonempty := List.cons_ne_nil (Nat.digitChar (n / 10)) [Nat.digitChar (n % 10)]
  rw [twoPlaces_eq small, List.getLast?_append_of_ne_nil cs nonempty, List.getLast?_cons_cons,
    List.getLast?_singleton, Ne, Option.some.injEq]
  exact ones (n % 10) (Nat.mod_lt n (by decide))

/-- One letter at the end is taken off, if no other one stands before it. -/
theorem withoutZ_append (other : cs.getLast? ≠ some 'Z') : withoutZ (cs ++ ['Z']) = cs := by
  have stays : cs.reverse.dropWhile (· = 'Z') = cs.reverse := by
    rw [← List.head?_reverse] at other
    cases reversed : cs.reverse with
    | nil => rfl
    | cons c cs =>
      rw [reversed, List.head?_cons] at other
      exact List.dropWhile_cons_of_neg (by simpa using other)
  unfold withoutZ
  rw [List.reverse_append, List.reverse_singleton, List.singleton_append,
    List.dropWhile_cons_of_pos (by decide), stays, List.reverse_reverse]

/-- The normal form without its letter ends with the seconds. -/
theorem withoutZ_isoText (sound : t.Sound) : withoutZ t.isoText.toList =
    dateText t.date ++ (['T'] ++ clockText t.hour t.minute t.secondOfMinute) := by
  have second : t.secondOfMinute < 100 := by
    have fields := fields_of_sound sound
    omega
  rw [toList_isoText]
  unfold clockText
  simp only [← List.append_assoc]
  exact withoutZ_append (getLast?_append_twoPlaces second)

/-- The first reader that reads the whole text decides. -/
theorem firstOf_of_reads {read : Reading DateTime} (reads : Reads read text [] t)
    (others : List (Reading DateTime)) : firstOf (read :: others) text = some t := by
  have reads : read text = some (t, []) := by
    rw [← List.append_nil text]
    exact reads
  unfold firstOf
  rw [List.findSome?_cons, reads]
  rfl

/-- A reader that does not read the text leaves it to the others. -/
theorem firstOf_of_none {read : Reading DateTime} (none : read text = none)
    (others : List (Reading DateTime)) : firstOf (read :: others) text = firstOf others text := by
  unfold firstOf
  rw [List.findSome?_cons, none]
  rfl

end Reader

/-- The normal form of a point in time is read back as it, to the second. -/
theorem DateTime.parse?_isoText {t : DateTime} (sound : t.Sound) :
    DateTime.parse? t.isoText = some t.toSecond := by
  unfold DateTime.parse?
  dsimp only
  by_cases short : 0 ≤ t.date.year ∧ t.date.year < 10000
  · rw [Reader.toList_isoText, Reader.firstOf_of_reads (Reader.reads_withOffset sound short)]
    rfl
  · have read := Reader.firstOf_of_reads (Reader.reads_withoutOffset sound)
    rw [Reader.firstOf_of_none (Reader.withOffset_long short), Reader.withoutZ_isoText sound,
      Reader.dateTimes, read]
    rfl

example : (DateTime.parse? "2024-12-31T23:59:60.5-01:00").map DateTime.isoText =
    some "2025-01-01T00:59:60Z" := by decide +kernel

end TableSeed.Calendar
