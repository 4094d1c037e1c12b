import TableSeed.Calendar.Reader
import TableSeed.Proofs.Calendar.Days

/-!
# Points in time that are read

Whatever a layout reads stands in the calendar, has a second of its day, and is in a leap second only
after the last second of a minute; an offset, of whole minutes, leaves the second of the minute as it is.
-/

namespace TableSeed.Calendar

namespace DateTime

variable {t : DateTime}

/-- A point in time that stands in the calendar; a leap second follows the last second of a minute. -/
structure Sound (t : DateTime) : Prop where
  days : Date.minDays ≤ t.days ∧ t.days ≤ Date.maxDays
  second : t.second < secondsPerDay
  nanosecond : t.nanosecond < 2 * nanosPerSecond
  leap : t.isLeapSecond = true → t.second % 60 = 59

/-- The date of a sound point in time stands in the calendar. -/
theorem Sound.isValid (sound : t.Sound) : t.date.isValid = true :=
  Date.isValid_ofDays_iff.mpr sound.days

/-- A leap second is kept as nanoseconds beyond those of a second. -/
theorem isLeapSecond_iff : t.isLeapSecond = true ↔ nanosPerSecond ≤ t.nanosecond :=
  decide_eq_true_iff

end DateTime

namespace Reader

variable {α β : Type} {read : Reading α} {next : α → Reading β} {p : α → Prop} {q : β → Prop}
  {d : Date} {t : DateTime} {least most low high : Nat}

/-- Whatever the reader gives has a property. -/
structure Gives (read : Reading α) (p : α → Prop) : Prop where
  of_read : ∀ {cs x rest}, read cs = some (x, rest) → p x

/-- Whatever a reader gives, nothing is said of it. -/
theorem Gives.any (read : Reading α) : Gives read fun _ => True := ⟨fun _ => trivial⟩

/-- A value that is given without reading has the properties it has. -/
theorem gives_pure {x : α} (holds : p x) : Gives (pure x) p := by
  constructor
  intro cs x' rest given
  cases given
  exact holds

/-- A reader that fails gives nothing, so all that it gives has any property. -/
theorem gives_fail : Gives fail p := ⟨fun given => nomatch given⟩

/-- What two readers give in sequence has the property that the second one gives after the first. -/
theorem Gives.bind (first : Gives read p) (then_ : ∀ x, p x → Gives (next x) q) :
    Gives (read >>= next) q := by
  constructor
  intro cs y rest given
  change (read cs).bind (fun r => next r.1 r.2) = some (y, rest) at given
  obtain ⟨⟨x, between⟩, found, given⟩ := Option.bind_eq_some_iff.mp given
  exact (then_ x (first.of_read found)).of_read given

/-- A step whose result says nothing. -/
theorem gives_bind (then_ : ∀ x, Gives (next x) q) : Gives (read >>= next) q :=
  (Gives.any read).bind fun x _ => then_ x

/-- A number in a range lies in the range. -/
theorem gives_numberIn : Gives (numberIn least most low high) fun n => low ≤ n ∧ n ≤ high := by
  apply gives_bind
  intro n
  split_ifs with inRange
  · apply gives_pure
    simpa using inRange
  · exact gives_fail

/-- A field lies in its range. -/
theorem gives_field : Gives (field low high) fun n => low ≤ n ∧ n ≤ high :=
  gives_bind fun _ => gives_numberIn

/-- A date that passes the check stands in the calendar. -/
theorem gives_checkedDate (year : Int) (month day : Nat) :
    Gives (checkedDate year month day) fun d => d.isValid = true := by
  unfold checkedDate
  dsimp only
  split_ifs with valid
  · exact gives_pure valid
  · exact gives_fail

/-- An optional value has a property if it has it when it is there. -/
theorem gives_liftM {o : Option α} (holds : ∀ x, o = some x → p x) : Gives (liftM o) p := by
  constructor
  intro cs x rest given
  cases o with
  | none => cases given
  | some y =>
    cases given
    exact holds x rfl

/-- An offset is a whole number of minutes. -/
theorem gives_offset : Gives offset fun n => n % 60 = 0 := by
  apply gives_bind
  intro c
  split
  · exact gives_pure rfl
  apply gives_bind
  intro hours
  apply gives_bind
  intro _
  apply gives_bind
  intro minutes
  apply gives_pure
  by_cases west : minusSigns.contains c = true
  · rw [if_pos west]
    omega
  · rw [if_neg west]
    omega

/-- Digits spell less than the power of ten with as many zeros. -/
theorem foldl_digits_lt {digits : List Char} (all : ∀ c ∈ digits, c.isDigit = true) (n : Nat) :
    digits.foldl (fun n c => n * 10 + (c.toNat - 48)) n < (n + 1) * 10 ^ digits.length := by
  induction digits generalizing n with
  | nil => simp
  | cons c digits ih =>
    have digit : c.toNat ≤ 57 := by
      have bounds := all c List.mem_cons_self
      simp only [Char.isDigit, Bool.and_eq_true, decide_eq_true_eq, UInt32.le_iff_toNat_le] at bounds
      exact bounds.2
    have others := ih (fun c mem => all c (List.mem_cons_of_mem _ mem)) (n * 10 + (c.toNat - 48))
    have most : n * 10 + (c.toNat - 48) + 1 ≤ (n + 1) * 10 := by omega
    rw [List.foldl_cons, List.length_cons, Nat.pow_succ']
    calc _ < (n * 10 + (c.toNat - 48) + 1) * 10 ^ digits.length := others
      _ ≤ (n + 1) * 10 * 10 ^ digits.length := Nat.mul_le_mul_right _ most
      _ = (n + 1) * (10 * 10 ^ digits.length) := Nat.mul_assoc ..

/-- A number is less than the power of ten with as many zeros as it has digits. -/
theorem number_lt {cs rest : List Char} {n : Nat} (given : number least most cs = some (n, rest)) :
    n < 10 ^ (cs.length - rest.length) ∧ cs.length - rest.length ≤ most := by
  unfold number at given
  dsimp only at given
  split_ifs at given
  obtain ⟨rfl, rfl⟩ := Prod.mk.inj (Option.some.inj given)
  have all : ∀ c ∈ (cs.take most).takeWhile Char.isDigit, c.isDigit = true :=
    fun c mem => List.mem_takeWhile_imp mem
  have few : ((cs.take most).takeWhile Char.isDigit).length ≤ (cs.take most).length :=
    (List.takeWhile_sublist _).length_le
  have small := foldl_digits_lt all 0
  rw [List.length_take] at few
  have count : cs.length - (cs.length - ((cs.take most).takeWhile Char.isDigit).length) =
      ((cs.take most).takeWhile Char.isDigit).length := by omega
  rw [List.length_drop, count]
  exact ⟨by omega, by omega⟩

/-- The digits of a fraction stand for less than a second. -/
theorem gives_fractionDigits : Gives fractionDigits (· < nanosPerSecond) := by
  constructor
  intro cs x rest given
  change (number 1 9 cs).bind (fun r => some (r.1 * 10 ^ (9 - (cs.length - r.2.length)),
    r.2.dropWhile Char.isDigit)) = some (x, rest) at given
  obtain ⟨⟨n, between⟩, found, same⟩ := Option.bind_eq_some_iff.mp given
  obtain ⟨small, count⟩ := number_lt found
  cases same
  dsimp only
  calc n * 10 ^ (9 - (cs.length - between.length))
      < 10 ^ (cs.length - between.length) * 10 ^ (9 - (cs.length - between.length)) :=
        Nat.mul_lt_mul_of_pos_right small (Nat.pow_pos (by decide))
    _ = nanosPerSecond := by
      rw [← Nat.pow_add, Nat.add_sub_cancel' count]
      rfl

/-- A fraction is less than a second, if there is one. -/
theorem gives_fraction : Gives fraction (· < nanosPerSecond) := by
  apply gives_bind
  intro cs
  split_ifs
  · exact gives_bind fun _ => gives_fractionDigits
  · exact gives_pure (by decide)

/-! ## Points in time -/

/-- A time of the day on a date of the calendar is a point in time of the calendar. Second 60
becomes nanoseconds beyond those of second 59. -/
theorem sound_atTime (valid : d.isValid = true) {hour minute second nanosecond : Nat}
    (inDay : hour ≤ 23) (inHour : minute ≤ 59) (inMinute : second ≤ 60)
    (inSecond : nanosecond < nanosPerSecond) : (atTime d hour minute second nanosecond).Sound := by
  obtain ⟨proper, days⟩ := Date.isValid_iff.mp valid
  unfold nanosPerSecond at inSecond
  refine ⟨days, ?_, ?_, ?_⟩
  · unfold atTime secondsPerDay
    dsimp only
    split_ifs <;> omega
  · unfold atTime nanosPerSecond
    dsimp only
    split_ifs <;> omega
  · rw [DateTime.isLeapSecond_iff]
    unfold atTime nanosPerSecond
    dsimp only
    split_ifs <;> omega

/-- Whole minutes leave the second of the minute, and a leap second with it, as it is. -/
theorem sound_shiftSeconds (sound : t.Sound) {n : Int} (minutes : n % 60 = 0) {shifted : DateTime}
    (inRange : (t.shiftSeconds n).inRange = some shifted) : shifted.Sound := by
  unfold DateTime.inRange at inRange
  split_ifs at inRange with days
  obtain rfl := Option.some.inj inRange
  have seconds : ((t.shiftSeconds n).second : Int) = (t.unixTime + n) % 86400 := by
    change (((t.unixTime + n) - (t.unixTime + n).fdiv 86400 * 86400).toNat : Int) = _
    rw [Int.fdiv_eq_ediv_of_nonneg _ (by decide)]
    omega
  have leap := sound.leap
  rw [DateTime.isLeapSecond_iff] at leap
  refine ⟨by simpa using days, ?_, sound.nanosecond, ?_⟩
  · unfold secondsPerDay
    omega
  · rw [DateTime.isLeapSecond_iff]
    intro inLeap
    have last := leap inLeap
    unfold DateTime.unixTime secondsPerDay at seconds
    omega

/-- The layout with an offset gives points in time of the calendar. -/
theorem gives_withOffset : Gives withOffset DateTime.Sound := by
  apply gives_bind
  intro year
  apply gives_bind
  intro _
  apply gives_bind
  intro month
  apply gives_bind
  intro _
  apply gives_bind
  intro day
  apply gives_bind
  intro _
  apply gives_numberIn.bind
  rintro hour ⟨-, inDay⟩
  apply gives_bind
  intro _
  apply gives_numberIn.bind
  rintro minute ⟨-, inHour⟩
  apply gives_bind
  intro _
  apply gives_numberIn.bind
  rintro second ⟨-, inMinute⟩
  apply gives_fraction.bind
  intro nanosecond inSecond
  apply gives_offset.bind
  intro seconds minutes
  apply gives_bind
  intro _
  apply (gives_checkedDate _ _ _).bind
  intro d valid
  apply gives_liftM
  intro t inRange
  have sound := sound_atTime valid inDay inHour inMinute inSecond
  exact sound_shiftSeconds sound (by omega) inRange

/-- A layout without an offset gives points in time of the calendar if its date and its second
do. -/
theorem gives_withoutOffset {date : Reading Date} {separator : Reading Unit}
    {seconds : Reading (Nat × Nat)} (dates : Gives date fun d => d.isValid = true)
    (inMinute : Gives seconds fun s => s.1 ≤ 60 ∧ s.2 < nanosPerSecond) :
    Gives (withoutOffset date separator seconds) DateTime.Sound := by
  apply dates.bind
  intro d valid
  apply gives_bind
  intro _
  apply gives_field.bind
  rintro hour ⟨-, inDay⟩
  apply gives_bind
  intro _
  apply gives_field.bind
  rintro minute ⟨-, inHour⟩
  apply gives_bind
  intro _
  apply inMinute.bind
  rintro ⟨second, nanosecond⟩ ⟨inMinute, inSecond⟩
  dsimp only
  apply gives_bind
  intro _
  exact gives_pure (sound_atTime valid inDay inHour inMinute inSecond)

/-- A layout of a date alone gives points in time of the calendar if its date stands there. -/
theorem gives_alone {date : Reading Date} (dates : Gives date fun d => d.isValid = true) :
    Gives (alone date) DateTime.Sound := by
  apply dates.bind
  intro d valid
  apply gives_bind
  intro _
  exact gives_pure (sound_atTime valid (by decide) (by decide) (by decide) (by decide))

/-- The layout with the year first gives dates of the calendar. -/
theorem gives_yearFirst : Gives yearFirst fun d => d.isValid = true := by
  apply gives_bind
  intro year
  apply gives_bind
  intro _
  apply gives_bind
  intro month
  apply gives_bind
  intro _
  apply gives_bind
  intro day
  exact gives_checkedDate year month day

/-- The layout with the day first gives dates of the calendar. -/
theorem gives_dayFirst : Gives dayFirst fun d => d.isValid = true := by
  apply gives_bind
  intro day
  apply gives_bind
  intro _
  apply gives_bind
  intro month
  apply gives_bind
  intro _
  apply gives_bind
  intro year
  exact gives_checkedDate year month day

/-- A second without a fraction is at most 60. -/
theorem gives_wholeSecond : Gives wholeSecond fun s => s.1 ≤ 60 ∧ s.2 < nanosPerSecond := by
  apply gives_field.bind
  rintro second ⟨-, inMinute⟩
  exact gives_pure ⟨inMinute, Nat.zero_lt_succ _⟩

/-- A second with a fraction is at most 60, and the fraction is less than a second. -/
theorem gives_anySecond : Gives anySecond fun s => s.1 ≤ 60 ∧ s.2 < nanosPerSecond := by
  apply gives_field.bind
  rintro second ⟨-, inMinute⟩
  apply gives_fraction.bind
  intro nanosecond inSecond
  exact gives_pure ⟨inMinute, inSecond⟩

/-- What several layouts read stands in the calendar if all that each of them gives does. -/
theorem sound_of_firstOf {readers : List (Reading DateTime)} {cs : List Char}
    (all : ∀ read ∈ readers, Gives read DateTime.Sound) (found : firstOf readers cs = some t) :
    t.Sound := by
  obtain ⟨read, mem, reads⟩ := List.exists_of_findSome?_eq_some found
  obtain ⟨⟨t, rest⟩, given, rfl⟩ := Option.map_eq_some_iff.mp reads
  exact (all read mem).of_read given

end Reader

/-- A point in time that a text names stands in the calendar. -/
theorem DateTime.sound_of_parse? {text : String} {t : DateTime} (parsed : parse? text = some t) :
    t.Sound := by
  have layouts : ∀ read ∈ [Reader.withOffset], Reader.Gives read Sound := by
    simp [Reader.gives_withOffset]
  have dateTimes : ∀ read ∈ Reader.dateTimes, Reader.Gives read Sound := by
    simp [Reader.dateTimes, Reader.gives_withoutOffset, Reader.gives_yearFirst,
      Reader.gives_dayFirst, Reader.gives_anySecond, Reader.gives_wholeSecond]
  have dates : ∀ read ∈ Reader.dates, Reader.Gives read Sound := by
    simp [Reader.dates, Reader.gives_alone, Reader.gives_yearFirst, Reader.gives_dayFirst]
  unfold parse? at parsed
  simp only [Option.orElse_eq_orElse, Option.orElse_eq_or, Option.or_eq_some_iff] at parsed
  obtain found | ⟨-, found | ⟨-, found⟩⟩ := parsed
  · exact Reader.sound_of_firstOf layouts found
  · exact Reader.sound_of_firstOf dateTimes found
  · exact Reader.sound_of_firstOf dates found

end TableSeed.Calendar
