import TableSeed.Proofs.Calendar.NormalForm
import TableSeed.Proofs.Expression.Forms
import TableSeed.Proofs.Lua.Library.Helpers

/-!
# Dates in the helper library

`parse_date` gives a date in its normal form, which it gives again when it reads it. `add_days` counts
the days of the calendar one by one, forward or back, and gives nothing when it leaves the calendar;
going on from its result is going all the way at once. A leap second ends with its day, so this is about
other times.
-/

namespace TableSeed

namespace Calendar

namespace Date

variable {d e : Date} {n : Int}

/-- The second date stands `n` days after the first, or `-n` days before it. -/
def DaysAfter (d : Date) (n : Int) (e : Date) : Prop :=
  e.Proper ∧ Date.next^[n.toNat] d = Date.next^[(-n).toNat] e

/-- A number of days after a proper date is a proper date, with a day number that is greater by so
many. -/
theorem Proper.iterate_next (proper : d.Proper) (k : Nat) :
    (Date.next^[k] d).Proper ∧ (Date.next^[k] d).toDays = d.toDays + k := by
  induction k with
  | zero => exact ⟨proper, (Int.add_zero _).symm⟩
  | succ k ih =>
    rw [Function.iterate_succ_apply']
    refine ⟨ih.1.next, ?_⟩
    rw [toDays_next ih.1, ih.2]
    push_cast
    ring

/-- Days are counted by their numbers. -/
theorem daysAfter_iff (proper : d.Proper) :
    d.DaysAfter n e ↔ e.Proper ∧ e.toDays = d.toDays + n := by
  refine and_congr_right fun other => ?_
  obtain ⟨later, number⟩ := proper.iterate_next n.toNat
  obtain ⟨later', number'⟩ := other.iterate_next (-n).toNat
  constructor
  · intro same
    rw [same] at number
    omega
  · intro days
    rw [← ofDays_toDays later, ← ofDays_toDays later']
    congr 1
    omega

end Date

namespace DateTime

variable {t : DateTime} {n : Int}

/-- A shift may be longer than the calendar. -/
theorem calendar_lt_maxShift : Date.maxDays - Date.minDays < maxShift := by decide

/-- Outside leap seconds only the date changes. -/
theorem addDays_eq (sound : t.Sound) (plain : t.isLeapSecond = false) (n : Int) :
    t.addDays n = inRange { t with days := t.days + n } := by
  have width := calendar_lt_maxShift
  obtain ⟨low, high⟩ := sound.days
  unfold addDays inRange
  simp only [plain, Bool.false_and, Bool.false_eq_true, if_false]
  by_cases long : (decide (n < -maxShift) || decide (maxShift < n)) = true
  · have outside : ¬ (decide (Date.minDays ≤ t.days + n) && decide (t.days + n ≤ Date.maxDays)) = true := by
      simp only [Bool.or_eq_true, decide_eq_true_eq, Bool.and_eq_true] at long ⊢
      omega
    rw [if_pos long, if_neg outside]
  · rw [if_neg long]
    split_ifs with zero inside <;> simp_all

/-- A point in time is in range if its date stands in the calendar. -/
theorem inRange_eq (t : DateTime) : t.inRange = if t.date.isValid then some t else none := by
  have valid : (decide (Date.minDays ≤ t.days) && decide (t.days ≤ Date.maxDays)) = t.date.isValid := by
    rw [Bool.eq_iff_iff, date, Date.isValid_ofDays_iff, Bool.and_eq_true, decide_eq_true_iff,
      decide_eq_true_iff]
  rw [inRange, valid]

/-- What is in range is a point in time whose date stands in the calendar. -/
theorem inRange_eq_some_iff {t' : DateTime} :
    t.inRange = some t' ↔ t.date.isValid = true ∧ t = t' := by
  rw [inRange_eq]
  split_ifs with valid <;> simp [valid]

/-- A shift that stays in the calendar ends at a point in time of it. -/
theorem Sound.inRange (sound : t.Sound) {t' : DateTime}
    (inside : ({ t with days := t.days + n } : DateTime).inRange = some t') : t'.Sound := by
  obtain ⟨valid, rfl⟩ := inRange_eq_some_iff.mp inside
  exact ⟨Date.isValid_ofDays_iff.mp valid, sound.second, sound.nanosecond, sound.leap⟩

/-- Days may be counted on from the normal form of a later date. -/
theorem addDays_toSecond {m k : Int} {later last : DateTime} (sound : t.Sound)
    (plain : t.isLeapSecond = false) (shifted : t.addDays m = some later)
    (reached : t.addDays k = some last) :
    later.toSecond.addDays (k - m) = some last.toSecond := by
  rw [addDays_eq sound plain] at shifted reached
  have soundLater := (sound.inRange shifted).toSecond
  obtain ⟨-, rfl⟩ := inRange_eq_some_iff.mp shifted
  obtain ⟨valid, rfl⟩ := inRange_eq_some_iff.mp reached
  have plainLater : ({ t with days := t.days + m } : DateTime).toSecond.isLeapSecond = false :=
    (isLeapSecond_toSecond _).trans plain
  have days : t.days + m + (k - m) = t.days + k := by omega
  have last : ({ ({ t with days := t.days + m } : DateTime).toSecond with
      days := t.days + m + (k - m) } : DateTime) = ({ t with days := t.days + k } : DateTime).toSecond := by
    rw [days]
    rfl
  rw [addDays_eq soundLater plainLater, inRange_eq_some_iff]
  exact ⟨last ▸ valid, last⟩

end DateTime

end Calendar

open Calendar (Date DateTime)

namespace Lua

open Helpers (textOrNil)

/-- A text is the text of its argument. -/
theorem Arguments.text?_ofText (function s : String) (others : List Value) :
    (⟨function, .ofText s :: others⟩ : Arguments).text? 1 = some s :=
  Conversion.toText?_eq_some_iff.mpr rfl

/-- The helper gives the normal form of a date, or nil. -/
theorem HelperFunction.parseDate_run (s : String) :
    HelperFunction.parseDate.run [.ofText s] =
      .done (textOrNil ((DateTime.parse? s).map (·.isoText))) := by
  have isText := Arguments.text?_ofText HelperFunction.parseDate.name s []
  rw [HelperFunction.run, Helpers.text_of_text? isText]
  rfl

/-- The helper gives the normal form of a date so many days later, or nil. -/
theorem HelperFunction.addDays_run (s : String) (n : Int64) :
    HelperFunction.addDays.run [.ofText s, .integer n] =
      .done (textOrNil (((DateTime.parse? s).bind (·.addDays n.toInt)).map (·.isoText))) := by
  have isText := Arguments.text?_ofText HelperFunction.addDays.name s [.integer n]
  rw [HelperFunction.run, Helpers.text_of_text? isText]
  rfl

/-- What a result of `parse_date` says. -/
theorem HelperFunction.parseDate_run_eq_iff {s : String} {r : Value} (date : r ≠ .nil) :
    HelperFunction.parseDate.run [.ofText s] = .done [r] ↔
      ∃ t, DateTime.parse? s = some t ∧ .ofText t.isoText = r := by
  rw [parseDate_run]
  cases DateTime.parse? s <;> simp [textOrNil, Ne.symm date]

/-- What a result of `add_days` says. -/
theorem HelperFunction.addDays_run_eq_iff {s : String} {n : Int64} {r : Value} (date : r ≠ .nil) :
    HelperFunction.addDays.run [.ofText s, .integer n] = .done [r] ↔
      ∃ t t', DateTime.parse? s = some t ∧ t.addDays n.toInt = some t' ∧ .ofText t'.isoText = r := by
  rw [addDays_run]
  cases parsed : DateTime.parse? s with
  | none => simp [textOrNil, Ne.symm date]
  | some t => cases shifted : t.addDays n.toInt <;> simp [textOrNil, Ne.symm date, shifted]

/-- How `add_days` counts days from a text on. -/
structure CountsDays (s : String) : Prop where
  /-- No day later is the normal form. -/
  zero : HelperFunction.addDays.run [.ofText s, .integer 0] = HelperFunction.parseDate.run [.ofText s]
  /-- Without a date there are no days. -/
  none (n : Int64) : DateTime.parse? s = none →
    HelperFunction.addDays.run [.ofText s, .integer n] = .done [.nil]
  /-- The time is the same on the date that many days later, if that stands in the calendar. -/
  date (n : Int64) : ∀ t, DateTime.parse? s = some t → ∃ d, t.date.DaysAfter n.toInt d ∧
    HelperFunction.addDays.run [.ofText s, .integer n] = .done
      [if d.isValid then .ofText { t with days := d.toDays : DateTime }.isoText else .nil]
  /-- Going on is going all the way at once. -/
  additive (m n k : Int64) : m.toInt + n.toInt = k.toInt → ∀ r q, r ≠ .nil → q ≠ .nil →
    HelperFunction.addDays.run [.ofText s, .integer m] = .done [r] →
    HelperFunction.addDays.run [.ofText s, .integer k] = .done [q] →
    HelperFunction.addDays.run [r, .integer n] = .done [q]

/-- A normal form is given as it is. -/
theorem parseDate_isoText {t : DateTime} (sound : t.Sound) :
    HelperFunction.parseDate.run [.ofText t.isoText] = .done [.ofText t.isoText] := by
  have back := DateTime.parse?_isoText sound
  rw [HelperFunction.parseDate_run, back, Option.map_some, DateTime.isoText_toSecond]
  rfl

/-- A date that has been parsed is parsed as itself. -/
theorem parseDate_stable {s : String} {r : Value} (date : r ≠ .nil)
    (parsed : HelperFunction.parseDate.run [.ofText s] = .done [r]) :
    HelperFunction.parseDate.run [r] = .done [r] := by
  obtain ⟨t, found, rfl⟩ := (HelperFunction.parseDate_run_eq_iff date).mp parsed
  exact parseDate_isoText (DateTime.sound_of_parse? found)

/-- No days added to a date give the date. -/
theorem addDays_zero (s : String) :
    HelperFunction.addDays.run [.ofText s, .integer 0] = HelperFunction.parseDate.run [.ofText s] := by
  rw [HelperFunction.addDays_run, HelperFunction.parseDate_run]
  cases DateTime.parse? s <;> rfl

/-- Days added to a date without a leap second give the date so many days later, with the time of
the day as it is, or nil beyond the calendar. -/
theorem addDays_date {s : String} {t : DateTime} (parsed : DateTime.parse? s = some t)
    (plain : t.isLeapSecond = false) (n : Int64) : ∃ d, t.date.DaysAfter n.toInt d ∧
    HelperFunction.addDays.run [.ofText s, .integer n] = .done
      [if d.isValid then .ofText { t with days := d.toDays : DateTime }.isoText else .nil] := by
  have sound := DateTime.sound_of_parse? parsed
  have shifted := DateTime.addDays_eq sound plain n.toInt
  have proper := Date.proper_ofDays t.days
  have days : (Date.ofDays (t.days + n.toInt)).toDays = t.date.toDays + n.toInt := by
    rw [Date.toDays_ofDays, DateTime.date, Date.toDays_ofDays]
  refine ⟨Date.ofDays (t.days + n.toInt), ?_, ?_⟩
  · exact (Date.daysAfter_iff proper).mpr ⟨Date.proper_ofDays _, days⟩
  · rw [HelperFunction.addDays_run, parsed, Option.bind_some, shifted, Date.toDays_ofDays,
      DateTime.inRange_eq, DateTime.date]
    cases (Date.ofDays (t.days + n.toInt)).isValid <;> rfl

/-- Days added one time after another add up, for a date without a leap second and as long as none
of the dates is beyond the calendar. -/
theorem addDays_additive {s : String} {m n k : Int64} {r q : Value}
    (plain : ∀ t, DateTime.parse? s = some t → t.isLeapSecond = false)
    (sum : m.toInt + n.toInt = k.toInt) (later : r ≠ .nil) (last : q ≠ .nil)
    (part : HelperFunction.addDays.run [.ofText s, .integer m] = .done [r])
    (whole : HelperFunction.addDays.run [.ofText s, .integer k] = .done [q]) :
    HelperFunction.addDays.run [r, .integer n] = .done [q] := by
  obtain ⟨t, t₁, parsed, shifted, rfl⟩ := (HelperFunction.addDays_run_eq_iff later).mp part
  obtain ⟨t', t₂, parsed', reached, rfl⟩ := (HelperFunction.addDays_run_eq_iff last).mp whole
  obtain rfl := Option.some.inj (parsed.symm.trans parsed')
  have sound := DateTime.sound_of_parse? parsed
  have soundLater : t₁.Sound := by
    rw [DateTime.addDays_eq sound (plain t parsed)] at shifted
    exact sound.inRange shifted
  have further := DateTime.addDays_toSecond sound (plain t parsed) shifted reached
  have days : k.toInt - m.toInt = n.toInt := by omega
  rw [days] at further
  rw [HelperFunction.addDays_run_eq_iff last]
  exact ⟨t₁.toSecond, t₂.toSecond, DateTime.parse?_isoText soundLater, further,
    congrArg Value.ofText (DateTime.isoText_toSecond t₂)⟩

/-- Each point in time of the calendar has a normal form that is given as it is, and so is each result of
`parse_date`. Outside leap seconds days are counted in the calendar. -/
theorem HelperFunction.dates_stable_and_additive :
    (∀ t : DateTime, t.Sound →
      HelperFunction.parseDate.run [.ofText t.isoText] = .done [.ofText t.isoText]) ∧
    (∀ s r, r ≠ .nil → HelperFunction.parseDate.run [.ofText s] = .done [r] →
      HelperFunction.parseDate.run [r] = .done [r]) ∧
    ∀ s, (∀ t, DateTime.parse? s = some t → t.isLeapSecond = false) → CountsDays s := by
  refine ⟨fun t sound => parseDate_isoText sound, ?_, ?_⟩
  · intro s r date parsed
    exact parseDate_stable date parsed
  · intro s plain
    constructor
    case zero => exact addDays_zero s
    case none =>
      intro n nothing
      rw [addDays_run, nothing]
      rfl
    case date =>
      intro n t parsed
      exact addDays_date parsed (plain t parsed) n
    case additive =>
      intro m n k sum r q later last part whole
      exact addDays_additive plain sum later last part whole

/-- Days are counted from a leap day. -/
theorem HelperFunction.dates_stable_and_additive_leap_day : CountsDays "2024-02-29" := by
  have midnight : DateTime.parse? "2024-02-29" = some ⟨19782, 0, 0⟩ := by decide +kernel
  apply HelperFunction.dates_stable_and_additive.2.2
  intro t parsed
  obtain rfl := Option.some.inj (midnight.symm.trans parsed)
  rfl

end Lua

end TableSeed
