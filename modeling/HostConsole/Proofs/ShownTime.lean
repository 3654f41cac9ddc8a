import HostConsole.Output.Timestamp
import Mathlib.Data.List.Basic
import Mathlib.Data.List.Induction
import Mathlib.Data.List.TakeWhile
import Mathlib.Tactic.IntervalCases

/-!
# Timestamps as they are shown

A timestamp is shown with the digits of its own text, whatever its fraction and its offset are. On
the way it goes through universal time: the offset is taken from the clock when the text is read,
and is put back when the moment is shown. That the digits come back needs two things. Moving a
clock and moving it back has to lead to the same moment, also over the ends of days, months and
years (`Moment.shift_shift_neg`), and digits have to be those of the number that they denote
(`lastDigits_digitsValue`).

What a timestamp looks like is said by its parts, `Timestamp.Parts`, and which days there are by
the calendar of the standard library.

## Main definitions

* `Timestamp.Parts`, `IsTimestamp`: the parts of the text of a timestamp
* `between`: the characters of a text between two places

## Main results

* `Timestamp.exists_read?_text`, `Timestamp.exists_of_read?`: the texts that are timestamps
* `showTimestamp_eq`: what is shown of any text
-/

namespace HostConsole.Output

/-! ## Digits -/

/-- So many decimal digits. -/
def IsDigits (count : ℕ) (ds : List Char) : Prop :=
  ds.length = count ∧ ∀ c ∈ ds, c.isDigit = true

theorem digitsValue_concat (ds : List Char) (c : Char) :
    digitsValue (ds ++ [c]) = digitsValue ds * 10 + (c.toNat - 48) := by
  simp [digitsValue]

theorem digitChar_of_isDigit {c : Char} (h : c.isDigit = true) :
    Nat.digitChar (c.toNat - 48) = c := by
  obtain ⟨low, high⟩ : 48 ≤ c.toNat ∧ c.toNat ≤ 57 := Char.isDigit_iff_toNat.mp h
  apply Char.toNat_inj.mp
  rw [Nat.toNat_digitChar_of_lt_ten (by omega)]
  omega

/-- Digits are the last ones of the number that they denote, if they are counted right. -/
theorem lastDigits_digitsValue {count : ℕ} {ds : List Char} (h : IsDigits count ds) :
    lastDigits count (digitsValue ds) = ds := by
  obtain ⟨rfl, digits⟩ := h
  -- Induction on the digits from their end, where the number is taken apart.
  induction ds using List.reverseRecOn with
  | nil => rfl
  | append_singleton ds c ih =>
    have last : c.isDigit = true := digits c (by simp)
    have small : c.toNat - 48 < 10 := by
      have high : c.toNat ≤ 57 := (Char.isDigit_iff_toNat.mp last).2
      omega
    have before : (digitsValue ds * 10 + (c.toNat - 48)) / 10 = digitsValue ds := by omega
    have behind : (digitsValue ds * 10 + (c.toNat - 48)) % 10 = c.toNat - 48 := by omega
    rw [List.length_append, List.length_singleton, lastDigits, digitsValue_concat, before, behind,
      digitChar_of_isDigit last, ih fun d hd => digits d (List.mem_append_left _ hd)]

theorem takeDigits?_eq_some_iff {count : ℕ} {cs ds rest : List Char} :
    takeDigits? count cs = some (ds, rest) ↔ IsDigits count ds ∧ cs = ds ++ rest := by
  unfold takeDigits? IsDigits
  constructor
  · intro h
    dsimp only at h
    split at h
    · next digits =>
      obtain ⟨rfl, rfl⟩ := Prod.mk.inj (Option.some.inj h)
      exact ⟨⟨digits.1, List.all_eq_true.mp digits.2⟩, (List.take_append_drop count cs).symm⟩
    · cases h
  · rintro ⟨⟨rfl, digits⟩, rfl⟩
    have all : ds.all Char.isDigit = true := List.all_eq_true.mpr digits
    simp [all]

theorem takeNumber?_eq_some_iff {count n : ℕ} {cs rest : List Char} :
    takeNumber? count cs = some (n, rest) ↔
      ∃ ds, IsDigits count ds ∧ cs = ds ++ rest ∧ digitsValue ds = n := by
  unfold takeNumber?
  rw [Option.map_eq_some_iff]
  constructor
  · rintro ⟨⟨ds, behind⟩, taken, same⟩
    obtain ⟨rfl, rfl⟩ := Prod.mk.inj same
    obtain ⟨digits, whole⟩ := takeDigits?_eq_some_iff.mp taken
    exact ⟨ds, digits, whole, rfl⟩
  · rintro ⟨ds, digits, whole, rfl⟩
    exact ⟨(ds, rest), takeDigits?_eq_some_iff.mpr ⟨digits, whole⟩, rfl⟩

theorem takeNumber?_append {count : ℕ} {ds : List Char} (h : IsDigits count ds)
    (rest : List Char) : takeNumber? count (ds ++ rest) = some (digitsValue ds, rest) :=
  takeNumber?_eq_some_iff.mpr ⟨ds, h, rfl, rfl⟩

theorem exists_of_takeNumber?_bind {α : Type} {count : ℕ} {cs : List Char} {result : α}
    {next : ℕ × List Char → Option α} (h : takeNumber? count cs >>= next = some result) :
    ∃ ds rest, IsDigits count ds ∧ cs = ds ++ rest ∧ next (digitsValue ds, rest) = some result := by
  obtain ⟨⟨n, rest⟩, taken, follows⟩ := Option.bind_eq_some_iff.mp h
  obtain ⟨ds, digits, whole, rfl⟩ := takeNumber?_eq_some_iff.mp taken
  exact ⟨ds, rest, digits, whole, follows⟩

theorem takeOne?_eq_some_iff {p : Char → Bool} {cs rest : List Char} :
    takeOne? p cs = some rest ↔ ∃ c, p c = true ∧ cs = c :: rest := by
  cases cs with
  | nil => simp [takeOne?]
  | cons c cs =>
    simp only [takeOne?, Option.ite_none_right_eq_some, Option.some.injEq, List.cons.injEq]
    constructor
    · rintro ⟨hp, rfl⟩
      exact ⟨c, hp, rfl, rfl⟩
    · rintro ⟨_, hp, rfl, rfl⟩
      exact ⟨hp, rfl⟩

theorem exists_of_takeOne?_bind {α : Type} {p : Char → Bool} {cs : List Char} {result : α}
    {next : List Char → Option α} (h : takeOne? p cs >>= next = some result) :
    ∃ c rest, p c = true ∧ cs = c :: rest ∧ next rest = some result := by
  obtain ⟨rest, taken, follows⟩ := Option.bind_eq_some_iff.mp h
  obtain ⟨c, hp, whole⟩ := takeOne?_eq_some_iff.mp taken
  exact ⟨c, rest, hp, whole, follows⟩

theorem takeOne?_cons {p : Char → Bool} {c : Char} (h : p c = true) (rest : List Char) :
    takeOne? p (c :: rest) = some rest :=
  takeOne?_eq_some_iff.mpr ⟨c, h, rfl⟩

/-! ## Days -/

/-- A day of the calendar of the standard library. -/
def IsDay (year month day : ℕ) : Prop :=
  ∃ d : Std.Time.PlainDate, d.year.toInt = year ∧ d.month.val = month ∧ d.day.val = day

namespace Date

variable {d : Date}

theorem daysOfMonth_le (year : ℤ) (month : ℕ) : daysOfMonth year month ≤ 31 := by
  have february : (if isLeapYear year then 29 else 28) ≤ 31 := by split <;> decide
  unfold daysOfMonth
  split <;> first | exact february | decide

theorem isValid_iff :
    d.isValid = true ↔
      (1 ≤ d.month ∧ d.month ≤ 12) ∧ 1 ≤ d.day ∧ d.day ≤ daysOfMonth d.year d.month := by
  simp [isValid, and_assoc]

/-- The day after the day before is the day itself. -/
theorem next_previous (h : d.isValid = true) : d.previous.next = d := by
  obtain ⟨year, month, day⟩ := d
  obtain ⟨⟨first, last⟩, low, high⟩ := isValid_iff.mp h
  dsimp only at first last low high
  unfold previous
  dsimp only
  split_ifs with inside after_first
  · -- within the month
    have smaller : day - 1 < daysOfMonth year month := by omega
    simp only [next, if_pos smaller]
    congr 1
    omega
  · -- the end of the month before
    obtain rfl : day = 1 := by omega
    have earlier : month - 1 < 12 := by omega
    simp only [next, lt_irrefl, if_false, if_pos earlier]
    congr 1
    omega
  · -- the end of the year before
    obtain rfl : day = 1 := by omega
    obtain rfl : month = 1 := by omega
    simp [next, daysOfMonth]

/-- The day before the day after is the day itself. -/
theorem previous_next (h : d.isValid = true) : d.next.previous = d := by
  obtain ⟨year, month, day⟩ := d
  obtain ⟨⟨first, last⟩, low, high⟩ := isValid_iff.mp h
  dsimp only at first last low high
  unfold next
  dsimp only
  split_ifs with inside before_last
  · have later : 1 < day + 1 := by omega
    simp [previous, later]
  · obtain rfl : day = daysOfMonth year month := by omega
    have later : 1 < month + 1 := by omega
    simp [previous, later]
  · obtain rfl : month = 12 := by omega
    obtain rfl : day = 31 := by
      simp only [daysOfMonth] at inside high
      omega
    simp [previous]

end Date

theorem isLeapYear_eq (year : Std.Time.Year.Offset) : isLeapYear year.toInt = year.isLeap := by
  have divides (n : ℤ) : year.toInt.tmod n = 0 ↔ year.toInt % n = 0 := by
    rw [← Int.dvd_iff_tmod_eq_zero, Int.dvd_iff_emod_eq_zero]
  unfold isLeapYear Std.Time.Year.Offset.isLeap
  rw [Bool.eq_iff_iff]
  simp [divides]

theorem daysOfMonth_eq (year : Std.Time.Year.Offset) (month : Std.Time.Month.Ordinal) :
    (daysOfMonth year.toInt month.val.toNat : ℤ) = (month.days year.isLeap).val := by
  obtain ⟨m, low, high⟩ := month
  rw [← isLeapYear_eq]
  unfold daysOfMonth
  generalize isLeapYear year.toInt = leap
  interval_cases m <;> cases leap <;> rfl

/-- The days that are read are those of the calendar. -/
theorem isDay_iff {year month day : ℕ} :
    IsDay year month day ↔ Date.isValid ⟨year, month, day⟩ = true := by
  rw [Date.isValid_iff]
  constructor
  · rintro ⟨⟨y, m, d, valid⟩, hy, hm, hd⟩
    dsimp only at hy hm hd
    have upto : d.val ≤ (m.days y.isLeap).val := valid
    rw [← daysOfMonth_eq, hy, hm] at upto
    obtain ⟨low, high⟩ := m.property
    obtain ⟨first, -⟩ := d.property
    simp only [Int.toNat_natCast] at upto
    dsimp only
    omega
  · rintro ⟨⟨first, last⟩, low, high⟩
    dsimp only at first last low high
    have most := Date.daysOfMonth_le year month
    let m : Std.Time.Month.Ordinal := ⟨month, by omega, by omega⟩
    let d : Std.Time.Day.Ordinal := ⟨day, by omega, by omega⟩
    have valid : Std.Time.Year.Offset.Valid (.ofNat year) m d := by
      have same := daysOfMonth_eq (.ofNat year) m
      change (day : ℤ) ≤ _
      rw [← same]
      exact Int.ofNat_le.mpr high
    exact ⟨⟨_, m, d, valid⟩, rfl, rfl, rfl⟩

/-- A day is read from its digits. -/
theorem Date.read?_eq_some_iff {cs rest : List Char} {date : Date} :
    Date.read? cs = some (date, rest) ↔ ∃ year month day, IsDigits 4 year ∧ IsDigits 2 month ∧
      IsDigits 2 day ∧ cs = year ++ '-' :: (month ++ '-' :: (day ++ rest)) ∧
      IsDay (digitsValue year) (digitsValue month) (digitsValue day) ∧
      date = ⟨digitsValue year, digitsValue month, digitsValue day⟩ := by
  unfold Date.read?
  constructor
  · intro h
    obtain ⟨year, cs, hy, whole, h₁⟩ := exists_of_takeNumber?_bind h
    obtain ⟨c, cs, dash, rfl, h₂⟩ := exists_of_takeOne?_bind h₁
    obtain rfl : c = '-' := by simpa using dash
    obtain ⟨month, cs, hm, rfl, h₃⟩ := exists_of_takeNumber?_bind h₂
    obtain ⟨c, cs, dash, rfl, h₄⟩ := exists_of_takeOne?_bind h₃
    obtain rfl : c = '-' := by simpa using dash
    obtain ⟨day, cs, hd, rfl, h₅⟩ := exists_of_takeNumber?_bind h₄
    simp only [Option.ite_none_right_eq_some, Option.some.injEq, Prod.mk.injEq] at h₅
    obtain ⟨valid, rfl, rfl⟩ := h₅
    exact ⟨year, month, day, hy, hm, hd, whole, isDay_iff.mpr valid, rfl⟩
  · rintro ⟨year, month, day, hy, hm, hd, rfl, is_day, rfl⟩
    have valid := isDay_iff.mp is_day
    simp [takeNumber?_append hy, takeNumber?_append hm, takeNumber?_append hd, takeOne?_cons,
      valid]

/-! ## Moments -/

/-- The text of a fraction: none, or digits behind a point. -/
def IsFraction (cs : List Char) : Prop :=
  cs = [] ∨ ∃ ds, ds ≠ [] ∧ (∀ c ∈ ds, c.isDigit = true) ∧ cs = '.' :: ds

/-- A fraction is passed over as far as it goes. -/
theorem skipFraction?_append {fraction rest : List Char} (h : IsFraction fraction)
    (ends : ∀ c ∈ rest.head?, c.isDigit = false ∧ c ≠ '.') :
    skipFraction? (fraction ++ rest) = some rest := by
  rcases h with rfl | ⟨ds, some_digit, digits, rfl⟩
  · cases rest with
    | nil => rfl
    | cons c rest =>
      obtain ⟨-, other⟩ := ends c rfl
      simp [skipFraction?, other]
  · have behind : rest.takeWhile Char.isDigit = [] := by
      cases rest with
      | nil => rfl
      | cons c rest => exact List.takeWhile_cons_of_neg (by simp [ends c rfl])
    have taken : (ds ++ rest).takeWhile Char.isDigit = ds := by
      rw [List.takeWhile_append_of_pos digits, behind, List.append_nil]
    simp [skipFraction?, taken, some_digit]

theorem exists_of_skipFraction? {cs rest : List Char} (h : skipFraction? cs = some rest) :
    ∃ fraction, IsFraction fraction ∧ cs = fraction ++ rest := by
  unfold skipFraction? at h
  split at h
  · next behind =>
    dsimp only at h
    split at h
    · cases h
    · next some_digit =>
      obtain rfl := Option.some.inj h
      refine ⟨'.' :: behind.takeWhile Char.isDigit, .inr ⟨_, by simpa using some_digit,
        fun _ hc => List.mem_takeWhile_imp hc, rfl⟩, ?_⟩
      have digits : behind.takeWhile Char.isDigit <+: behind := List.takeWhile_prefix _
      exact congrArg ('.' :: ·) (List.prefix_iff_eq_append.mp digits).symm
  · obtain rfl := Option.some.inj h
    exact ⟨[], .inl rfl, rfl⟩

namespace Moment

variable {m : Moment} {seconds : ℤ}

/-- There is such a day, and such a second on it. -/
structure IsReal (m : Moment) : Prop where
  date : m.date.isValid = true
  second : m.second < secondsOfDay

/-- **A clock that was moved is moved back**, also over the end of a day. -/
theorem shift_shift_neg (real : m.IsReal) (less : seconds.natAbs < secondsOfDay) :
    (m.shift (-seconds)).shift seconds = m := by
  obtain ⟨date, second, isLeap⟩ := m
  obtain ⟨valid, within⟩ := real
  unfold secondsOfDay at within less
  dsimp only at valid within
  unfold shift secondsOfDay
  rcases lt_or_ge ((second : ℤ) + -seconds) 0 with back | same_or_on
  · -- Set back over midnight, the clock comes to the next day again.
    have there : ((second : ℤ) + -seconds) % (86400 : ℕ) = second + -seconds + 86400 := by omega
    have again : ((second + -seconds + 86400).toNat : ℤ) + seconds = second + 86400 := by omega
    have after : ¬ (second : ℤ) + 86400 < 0 := by omega
    have beyond : ((86400 : ℕ) : ℤ) ≤ second + 86400 := by omega
    have clock : (((second : ℤ) + 86400) % (86400 : ℕ)).toNat = second := by omega
    simp only [if_pos back, there, again, if_neg after, if_pos beyond, clock,
      Date.next_previous valid]
  · rcases lt_or_ge ((second : ℤ) + -seconds) (86400 : ℕ) with same | on
    · have there : ((second : ℤ) + -seconds) % (86400 : ℕ) = second + -seconds := by omega
      have again : ((second + -seconds).toNat : ℤ) + seconds = second := by omega
      have after : ¬ (second : ℤ) < 0 := by omega
      have before : ¬ ((86400 : ℕ) : ℤ) ≤ second := by omega
      have clock : ((second : ℤ) % (86400 : ℕ)).toNat = second := by omega
      simp only [if_neg same_or_on.not_gt, if_neg same.not_ge, there, again, if_neg after,
        if_neg before, clock]
    · -- Set on over midnight, it comes to the day before again.
      have there : ((second : ℤ) + -seconds) % (86400 : ℕ) = second + -seconds - 86400 := by omega
      have again : ((second + -seconds - 86400).toNat : ℤ) + seconds = second - 86400 := by omega
      have before : (second : ℤ) - 86400 < 0 := by omega
      have clock : (((second : ℤ) - 86400) % (86400 : ℕ)).toNat = second := by omega
      simp only [if_neg same_or_on.not_gt, if_pos on, there, again, if_pos before, clock,
        Date.previous_next valid]

theorem isReal_ofClock {date : Date} {hour minute second : ℕ} (valid : date.isValid = true)
    (hh : hour ≤ 23) (hm : minute ≤ 59) : (ofClock date hour minute second).IsReal := by
  refine ⟨valid, ?_⟩
  unfold ofClock secondsOfDay
  dsimp only
  omega

/-- A clock shows its own digits. -/
theorem render_ofClock {year month day hour minute second : List Char} (hy : IsDigits 4 year)
    (hmo : IsDigits 2 month) (hd : IsDigits 2 day) (hh : IsDigits 2 hour)
    (hmi : IsDigits 2 minute) (hs : IsDigits 2 second)
    (minutes : digitsValue minute ≤ 59) (seconds : digitsValue second ≤ 60) :
    (ofClock ⟨digitsValue year, digitsValue month, digitsValue day⟩ (digitsValue hour)
      (digitsValue minute) (digitsValue second)).render =
      year ++ '/' :: month ++ '/' :: day ++ ' ' :: (hour ++ ':' :: minute ++ ':' :: second) := by
  let total := digitsValue hour * 3600 + digitsValue minute * 60 + min (digitsValue second) 59
  have hours : total / 3600 = digitsValue hour := by omega
  have minutes : total / 60 % 60 = digitsValue minute := by omega
  have seconds : total % 60 + (digitsValue second == 60).toNat = digitsValue second := by
    -- The second that is sixty is the one before, and a leap second behind it.
    by_cases leap : digitsValue second = 60
    · simp only [leap, beq_self_eq_true, Bool.toNat_true]
      omega
    · have plain : (digitsValue second == 60) = false := by simpa using leap
      rw [plain, Bool.toNat_false]
      omega
  simp only [render, ofClock, Int.toNat_natCast]
  change lastDigits 4 _ ++ '/' :: lastDigits 2 _ ++ '/' :: lastDigits 2 _ ++
    ' ' :: (lastDigits 2 (total / 3600) ++ ':' :: lastDigits 2 (total / 60 % 60) ++
      ':' :: lastDigits 2 (total % 60 + (digitsValue second == 60).toNat)) = _
  rw [hours, minutes, seconds, lastDigits_digitsValue hy, lastDigits_digitsValue hmo,
    lastDigits_digitsValue hd, lastDigits_digitsValue hh, lastDigits_digitsValue hmi,
    lastDigits_digitsValue hs]

/-- A time of day is read from its digits, and a fraction as far as it goes. -/
theorem read?_append {date : Date} {hour minute second fraction rest : List Char}
    (hh : IsDigits 2 hour) (hm : IsDigits 2 minute) (hs : IsDigits 2 second)
    (hf : IsFraction fraction) (ends : ∀ c ∈ rest.head?, c.isDigit = false ∧ c ≠ '.')
    (most_hours : digitsValue hour ≤ 23) (most_minutes : digitsValue minute ≤ 59)
    (most_seconds : digitsValue second ≤ 60) :
    read? date (hour ++ ':' :: (minute ++ ':' :: (second ++ (fraction ++ rest)))) =
      some (ofClock date (digitsValue hour) (digitsValue minute) (digitsValue second), rest) := by
  unfold read?
  simp [takeNumber?_append hh, takeNumber?_append hm, takeNumber?_append hs, takeOne?_cons,
    skipFraction?_append hf ends, most_hours, most_minutes, most_seconds]

theorem exists_of_read? {date : Date} {cs rest : List Char}
    (h : read? date cs = some (m, rest)) :
    ∃ hour minute second fraction, IsDigits 2 hour ∧ IsDigits 2 minute ∧ IsDigits 2 second ∧
      IsFraction fraction ∧ digitsValue hour ≤ 23 ∧ digitsValue minute ≤ 59 ∧
      digitsValue second ≤ 60 ∧
      cs = hour ++ ':' :: (minute ++ ':' :: (second ++ (fraction ++ rest))) := by
  obtain ⟨hour, cs, hh, whole, h₁⟩ := exists_of_takeNumber?_bind h
  obtain ⟨c, cs, colon, rfl, h₂⟩ := exists_of_takeOne?_bind h₁
  obtain rfl : c = ':' := by simpa using colon
  obtain ⟨minute, cs, hm, rfl, h₃⟩ := exists_of_takeNumber?_bind h₂
  obtain ⟨c, cs, colon, rfl, h₄⟩ := exists_of_takeOne?_bind h₃
  obtain rfl : c = ':' := by simpa using colon
  obtain ⟨second, cs, hs, rfl, h₅⟩ := exists_of_takeNumber?_bind h₄
  obtain ⟨cs, skipped, h₆⟩ := Option.bind_eq_some_iff.mp h₅
  obtain ⟨fraction, hf, rfl⟩ := exists_of_skipFraction? skipped
  simp only [Option.ite_none_right_eq_some, Bool.and_eq_true, decide_eq_true_eq,
    Option.some.injEq, Prod.mk.injEq] at h₆
  obtain ⟨⟨⟨most_hours, most_minutes⟩, most_seconds⟩, -, rfl⟩ := h₆
  exact ⟨hour, minute, second, fraction, hh, hm, hs, hf, most_hours, most_minutes, most_seconds,
    whole⟩

end Moment

/-! ## Offsets -/

/-- The text of an offset: a letter for none, or a sign with hours and minutes. -/
inductive IsOffset : List Char → Prop where
  | universal {c : Char} (letter : c = 'Z' ∨ c = 'z') : IsOffset [c]
  | ahead {sign : Char} {hours minutes : List Char}
      (signed : sign = '+' ∨ sign = '-' ∨ sign = '\u2212') (hh : IsDigits 2 hours)
      (hm : IsDigits 2 minutes) (most_hours : digitsValue hours ≤ 23)
      (most_minutes : digitsValue minutes ≤ 59) : IsOffset (sign :: (hours ++ ':' :: minutes))

/-- No offset begins as a fraction goes on. -/
theorem IsOffset.ends {cs : List Char} (h : IsOffset cs) :
    ∀ c ∈ cs.head?, c.isDigit = false ∧ c ≠ '.' := by
  cases h with
  | universal letter => rcases letter with rfl | rfl <;> simp
  | ahead signed => rcases signed with rfl | rfl | rfl <;> simp

theorem distance?_eq_some_iff {cs : List Char} {seconds : ℕ} :
    distance? cs = some seconds ↔ ∃ hours minutes, IsDigits 2 hours ∧ IsDigits 2 minutes ∧
      cs = hours ++ ':' :: minutes ∧ digitsValue hours ≤ 23 ∧ digitsValue minutes ≤ 59 ∧
      (digitsValue hours * 60 + digitsValue minutes) * 60 = seconds := by
  unfold distance?
  constructor
  · intro h
    obtain ⟨hours, cs, hd, whole, h₁⟩ := exists_of_takeNumber?_bind h
    obtain ⟨c, cs, colon, rfl, h₂⟩ := exists_of_takeOne?_bind h₁
    obtain rfl : c = ':' := by simpa using colon
    obtain ⟨minutes, cs, md, rfl, h₃⟩ := exists_of_takeNumber?_bind h₂
    simp only [Option.ite_none_right_eq_some, Bool.and_eq_true, List.isEmpty_iff,
      decide_eq_true_eq, Option.some.injEq] at h₃
    obtain ⟨⟨⟨rfl, most_hours⟩, most_minutes⟩, same⟩ := h₃
    rw [List.append_nil] at whole
    exact ⟨hours, minutes, hd, md, whole, most_hours, most_minutes, same⟩
  · rintro ⟨hours, minutes, hd, md, rfl, most_hours, most_minutes, rfl⟩
    have last : takeNumber? 2 minutes = some (digitsValue minutes, []) := by
      simpa using takeNumber?_append md []
    simp [takeNumber?_append hd, takeOne?, last, most_hours, most_minutes]

/-- An offset is read as less than a day. -/
theorem exists_offset? {cs : List Char} (h : IsOffset cs) :
    ∃ seconds, offset? cs = some seconds ∧ seconds.natAbs < secondsOfDay := by
  cases h with
  | universal letter => exact ⟨0, by simp [offset?, letter], by decide⟩
  | @ahead sign hours minutes signed hh hm most_hours most_minutes =>
    obtain ⟨direction, hd, one⟩ : ∃ direction, direction? sign = some direction ∧
        direction.natAbs = 1 := by
      rcases signed with rfl | rfl | rfl
      · exact ⟨1, rfl, rfl⟩
      · exact ⟨-1, rfl, rfl⟩
      · exact ⟨-1, rfl, rfl⟩
    have read := distance?_eq_some_iff.mpr
      ⟨hours, minutes, hh, hm, rfl, most_hours, most_minutes, rfl⟩
    refine ⟨direction * ((digitsValue hours * 60 + digitsValue minutes) * 60 : ℕ), ?_, ?_⟩
    · simp [offset?, hd, read]
    · unfold secondsOfDay
      rw [Int.natAbs_mul, one]
      omega

theorem isOffset_of_offset? {cs : List Char} {seconds : ℤ} (h : offset? cs = some seconds) :
    IsOffset cs := by
  cases cs with
  | nil => cases h
  | cons sign cs =>
    rw [offset?] at h
    split at h
    · next letter =>
      simp only [Bool.and_eq_true, List.isEmpty_iff, Bool.or_eq_true, beq_iff_eq] at letter
      obtain ⟨rfl, letter⟩ := letter
      exact .universal letter
    · obtain ⟨direction, hd, h₁⟩ := Option.bind_eq_some_iff.mp h
      obtain ⟨distance, read, -⟩ := Option.bind_eq_some_iff.mp h₁
      obtain ⟨hours, minutes, hh, hm, rfl, most_hours, most_minutes, -⟩ :=
        distance?_eq_some_iff.mp read
      refine .ahead ?_ hh hm most_hours most_minutes
      unfold direction? at hd
      split at hd
      · next plus => exact .inl plus
      · split at hd
        · next minus => exact .inr minus
        · cases hd

/-! ## The text of a timestamp -/

namespace Timestamp

/-- The parts of the text of a timestamp. -/
structure Parts where
  year : List Char
  month : List Char
  day : List Char
  /-- What stands between the date and the time of day. -/
  separator : Char
  hour : List Char
  minute : List Char
  second : List Char
  fraction : List Char
  offset : List Char

namespace Parts

variable {p : Parts}

/-- The text of the parts. -/
def text (p : Parts) : List Char :=
  p.year ++ '-' :: (p.month ++ '-' :: (p.day ++ p.separator :: (p.hour ++ ':' :: (p.minute ++
    ':' :: (p.second ++ (p.fraction ++ p.offset))))))

/-- The parts are those of a timestamp: digits of a day of the calendar and of a time of day, which
may be in a leap second, with a fraction and an offset. -/
structure AreSound (p : Parts) : Prop where
  year : IsDigits 4 p.year
  month : IsDigits 2 p.month
  day : IsDigits 2 p.day
  separator : p.separator = 'T' ∨ p.separator = 't' ∨ p.separator = ' '
  hour : IsDigits 2 p.hour
  minute : IsDigits 2 p.minute
  second : IsDigits 2 p.second
  fraction : IsFraction p.fraction
  offset : IsOffset p.offset
  is_day : IsDay (digitsValue p.year) (digitsValue p.month) (digitsValue p.day)
  most_hours : digitsValue p.hour ≤ 23
  most_minutes : digitsValue p.minute ≤ 59
  most_seconds : digitsValue p.second ≤ 60

/-- The moment that a clock shows. -/
def clock (p : Parts) : Moment :=
  .ofClock ⟨digitsValue p.year, digitsValue p.month, digitsValue p.day⟩ (digitsValue p.hour)
    (digitsValue p.minute) (digitsValue p.second)

end Parts

/-- Sound parts are read as what a clock shows at a place with their offset. -/
theorem exists_read?_text {p : Parts} (sound : p.AreSound) :
    ∃ offset : ℤ, read? p.text = some (ofShown p.clock offset) ∧
      offset.natAbs < secondsOfDay := by
  obtain ⟨offset, ho, less⟩ := exists_offset? sound.offset
  have date (rest : List Char) :
      Date.read? (p.year ++ '-' :: (p.month ++ '-' :: (p.day ++ rest))) =
        some (⟨digitsValue p.year, digitsValue p.month, digitsValue p.day⟩, rest) :=
    Date.read?_eq_some_iff.mpr ⟨p.year, p.month, p.day, sound.year, sound.month, sound.day, rfl,
      sound.is_day, rfl⟩
  have parted (rest : List Char) : takeOne? (fun c => c == 'T' || c == 't' || c == ' ')
      (p.separator :: rest) = some rest :=
    takeOne?_cons (by simpa [or_assoc] using sound.separator) rest
  have clock (d : Date) := @Moment.read?_append d _ _ _ _ _ sound.hour sound.minute sound.second
    sound.fraction sound.offset.ends sound.most_hours sound.most_minutes sound.most_seconds
  refine ⟨offset, ?_, less⟩
  simp only [read?, Parts.text, date, parted, clock, ho, Option.bind_eq_bind, Option.bind_some]
  rfl

theorem exists_of_read? {cs : List Char} {t : Timestamp} (h : read? cs = some t) :
    ∃ p : Parts, p.AreSound ∧ cs = p.text := by
  obtain ⟨⟨date, cs⟩, read, h₁⟩ := Option.bind_eq_some_iff.mp h
  obtain ⟨year, month, day, hy, hm, hd, whole, is_day, -⟩ := Date.read?_eq_some_iff.mp read
  obtain ⟨separator, cs, between, rfl, h₂⟩ := exists_of_takeOne?_bind h₁
  obtain ⟨⟨shown, cs⟩, read, h₃⟩ := Option.bind_eq_some_iff.mp h₂
  obtain ⟨hour, minute, second, fraction, hh, hmi, hs, hf, most_hours, most_minutes, most_seconds,
    rfl⟩ := Moment.exists_of_read? read
  obtain ⟨seconds, read, -⟩ := Option.bind_eq_some_iff.mp h₃
  exact ⟨⟨year, month, day, separator, hour, minute, second, fraction, cs⟩,
    ⟨hy, hm, hd, by simpa [or_assoc] using between, hh, hmi, hs, hf, isOffset_of_offset? read,
      is_day, most_hours, most_minutes, most_seconds⟩, whole⟩

/-- The offset does not change what a clock at the place shows. -/
theorem shown_ofShown {m : Moment} {offset : ℤ} (real : m.IsReal)
    (less : offset.natAbs < secondsOfDay) : (ofShown m offset).shown = m :=
  Moment.shift_shift_neg real less

end Timestamp

/-! ## What is shown -/

/-- The text is that of a timestamp. -/
def IsTimestamp (cs : List Char) : Prop :=
  ∃ p : Timestamp.Parts, p.AreSound ∧ cs = p.text

/-- The characters of a text from one place to another, counted from one. -/
def between (first last : ℕ) (cs : List Char) : List Char :=
  (cs.take last).drop (first - 1)

/-- The characters of a timestamp at the places of its digits. -/
def slashed (cs : List Char) : List Char :=
  between 1 4 cs ++ '/' :: between 6 7 cs ++ '/' :: between 9 10 cs ++
    ' ' :: (between 12 13 cs ++ ':' :: between 15 16 cs ++ ':' :: between 18 19 cs)

theorem isTimestamp_iff {cs : List Char} :
    IsTimestamp cs ↔ ∃ t, Timestamp.read? cs = some t := by
  constructor
  · rintro ⟨p, sound, rfl⟩
    obtain ⟨offset, read, -⟩ := Timestamp.exists_read?_text sound
    exact ⟨_, read⟩
  · rintro ⟨t, read⟩
    exact Timestamp.exists_of_read? read

/-- The digits of a timestamp stand at fixed places, since there are fixed numbers of them. -/
theorem slashed_text {p : Timestamp.Parts} (sound : p.AreSound) :
    slashed p.text = p.year ++ '/' :: p.month ++ '/' :: p.day ++
      ' ' :: (p.hour ++ ':' :: p.minute ++ ':' :: p.second) := by
  obtain ⟨y₁, y₂, y₃, y₄, year⟩ := List.length_eq_four.mp sound.year.1
  obtain ⟨m₁, m₂, month⟩ := List.length_eq_two.mp sound.month.1
  obtain ⟨d₁, d₂, day⟩ := List.length_eq_two.mp sound.day.1
  obtain ⟨h₁, h₂, hour⟩ := List.length_eq_two.mp sound.hour.1
  obtain ⟨n₁, n₂, minute⟩ := List.length_eq_two.mp sound.minute.1
  obtain ⟨s₁, s₂, second⟩ := List.length_eq_two.mp sound.second.1
  simp only [slashed, between, Timestamp.Parts.text, year, month, day, hour, minute, second]
  rfl

/-- Of two texts that begin alike the same digits are taken. -/
theorem slashed_take (cs : List Char) : slashed (cs.take 19) = slashed cs := by
  simp [slashed, between, List.take_take]

/-- The digits of a timestamp come back from universal time. -/
theorem showTimestamp_of_isTimestamp {raw : String} (h : IsTimestamp raw.toList) :
    showTimestamp raw = .ofList (slashed raw.toList) := by
  obtain ⟨p, sound, text⟩ := h
  obtain ⟨offset, read, less⟩ := Timestamp.exists_read?_text sound
  have real : p.clock.IsReal :=
    Moment.isReal_ofClock (isDay_iff.mp sound.is_day) sound.most_hours sound.most_minutes
  have shown : p.clock.render = slashed p.text := by
    rw [slashed_text sound]
    exact Moment.render_ofClock sound.year sound.month sound.day sound.hour sound.minute
      sound.second sound.most_minutes sound.most_seconds
  rw [showTimestamp, text, read]
  dsimp only
  rw [Timestamp.shown_ofShown real less, shown]

theorem showTimestamp_of_not_isTimestamp {raw : String} (h : ¬ IsTimestamp raw.toList) :
    showTimestamp raw = raw := by
  have unread : Timestamp.read? raw.toList = none := by
    rw [Option.eq_none_iff_forall_ne_some]
    intro t read
    exact h (isTimestamp_iff.mpr ⟨t, read⟩)
  rw [showTimestamp, unread]

/-- What is shown of a timestamp is none, as it has a slash behind the year. -/
theorem not_isTimestamp_slashed {cs : List Char} (h : IsTimestamp cs) :
    ¬ IsTimestamp (slashed cs) := by
  have fifth {p : Timestamp.Parts} (sound : p.AreSound) : p.text[4]? = some '-' := by
    simp [Timestamp.Parts.text, sound.year.1]
  obtain ⟨p, sound, rfl⟩ := h
  rintro ⟨q, other, same⟩
  have slash : (slashed p.text)[4]? = some '/' := by
    simp [slashed_text sound, sound.year.1]
  rw [same, fifth other] at slash
  cases slash

/-- **What is shown of any text**: of a timestamp its own digits, whatever its fraction and its
offset are, and any other text as it is. -/
theorem showTimestamp_eq (raw : String) :
    (IsTimestamp raw.toList → showTimestamp raw = .ofList (slashed raw.toList)) ∧
    (¬ IsTimestamp raw.toList → showTimestamp raw = raw) ∧
    (∀ other : String, IsTimestamp raw.toList → IsTimestamp other.toList →
      raw.toList.take 19 = other.toList.take 19 → showTimestamp raw = showTimestamp other) ∧
    showTimestamp (showTimestamp raw) = showTimestamp raw := by
  refine ⟨showTimestamp_of_isTimestamp, showTimestamp_of_not_isTimestamp, ?_, ?_⟩
  · intro other hr ho alike
    rw [showTimestamp_of_isTimestamp hr, showTimestamp_of_isTimestamp ho,
      ← slashed_take raw.toList, alike, slashed_take]
  · by_cases h : IsTimestamp raw.toList
    · rw [showTimestamp_of_isTimestamp h]
      refine showTimestamp_of_not_isTimestamp ?_
      rw [String.toList_ofList]
      exact not_isTimestamp_slashed h
    · rw [showTimestamp_of_not_isTimestamp h, showTimestamp_of_not_isTimestamp h]

/-- A leap second keeps its digits at the end of a day that is another one in universal time. -/
theorem showTimestamp_eq_of_leap_second :
    let raw := "2016-12-31T23:59:60.5-23:59"
    IsTimestamp raw.toList ∧ showTimestamp raw = "2016/12/31 23:59:60" := by
  intro raw
  have accepted : IsTimestamp raw.toList :=
    isTimestamp_iff.mpr (Option.isSome_iff_exists.mp (by decide +kernel))
  exact ⟨accepted, ((showTimestamp_eq raw).1 accepted).trans (by decide +kernel)⟩

end HostConsole.Output
