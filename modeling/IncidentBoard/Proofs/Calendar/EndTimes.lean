import IncidentBoard.EndTime
import IncidentBoard.Proofs.Calendar.Days
import IncidentBoard.Proofs.Text.Digits

/-!
# End times that are shown

The end of an incident is shown from the cutoff day on, by the calendar and the clock of its zone.
What is shown tells month, day, hour and minute.

## Main definitions

* `Clock`, `Clock.Shows`, `Clock.ofSeconds` — a date and a time of day, and those of a count of
  seconds.
* `Clock.text` — a clock as it is told.
* `Timestamp.read?`, `Timestamp.read?_text` — what the text of a clock tells.
* `EndTime.shown_from_cutoff` — when the end of an incident is shown.
-/

namespace IncidentBoard

/-! ## Clocks -/

/-- A date and a time of day. -/
structure Clock where
  date : Date
  hour : Nat
  minute : Nat
  second : Nat
  deriving DecidableEq

namespace Clock

/-- A clock shows a count of seconds since 1 January 1970. -/
structure Shows (c : Clock) (seconds : Int) : Prop where
  valid : c.date.Valid
  hour : c.hour < 24
  minute : c.minute < 60
  second : c.second < 60
  total : seconds = c.date.dayNumber * 86400 + c.hour * 3600 + c.minute * 60 + c.second

def ofSeconds (seconds : Int) : Clock :=
  ⟨Date.ofDayNumber (seconds / 86400), Timestamp.hourOf seconds, Timestamp.minuteOf seconds,
    (seconds % 60).toNat⟩

theorem shows_ofSeconds (seconds : Int) : (ofSeconds seconds).Shows seconds where
  valid := Date.valid_ofDayNumber _
  hour := by simp only [ofSeconds, Timestamp.hourOf]; omega
  minute := by simp only [ofSeconds, Timestamp.minuteOf]; omega
  second := by simp only [ofSeconds]; omega
  total := by
    simp only [ofSeconds, Timestamp.hourOf, Timestamp.minuteOf, Date.dayNumber_ofDayNumber]
    omega

/-- Only one clock shows a count of seconds. -/
theorem Shows.eq_ofSeconds {c : Clock} {seconds : Int} (shows : c.Shows seconds) :
    c = ofSeconds seconds := by
  obtain ⟨valid, hourRange, minuteRange, secondRange, total⟩ := shows
  obtain ⟨date, hour, minute, second⟩ := c
  dsimp only at valid hourRange minuteRange secondRange total
  have day : seconds / 86400 = date.dayNumber := by omega
  simp only [ofSeconds, Timestamp.hourOf, Timestamp.minuteOf, day, valid.ofDayNumber_dayNumber,
    mk.injEq, true_and]
  omega

/-- Dates are told of the years from 1 to 9999. -/
def InYears (c : Clock) : Prop := 1 ≤ c.date.year ∧ c.date.year ≤ 9999

instance (c : Clock) : Decidable c.InYears := inferInstanceAs (Decidable (_ ∧ _))

/-- The hour as a dial of twelve hours shows it. -/
def dialHour (c : Clock) : Nat := if c.hour % 12 = 0 then 12 else c.hour % 12

def half (c : Clock) : String := if c.hour < 12 then "AM" else "PM"

/-- Month, day, hour on a dial and minute, such as `Nov 14 11:13 PM`. -/
def text (c : Clock) : String :=
  Timestamp.monthName c.date.month ++ " " ++ Date.padded 2 c.date.day ++ " " ++
    toString c.dialHour ++ ":" ++ Date.padded 2 c.minute ++ " " ++ c.half

end Clock

namespace Timestamp

/-! ## Texts of times -/

/-- What the text of a time tells. -/
structure Told where
  month : Nat
  day : Nat
  hour : Nat
  minute : Nat
  deriving DecidableEq

def Told.ofClock (c : Clock) : Told := ⟨c.date.month, c.date.day, c.hour, c.minute⟩

def month? : List Char → Option (Nat × List Char)
  | a :: b :: c :: rest =>
    (((List.range 12).map (· + 1)).find? fun m => (monthName m).toList = [a, b, c]).map (·, rest)
  | _ => none

def twoDigits? : List Char → Option (Nat × List Char)
  | a :: b :: rest =>
    if Json.isDigit a && Json.isDigit b then some (Json.digitsValue [a, b], rest) else none
  | _ => none

/-- The hour on a dial, in digits that do not begin with zero. -/
def dial? (cs : List Char) : Option (Nat × List Char) :=
  let digits := cs.takeWhile Json.isDigit
  let hour := Json.digitsValue digits
  if digits = Nat.toDigits 10 hour ∧ 1 ≤ hour ∧ hour ≤ 12 then some (hour, cs.drop digits.length)
  else none

/-- Whether a half of the day is the afternoon. -/
def afternoon? : List Char → Option Bool
  | ['A', 'M'] => some false
  | ['P', 'M'] => some true
  | _ => none

def mark? (mark : Char) : List Char → Option (List Char)
  | c :: rest => if c = mark then some rest else none
  | [] => none

/-- The hour of a half of the day; the dial says twelve where the half begins. -/
def hourOfDial (dial : Nat) (afternoon : Bool) : Nat := dial % 12 + if afternoon then 12 else 0

/-- What a text tells that is made of the name of a month, a day in two digits, an hour of the dial,
a minute in two digits, and the half of the day. -/
def read? (s : String) : Option Told := do
  let (month, cs) ← month? s.toList
  let (day, cs) ← twoDigits? (← mark? ' ' cs)
  let (dial, cs) ← dial? (← mark? ' ' cs)
  let (minute, cs) ← twoDigits? (← mark? ':' cs)
  let afternoon ← afternoon? (← mark? ' ' cs)
  return ⟨month, day, hourOfDial dial afternoon, minute⟩

theorem month?_monthName {month : Nat} (pos : 1 ≤ month) (le : month ≤ 12) (rest : List Char) :
    month? ((monthName month).toList ++ rest) = some (month, rest) := by
  interval_cases month <;> rfl

theorem twoDigits?_padded {n : Nat} (small : n < 100) (rest : List Char) :
    twoDigits? ((Date.padded 2 n).toList ++ rest) = some (n, rest) := by
  have digits : ∀ n < 100, ∃ a b, (Date.padded 2 n).toList = [a, b] ∧ Json.isDigit a = true ∧
      Json.isDigit b = true ∧ Json.digitsValue [a, b] = n := by
    intro n small
    refine ⟨Nat.digitChar (n / 10), Nat.digitChar (n % 10), ?_⟩
    revert n
    decide
  obtain ⟨a, b, text, tens, ones, value⟩ := digits n small
  simp [text, twoDigits?, tens, ones, value]

theorem dial?_toString {hour : Nat} (pos : 1 ≤ hour) (le : hour ≤ 12) {mark : Char}
    (stop : Json.isDigit mark = false) (rest : List Char) :
    dial? ((toString hour).toList ++ mark :: rest) = some (hour, mark :: rest) := by
  have digits : ∀ c ∈ Nat.toDigits 10 hour, Json.isDigit c = true :=
    fun c member => Json.isDigit_of_mem_toDigits member
  have taken : (Nat.toDigits 10 hour ++ mark :: rest).takeWhile Json.isDigit =
      Nat.toDigits 10 hour := by
    rw [List.takeWhile_append_of_pos digits]
    simp [stop]
  rw [Nat.toString_eq_repr, Nat.toList_repr]
  simp [dial?, taken, Json.digitsValue_toDigits, pos, le]

/-- The hour of the dial at an hour of the day. -/
theorem hourOfDial_shown {hour : Nat} (range : hour < 24) :
    hourOfDial (if hour % 12 = 0 then 12 else hour % 12) (decide (12 ≤ hour)) = hour := by
  revert hour
  decide

/-- The text of a clock tells its month, day, hour and minute. -/
theorem read?_text {c : Clock} {seconds : Int} (shows : c.Shows seconds) :
    read? c.text = some (.ofClock c) := by
  have day : c.date.day < 100 := (shows.valid.day_le.trans (Date.daysInMonth_le _ _)).trans_lt
    (by decide)
  have minute : c.minute < 100 := shows.minute.trans (by decide)
  have dial : 1 ≤ c.dialHour ∧ c.dialHour ≤ 12 := by
    unfold Clock.dialHour
    split <;> omega
  have half : afternoon? c.half.toList = some (decide (12 ≤ c.hour)) := by
    unfold Clock.half
    split
    · rename_i morning
      simp [afternoon?, morning]
    · rename_i later
      simp [afternoon?, Nat.not_lt.1 later]
  have mark (m : Char) (rest : List Char) : mark? m (m :: rest) = some rest := if_pos rfl
  have parts : c.text.toList = (monthName c.date.month).toList ++ ' ' ::
      ((Date.padded 2 c.date.day).toList ++ ' ' :: ((toString c.dialHour).toList ++ ':' ::
        ((Date.padded 2 c.minute).toList ++ ' ' :: c.half.toList))) := by
    simp [Clock.text]
  rw [read?, parts, month?_monthName shows.valid.month_pos shows.valid.month_le]
  simp only [Option.bind_eq_bind, Option.bind_some, mark, twoDigits?_padded day]
  rw [dial?_toString dial.1 dial.2 rfl]
  simp only [Option.bind_some, mark, twoDigits?_padded minute, half]
  rw [Clock.dialHour, hourOfDial_shown shows.hour]
  rfl

theorem text_eq (seconds : Int) : text seconds = (Clock.ofSeconds seconds).text := rfl

/-! ## Counts with a date -/

/-- A count of seconds whose date lies in the years told is near enough to the first day for the
clock that counts in 64 bits. -/
theorem near_of_inYears {seconds : Int} (years : (Clock.ofSeconds seconds).InYears) :
    -clockBound ≤ seconds ∧ seconds < clockBound := by
  obtain ⟨valid, -, -, -, -⟩ := Clock.shows_ofSeconds seconds
  have number : seconds / 86400 = (Clock.ofSeconds seconds).date.dayNumber :=
    (Date.dayNumber_ofDayNumber _).symm
  obtain ⟨first, last⟩ := years
  have month := valid.month_le
  have day := valid.day_le.trans (Date.daysInMonth_le _ _)
  have days : -1000000 ≤ (Clock.ofSeconds seconds).date.dayNumber ∧
      (Clock.ofSeconds seconds).date.dayNumber ≤ 4000000 := by
    unfold Date.dayNumber
    dsimp only
    split <;> split <;> omega
  unfold clockBound
  omega

theorem yearFits_yearOf (seconds : Int) :
    yearFits (yearOf seconds) = true ↔ (Clock.ofSeconds seconds).InYears := by
  rw [yearFits, Bool.and_eq_true, decide_eq_true_iff, decide_eq_true_iff]
  rfl

theorem localTime?_of_inYears {zone : Zone} {seconds : Int}
    (universal : (Clock.ofSeconds seconds).InYears)
    (here : (Clock.ofSeconds (zone.localTime seconds)).InYears) :
    localTime? zone seconds = .ok (zone.localTime seconds) := by
  obtain ⟨after, before⟩ := near_of_inYears universal
  have fits := (yearFits_yearOf seconds).2 universal
  have fitsHere := (yearFits_yearOf _).2 here
  have years : ¬(yearOf seconds - 1900 < -yearBound ∨ yearBound ≤ yearOf seconds - 1900) := by
    obtain ⟨first, last⟩ : 1 ≤ yearOf seconds ∧ yearOf seconds ≤ 9999 := universal
    unfold yearBound
    omega
  rw [localTime?, if_neg (by omega)]
  simp only [years, if_false, fits, Bool.not_true, Bool.false_eq_true, fitsHere, if_true]

theorem localTime?_of_not_inYears {zone : Zone} {seconds : Int}
    (outside : ¬(Clock.ofSeconds seconds).InYears ∨
      ¬(Clock.ofSeconds (zone.localTime seconds)).InYears) :
    ∃ flaw, localTime? zone seconds = .error flaw := by
  rw [← yearFits_yearOf, ← yearFits_yearOf] at outside
  unfold localTime?
  dsimp only
  split_ifs with _ _ universal here
  · exact ⟨_, rfl⟩
  · exact ⟨_, rfl⟩
  · exact ⟨_, rfl⟩
  · rcases outside with no | no
    · exact absurd (by simpa using universal) no
    · exact absurd here no
  · exact ⟨_, rfl⟩

end Timestamp

/-! ## Ends of incidents -/

namespace EndTime

variable {cutoff : Date} {seconds : Int}

/-- A time lies before a day where its date does. -/
theorem before_midnight_iff (real : cutoff.Valid) :
    seconds < cutoff.dayNumber * 86400 ↔ (Clock.ofSeconds seconds).date.Before cutoff := by
  have date : (Clock.ofSeconds seconds).date.dayNumber = seconds / 86400 :=
    Date.dayNumber_ofDayNumber _
  rw [Date.before_iff (Clock.shows_ofSeconds seconds).valid real, date]
  omega

theorem text_ne_placeholder (seconds : Int) : Timestamp.text seconds ≠ placeholder := by
  intro same
  have told := Timestamp.read?_text (Clock.shows_ofSeconds seconds)
  rw [← Timestamp.text_eq, same] at told
  cases told

/-- Active incidents show no end, whatever is stored. For the others universal and local time have
to lie in the years told. The end is then shown if its local date is the cutoff or a later one, and
what is shown tells the local month, day, hour and minute. -/
theorem shown_from_cutoff (x : Incident) (real : cutoff.Valid) (zone : Zone) :
    (x.isActive = true → format x cutoff zone = .ok placeholder) ∧
      (x.isActive = false → ∃ universal here : Clock,
        universal.Shows x.endedAt ∧ here.Shows (zone.localTime x.endedAt) ∧
        (universal.InYears → here.InYears →
          (format x cutoff zone = .ok placeholder ↔ here.date.Before cutoff) ∧
          (¬here.date.Before cutoff → format x cutoff zone = .ok here.text ∧
            Timestamp.read? here.text = some (.ofClock here))) ∧
        (¬universal.InYears ∨ ¬here.InYears →
          ∃ flaw, format x cutoff zone = .error (.foreign (.timestamp flaw)))) := by
  refine ⟨fun active => if_pos active, fun ended => ⟨.ofSeconds x.endedAt,
    .ofSeconds (zone.localTime x.endedAt), Clock.shows_ofSeconds _, Clock.shows_ofSeconds _,
    fun universal here => ?_, fun outside => ?_⟩⟩
  · have shown : format x cutoff zone =
        if (Clock.ofSeconds (zone.localTime x.endedAt)).date.Before cutoff then .ok placeholder
        else .ok (Timestamp.text (zone.localTime x.endedAt)) := by
      simp only [format, ended, Bool.false_eq_true, if_false,
        Timestamp.localTime?_of_inYears universal here, before_midnight_iff real]
    rw [shown]
    refine ⟨⟨fun same => ?_, fun before => if_pos before⟩, fun after =>
      ⟨if_neg after, Timestamp.read?_text (Clock.shows_ofSeconds _)⟩⟩
    by_contra after
    rw [if_neg after] at same
    exact text_ne_placeholder _ (Except.ok.inj same)
  · obtain ⟨flaw, failed⟩ := Timestamp.localTime?_of_not_inYears outside
    exact ⟨flaw, by simp only [format, ended, Bool.false_eq_true, if_false, failed]⟩

/-- A summer night in New York, whose clocks were ahead by an hour from 14 March to 7 November 2021:
the day is already the next one by universal time. -/
theorem shown_from_cutoff_of_summer_night :
    let newYork : Zone := ⟨fun seconds =>
      if 1615705200 ≤ seconds ∧ seconds < 1636264800 then -14400 else -18000⟩
    let x : Incident := { (default : Incident) with isActive := false, endedAt := 1625369400 }
    (⟨2021, 7, 4⟩ : Date).Valid ∧ Clock.ofSeconds x.endedAt = ⟨⟨2021, 7, 4⟩, 3, 30, 0⟩ ∧
      format x ⟨2021, 7, 4⟩ newYork = .ok "--" ∧
      format x ⟨2021, 7, 3⟩ newYork = .ok "Jul 03 11:30 PM" ∧
      Timestamp.read? "Jul 03 11:30 PM" = some ⟨7, 3, 23, 30⟩ := by
  intro newYork x
  have night : Clock.ofSeconds (newYork.localTime x.endedAt) = ⟨⟨2021, 7, 3⟩, 23, 30, 0⟩ := by
    decide
  have fourth : (⟨2021, 7, 4⟩ : Date).Valid := by decide
  have third : (⟨2021, 7, 3⟩ : Date).Valid := by decide
  obtain ⟨universal, here, shows, showsHere, told, -⟩ :=
    (shown_from_cutoff x fourth newYork).2 rfl
  obtain ⟨universal', here', shows', showsHere', told', -⟩ :=
    (shown_from_cutoff x third newYork).2 rfl
  cases shows.eq_ofSeconds
  cases shows'.eq_ofSeconds
  cases showsHere.eq_ofSeconds
  cases showsHere'.eq_ofSeconds
  rw [night] at told told'
  obtain ⟨placeholder, -⟩ := told (by decide) (by decide)
  obtain ⟨-, text⟩ := told' (by decide) (by decide)
  obtain ⟨text, read⟩ := text (by decide)
  exact ⟨fourth, by decide, placeholder.2 (by decide), text, read⟩

end EndTime

end IncidentBoard
