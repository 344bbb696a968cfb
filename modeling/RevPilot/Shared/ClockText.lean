import RevPilot.Library.Text
import RevPilot.Shared.Errors
import RevPilot.Shared.IsoFormat
import Mathlib

/-! The text of a clock, to the second: such texts are ordered as the clocks, and reading one back gives the clock. -/
namespace RevPilot.Shared.UtcDateTime
open Library

section digits

theorem digitChar_lt {m n : Nat} (first : m < 10) (second : n < 10) : m.digitChar < n.digitChar ↔ m < n := by
  have all : ∀ a < 10, ∀ b < 10, (Nat.digitChar a < Nat.digitChar b ↔ a < b) := by decide
  exact all m first n second

theorem digitChar_inj {m n : Nat} (first : m < 10) (second : n < 10) : m.digitChar = n.digitChar ↔ m = n := by
  have all : ∀ a < 10, ∀ b < 10, (Nat.digitChar a = Nat.digitChar b ↔ a = b) := by decide
  exact all m first n second

theorem padded_one {n : Nat} (small : n < 10) : (padded 1 n).toList = [n.digitChar] := by
  simp [padded,Nat.toList_repr,Nat.toDigits_of_lt_base small]

theorem padded_succ (width : Nat) {n : Nat} :
    (padded (width + 2) n).toList = (padded (width + 1) (n / 10 : Nat)).toList ++ [(n % 10).digitChar] := by
  simp only [padded,String.toList_ofList,Nat.toList_repr,Int.toNat_natCast]
  by_cases large : 10 ≤ n
  · rw [Nat.toDigits_of_base_le (by decide) large,List.length_append,List.length_singleton,← List.append_assoc]
    congr 3
    omega
  · have small : n < 10 := by omega
    rw [Nat.div_eq_of_lt small,Nat.mod_eq_of_lt small,Nat.toDigits_zero,Nat.toDigits_of_lt_base small]
    simp [List.replicate_succ']

/-- Padded numbers are ordered as the numbers. -/
theorem padded_append_lt (width : Nat) {m n : Nat} (first : m < 10 ^ (width + 1)) (second : n < 10 ^ (width + 1))
    (x y : List Char) :
    (padded (width + 1) m).toList ++ x < (padded (width + 1) n).toList ++ y ↔ m < n ∨ (m = n ∧ x < y) := by
  induction width generalizing m n x y with
  | zero =>
    rw [padded_one first,padded_one second,List.singleton_append,List.singleton_append,List.cons_lt_cons_iff,
      digitChar_lt first second,digitChar_inj first second]
  | succ width ih =>
    rw [padded_succ,padded_succ,List.append_assoc,List.append_assoc,ih (by omega) (by omega),List.singleton_append,
      List.singleton_append,List.cons_lt_cons_iff,digitChar_lt (by omega) (by omega),digitChar_inj (by omega) (by omega)]
    by_cases after : x < y
    · simp only [after,and_true]
      omega
    · simp only [after,and_false,or_false]
      omega

theorem number_lt (width : Nat) {m n : Int} (startM : 0 ≤ m) (startN : 0 ≤ n) (first : m < 10 ^ (width + 1))
    (second : n < 10 ^ (width + 1)) (x y : List Char) :
    (padded (width + 1) m).toList ++ x < (padded (width + 1) n).toList ++ y ↔ m < n ∨ (m = n ∧ x < y) := by
  lift m to Nat using startM
  lift n to Nat using startN
  rw [padded_append_lt width (by exact_mod_cast first) (by exact_mod_cast second),Int.ofNat_lt,Int.natCast_inj]

theorem mark_lt (mark : Char) (x y : List Char) : mark :: x < mark :: y ↔ x < y := by
  simp

end digits

section calendar

/-- Of a day of an era, the year and the day of that year. -/
def yearOf (dayOfEra : Int) : Int := (dayOfEra - dayOfEra / 1460 + dayOfEra / 36524 - dayOfEra / 146096) / 365

def dayOf (dayOfEra : Int) : Int :=
  dayOfEra - (365 * yearOf dayOfEra + yearOf dayOfEra / 4 - yearOf dayOfEra / 100)

/-- The place of a day in a year that starts in March and has months of 31 days. -/
def placed (day : Int) : Int := 31 * ((5 * day + 2) / 153) + day - (153 * ((5 * day + 2) / 153) + 2) / 5

theorem placed_step (day : Int) : placed day < placed (day + 1) := by
  have months : (5 * (day + 1) + 2) / 153 = (5 * day + 2) / 153 ∨ (5 * (day + 1) + 2) / 153 = (5 * day + 2) / 153 + 1 := by
    omega
  unfold placed
  rcases months with same | next
  · rw [same]
    omega
  · rw [next]
    omega

theorem placed_bounds {day : Int} (start : 0 ≤ day) (finish : day < 366) : 0 ≤ placed day ∧ placed day < 372 := by
  unfold placed
  omega

theorem yearOf_step {dayOfEra : Int} (start : 0 ≤ dayOfEra) (finish : dayOfEra < 146096) :
    yearOf dayOfEra ≤ yearOf (dayOfEra + 1) := by
  unfold yearOf
  apply Int.ediv_le_ediv (by decide)
  omega

/-- The place of a day in years of twelve months of 31 days. -/
def datePlace (day : Int) : Int :=
  let era := (day + 719468) / 146097
  let dayOfEra := (day + 719468) % 146097
  372 * (yearOf dayOfEra + era * 400) + placed (dayOf dayOfEra) + 62

theorem datePlace_civil (day : Int) :
    datePlace day = 372 * (civil day).1 + 31 * ((civil day).2.1 - 1) + ((civil day).2.2 - 1) := by
  simp only [datePlace,civil,yearOf,dayOf,placed]
  split <;> omega

theorem dayOf_bounds {dayOfEra : Int} (start : 0 ≤ dayOfEra) (finish : dayOfEra < 146097) :
    0 ≤ yearOf dayOfEra ∧ yearOf dayOfEra < 400 ∧ 0 ≤ dayOf dayOfEra ∧ dayOf dayOfEra < 366 :=
  dayOfYear_bounds dayOfEra start finish rfl rfl rfl rfl

theorem datePlace_step (day : Int) : datePlace day < datePlace (day + 1) := by
  have here := @dayOf_bounds ((day + 719468) % 146097) (by omega) (by omega)
  have there := @dayOf_bounds ((day + 1 + 719468) % 146097) (by omega) (by omega)
  have placedHere := placed_bounds here.2.2.1 here.2.2.2
  have placedThere := placed_bounds there.2.2.1 there.2.2.2
  unfold datePlace
  by_cases last : (day + 719468) % 146097 = 146096
  · have era : (day + 1 + 719468) / 146097 = (day + 719468) / 146097 + 1 := by omega
    simp only [era]
    omega
  · have era : (day + 1 + 719468) / 146097 = (day + 719468) / 146097 := by omega
    have next : (day + 1 + 719468) % 146097 = (day + 719468) % 146097 + 1 := by omega
    have year := @yearOf_step ((day + 719468) % 146097) (by omega) (by omega)
    simp only [era,next] at there placedThere ⊢
    rcases year.lt_or_eq with later | same
    · omega
    · have following : dayOf ((day + 719468) % 146097 + 1) = dayOf ((day + 719468) % 146097) + 1 := by
        simp only [dayOf,← same]
        omega
      have step := placed_step (dayOf ((day + 719468) % 146097))
      rw [following,← same]
      omega

theorem datePlace_strictMono : StrictMono datePlace := strictMono_int_of_lt_succ datePlace_step

theorem civil_lt (a b : Int) (after : Prop) :
    ((civil a).1 < (civil b).1 ∨ (civil a).1 = (civil b).1 ∧ ((civil a).2.1 < (civil b).2.1 ∨
      (civil a).2.1 = (civil b).2.1 ∧ ((civil a).2.2 < (civil b).2.2 ∨ (civil a).2.2 = (civil b).2.2 ∧ after))) ↔
      a < b ∨ (a = b ∧ after) := by
  have boundsA := civil_bounds a
  have boundsB := civil_bounds b
  have less := datePlace_strictMono.lt_iff_lt (a := a) (b := b)
  have same := datePlace_strictMono.injective.eq_iff (a := a) (b := b)
  rw [← less,← same,datePlace_civil,datePlace_civil]
  by_cases holds : after
  · simp only [holds,and_true]
    omega
  · simp only [holds,and_false,or_false]
    omega

theorem time_lt {s t : Int} {after : Prop} :
    (s / 3600 < t / 3600 ∨ s / 3600 = t / 3600 ∧ (s / 60 % 60 < t / 60 % 60 ∨
      s / 60 % 60 = t / 60 % 60 ∧ (s % 60 < t % 60 ∨ s % 60 = t % 60 ∧ after))) ↔ s < t ∨ (s = t ∧ after) := by
  by_cases holds : after
  · simp only [holds,and_true]
    omega
  · simp only [holds,and_false,or_false]
    omega

end calendar

/-- `strftime("%Y-%m-%dT%H:%M:%S")` of a clock, in seconds from the epoch. -/
def clockText (clock : Int) : String :=
  let (year,month,day) := civil (clock / 86400)
  let seconds := clock % 86400
  padded 4 year ++ "-" ++ padded 2 month ++ "-" ++ padded 2 day ++ "T" ++ padded 2 (seconds / 3600) ++ ":" ++
    padded 2 (seconds / 60 % 60) ++ ":" ++ padded 2 (seconds % 60)

/-- The clocks that `datetime` has. -/
def ClockRange (clock : Int) : Prop := -62135596800 ≤ clock ∧ clock ≤ 253402300799

/-- Texts that begin with a clock are ordered by their clocks and then by what follows. -/
theorem clockText_lt {a b : Int} (rangeA : ClockRange a) (rangeB : ClockRange b) (x y : List Char) :
    (clockText a).toList ++ x < (clockText b).toList ++ y ↔ a < b ∨ (a = b ∧ x < y) := by
  unfold ClockRange at rangeA rangeB
  have yearA := @civil_year_bounds (a / 86400) (by omega) (by omega)
  have yearB := @civil_year_bounds (b / 86400) (by omega) (by omega)
  have partsA := civil_bounds (a / 86400)
  have partsB := civil_bounds (b / 86400)
  have dates := civil_lt (a / 86400) (b / 86400)
  have dash : "-".toList = ['-'] := rfl
  have letter : "T".toList = ['T'] := rfl
  have colon : ":".toList = [':'] := rfl
  simp only [clockText,String.toList_append,dash,letter,colon,List.append_assoc,List.cons_append,List.nil_append]
  generalize civil (a / 86400) = dateA at *
  generalize civil (b / 86400) = dateB at *
  obtain ⟨year,month,day⟩ := dateA
  obtain ⟨year',month',day'⟩ := dateB
  simp only at yearA yearB partsA partsB dates ⊢
  rw [number_lt 3 (by omega) (by omega) (by omega) (by omega),mark_lt,
    number_lt 1 (by omega) (by omega) (by omega) (by omega),mark_lt,
    number_lt 1 (by omega) (by omega) (by omega) (by omega),mark_lt,
    number_lt 1 (by omega) (by omega) (by omega) (by omega),mark_lt,
    number_lt 1 (by omega) (by omega) (by omega) (by omega),mark_lt,
    number_lt 1 (by omega) (by omega) (by omega) (by omega),dates,time_lt]
  by_cases after : x < y
  · simp only [after,and_true]
    omega
  · simp only [after,and_false,or_false]
    omega

theorem isoformat_clock (t : UtcDateTime) :
    t.isoformat = clockText (t.micros / 1000000) ++ ("." ++ padded 6 (t.micros % 1000000) ++ "Z") := by
  have day : t.micros / 86400000000 = t.micros / 1000000 / 86400 := by omega
  have seconds : t.micros % 86400000000 / 1000000 = t.micros / 1000000 % 86400 := by omega
  simp only [isoformat,clockText,day,seconds,String.append_assoc]

theorem clockRange_of_inRange {t : UtcDateTime} (range : InRange t) : ClockRange (t.micros / 1000000) := by
  unfold InRange minMicros maxMicros at range
  unfold ClockRange
  omega

theorem isoformat_lt {t u : UtcDateTime} (rangeT : InRange t) (rangeU : InRange u) : t.isoformat < u.isoformat ↔ t < u := by
  have texts (v : UtcDateTime) : v.isoformat.toList =
      (clockText (v.micros / 1000000)).toList ++ '.' :: ((padded 6 (v.micros % 1000000)).toList ++ ['Z']) := by
    have point : ".".toList = ['.'] := rfl
    have letter : "Z".toList = ['Z'] := rfl
    simp only [isoformat_clock,String.toList_append,point,letter,List.cons_append,List.nil_append]
  rw [String.lt_iff,texts,texts,clockText_lt (clockRange_of_inRange rangeT) (clockRange_of_inRange rangeU),mark_lt,
    number_lt 5 (by omega) (by omega) (by omega) (by omega)]
  have none : ¬ ['Z'] < ['Z'] := by decide
  simp only [none,and_false,or_false]
  show _ ↔ t.micros < u.micros
  omega

section reading

/-- The days from the epoch to a date. -/
def dayOfCivil (date : Int × Int × Int) : Int :=
  let (year,month,day) := date
  let shifted := if month ≤ 2 then year - 1 else year
  let yearOfEra := shifted % 400
  let dayOfYear := (153 * (if 2 < month then month - 3 else month + 9) + 2) / 5 + day - 1
  shifted / 400 * 146097 + (yearOfEra * 365 + yearOfEra / 4 - yearOfEra / 100 + dayOfYear) - 719468

/-- A number of so many digits, and what follows it. -/
def readNumber (width : Nat) (cs : List Char) : Option (Nat × List Char) :=
  if (cs.take width).length = width ∧ (cs.take width).all Char.isDigit then
    some (Nat.ofDigitChars 10 (cs.take width) 0,cs.drop width)
  else none

def readMark (mark : Char) : List Char → Option (List Char)
  | [] => none
  | c :: cs => if c = mark then some cs else none

/-- A fraction, of which six digits count. -/
def readFraction : List Char → Option (Nat × List Char)
  | [] => some (0,[])
  | c :: cs =>
    if c = '.' ∨ c = ',' then
      let digits := cs.takeWhile Char.isDigit
      if digits = [] then none
      else some (Nat.ofDigitChars 10 ((digits ++ List.replicate 6 '0').take 6) 0,cs.dropWhile Char.isDigit)
    else some (0,c :: cs)

structure ClockFields where
  hour : Nat
  minute : Nat := 0
  second : Nat := 0
  micro : Nat := 0

def ClockFields.micros (f : ClockFields) : Int := ((f.hour * 60 + f.minute) * 60 + f.second) * 1000000 + f.micro

/-- `HH[:MM[:SS[.f+]]]`. -/
def readClock (cs : List Char) : Option (ClockFields × List Char) := do
  let (hour,cs) ← readNumber 2 cs
  match readMark ':' cs with
  | none => return ({ hour := hour },cs)
  | some cs =>
    let (minute,cs) ← readNumber 2 cs
    match readMark ':' cs with
    | none => return ({ hour := hour, minute := minute },cs)
    | some cs =>
      let (second,cs) ← readNumber 2 cs
      let (micro,cs) ← readFraction cs
      return ({ hour := hour, minute := minute, second := second, micro := micro },cs)

/-- Nothing, `Z`, or a signed clock, in microseconds. -/
def readOffset : List Char → Option (Option Int)
  | [] => some none
  | c :: cs =>
    if c = 'Z' ∧ cs = [] then some (some 0)
    else if c = '+' ∨ c = '-' then
      match readClock cs with
      | some (f,[]) => some (some (if c = '-' then -f.micros else f.micros))
      | _ => none
    else none

def readDate (cs : List Char) : Option ((Int × Int × Int) × List Char) := do
  let (year,cs) ← readNumber 4 cs
  let cs ← readMark '-' cs
  let (month,cs) ← readNumber 2 cs
  let cs ← readMark '-' cs
  let (day,cs) ← readNumber 2 cs
  return ((year,month,day),cs)

/-- `YYYY-MM-DD*HH[:MM[:SS[.f+]]][+HH[:MM[:SS[.f+]]]]`, with any character for the star. -/
def readExtended (cs : List Char) : Option ((Int × Int × Int) × ClockFields × Option Int) := do
  let (date,cs) ← readDate cs
  match cs with
  | [] => return (date,{ hour := 0 },none)
  | _ :: cs =>
    let (clock,cs) ← readClock cs
    let offset ← readOffset cs
    return (date,clock,offset)

/-- The microseconds of a clock and those it is ahead of UTC by, if it says. -/
structure IsoStamp where
  naive : Int
  offset : Option Int

/-- The stamp of fields that are a date, a time and an offset; `none` is a `ValueError`. -/
def stampOf (date : Int × Int × Int) (clock : ClockFields) (offset : Option Int) : Option IsoStamp :=
  if 1 ≤ date.1 ∧ civil (dayOfCivil date) = date ∧ clock.hour < 24 ∧ clock.minute < 60 ∧ clock.second < 60 ∧
      offset.all (fun o => decide (|o| < 86400000000)) then
    some ⟨dayOfCivil date * 86400000000 + clock.micros,offset⟩
  else none

/-- `datetime.fromisoformat`; `other` reads the basic and the week formats. -/
def fromisoformat (other : String → Option IsoStamp) (text : String) : Option IsoStamp :=
  match readExtended text.toList with
  | some (date,clock,offset) => stampOf date clock offset
  | none => other text

def fromIso (other : String → Option IsoStamp) (isoStr : String) : Except PyError UtcDateTime :=
  let stripped := Text.strip isoStr
  let cleaned := if Text.endsWith stripped "Z" || Text.endsWith stripped "z" then
      String.ofList (stripped.toList.dropLast ++ ['+','0','0',':','0','0'])
    else stripped
  match fromisoformat other cleaned with
  | some ⟨naive,some offset⟩ =>
    if minMicros ≤ naive - offset ∧ naive - offset ≤ maxMicros then .ok ⟨naive - offset⟩ else .error .overflowError
  | _ => .error .valueError

end reading

section roundTrip

theorem dayOfCivil_civil (day : Int) : dayOfCivil (civil day) = day := by
  have parts : day + 719468 = (day + 719468) / 146097 * 146097 + (day + 719468) % 146097 := by omega
  obtain ⟨start,finish,first,last⟩ := @dayOf_bounds ((day + 719468) % 146097) (by omega) (by omega)
  have place : (day + 719468) % 146097 = 365 * yearOf ((day + 719468) % 146097) + yearOf ((day + 719468) % 146097) / 4 -
      yearOf ((day + 719468) % 146097) / 100 + dayOf ((day + 719468) % 146097) := by
    unfold dayOf
    omega
  have shape : civil day = (yearOf ((day + 719468) % 146097) + (day + 719468) / 146097 * 400 +
      (if (5 * dayOf ((day + 719468) % 146097) + 2) / 153 < 10 then 0 else 1),
      (if (5 * dayOf ((day + 719468) % 146097) + 2) / 153 < 10 then (5 * dayOf ((day + 719468) % 146097) + 2) / 153 + 3
        else (5 * dayOf ((day + 719468) % 146097) + 2) / 153 - 9),
      dayOf ((day + 719468) % 146097) - (153 * ((5 * dayOf ((day + 719468) % 146097) + 2) / 153) + 2) / 5 + 1) := rfl
  rw [shape]
  generalize (day + 719468) / 146097 = era at *
  generalize (day + 719468) % 146097 = dayOfEra at *
  generalize yearOf dayOfEra = year at *
  generalize dayOf dayOfEra = dayOfYear at *
  simp only [dayOfCivil]
  by_cases spring : (5 * dayOfYear + 2) / 153 < 10
  · rw [if_pos spring,if_pos spring,if_neg (by omega),if_pos (by omega)]
    omega
  · rw [if_neg spring,if_neg spring,if_pos (by omega),if_neg (by omega)]
    omega

theorem padded_length (width : Nat) {n : Nat} (small : n < 10 ^ (width + 1)) : (padded (width + 1) n).toList.length = width + 1 := by
  induction width generalizing n with
  | zero => rw [padded_one (by omega),List.length_singleton]
  | succ width ih => rw [padded_succ,List.length_append,ih (by omega),List.length_singleton]

theorem padded_value (width : Nat) (n : Nat) : Nat.ofDigitChars 10 (padded width n).toList 0 = n := by
  obtain ⟨zeros,shape⟩ := padded_toList width n
  rw [shape,Nat.ofDigitChars_append,Nat.ofDigitChars_replicate_zero,Nat.mul_zero,Nat.ofDigitChars_ten_toDigits,
    Int.toNat_natCast]

theorem padded_all (width : Nat) (n : Int) : (padded width n).toList.all Char.isDigit = true :=
  List.all_eq_true.mpr (fun _ inside => padded_digit width n inside)

/-- A padded number is read back. -/
theorem readNumber_padded (width : Nat) {n : Nat} (small : n < 10 ^ (width + 1)) (rest : List Char) :
    readNumber (width + 1) ((padded (width + 1) n).toList ++ rest) = some (n,rest) := by
  have size := padded_length width small
  have front : ((padded (width + 1) n).toList ++ rest).take (width + 1) = (padded (width + 1) n).toList :=
    List.take_left' size
  have back : ((padded (width + 1) n).toList ++ rest).drop (width + 1) = rest := List.drop_left' size
  rw [readNumber,front,back,if_pos ⟨size,padded_all _ _⟩,padded_value]

theorem readMark_self (mark : Char) (rest : List Char) : readMark mark (mark :: rest) = some rest := if_pos rfl

theorem readFraction_padded {n : Nat} (small : n < 10 ^ 6) {rest : List Char} (stop : ∀ c ∈ rest.head?, c.isDigit = false) :
    readFraction ('.' :: ((padded 6 n).toList ++ rest)) = some (n,rest) := by
  have size : (padded 6 n).toList.length = 6 := padded_length 5 small
  have digits : ∀ c ∈ (padded 6 n).toList, c.isDigit = true := fun _ inside => padded_digit 6 n inside
  have ends : rest.takeWhile Char.isDigit = [] ∧ rest.dropWhile Char.isDigit = rest := by
    cases rest with
    | nil => exact ⟨rfl,rfl⟩
    | cons c rest =>
      have other := stop c rfl
      exact ⟨List.takeWhile_cons_of_neg (by simp [other]),List.dropWhile_cons_of_neg (by simp [other])⟩
  have filled : (padded 6 n).toList ≠ [] := by
    intro none
    rw [none] at size
    cases size
  have six : ((padded 6 n).toList ++ List.replicate 6 '0').take 6 = (padded 6 n).toList := List.take_left' size
  rw [readFraction,if_pos (.inl rfl),List.takeWhile_append_of_pos digits,List.dropWhile_append_of_pos digits,ends.1,ends.2,List.append_nil]
  dsimp only
  rw [if_neg filled,six,padded_value]

/-- The fields of a clock are read back. -/
theorem readClock_padded {h m s f : Nat} (hour : h < 100) (minute : m < 100) (second : s < 100) (micro : f < 10 ^ 6)
    {rest : List Char} (stop : ∀ c ∈ rest.head?, c.isDigit = false) :
    readClock ((padded 2 h).toList ++ ':' :: ((padded 2 m).toList ++ ':' :: ((padded 2 s).toList ++
      '.' :: ((padded 6 f).toList ++ rest)))) = some (⟨h,m,s,f⟩,rest) := by
  unfold readClock
  rw [readNumber_padded 1 hour]
  simp only [Option.bind_eq_bind,Option.bind_some,readMark_self]
  rw [readNumber_padded 1 minute]
  simp only [Option.bind_some,readMark_self]
  rw [readNumber_padded 1 second]
  simp only [Option.bind_some]
  rw [readFraction_padded micro stop]
  rfl

theorem readDate_padded {y m d : Nat} (year : y < 10000) (month : m < 100) (day : d < 100) (rest : List Char) :
    readDate ((padded 4 y).toList ++ '-' :: ((padded 2 m).toList ++ '-' :: ((padded 2 d).toList ++ rest))) =
      some (((y : Int),(m : Int),(d : Int)),rest) := by
  unfold readDate
  rw [readNumber_padded 3 year]
  simp only [Option.bind_eq_bind,Option.bind_some,readMark_self]
  rw [readNumber_padded 1 month]
  simp only [Option.bind_some,readMark_self]
  rw [readNumber_padded 1 day]
  rfl

/-- The year has four digits. -/
def FourDigitYear (t : UtcDateTime) : Prop :=
  1000 ≤ (civil (t.micros / 86400000000)).1 ∧ (civil (t.micros / 86400000000)).1 ≤ 9999

theorem inRange_of_year {t : UtcDateTime} (year : FourDigitYear t) : InRange t := by
  obtain ⟨low,high⟩ := year
  have place := datePlace_civil (t.micros / 86400000000)
  obtain ⟨month,month',day,day'⟩ := civil_bounds (t.micros / 86400000000)
  have first : datePlace (-719162) = 372 := by decide
  have last : datePlace 2932896 = 372 * 9999 + 371 := by decide
  have after : -719162 ≤ t.micros / 86400000000 := by
    by_contra before
    have less := datePlace_strictMono (not_le.mp before)
    omega
  have before : t.micros / 86400000000 ≤ 2932896 := by
    by_contra after
    have less := datePlace_strictMono (not_le.mp after)
    omega
  unfold InRange minMicros maxMicros
  omega

/-- The text up to its `Z`. -/
def stampChars (t : UtcDateTime) : List Char :=
  let (year,month,day) := civil (t.micros / 86400000000)
  let seconds := t.micros % 86400000000 / 1000000
  (padded 4 year).toList ++ '-' :: ((padded 2 month).toList ++ '-' :: ((padded 2 day).toList ++ 'T' ::
    ((padded 2 (seconds / 3600)).toList ++ ':' :: ((padded 2 (seconds / 60 % 60)).toList ++ ':' ::
      ((padded 2 (seconds % 60)).toList ++ '.' :: (padded 6 (t.micros % 1000000)).toList)))))

theorem isoformat_chars (t : UtcDateTime) : t.isoformat.toList = stampChars t ++ ['Z'] := by
  have dash : "-".toList = ['-'] := rfl
  have letter : "T".toList = ['T'] := rfl
  have colon : ":".toList = [':'] := rfl
  have point : ".".toList = ['.'] := rfl
  have zulu : "Z".toList = ['Z'] := rfl
  simp only [isoformat,stampChars,String.toList_append,dash,letter,colon,point,zulu,List.append_assoc,List.cons_append,
    List.nil_append]

theorem isSpace_digit {c : Char} (digit : c.isDigit = true) : Text.isSpace c = false := by
  have low : 48 ≤ c.toNat := by
    simp only [Char.isDigit,Bool.and_eq_true,decide_eq_true_eq] at digit
    exact digit.1
  have high : c.toNat ≤ 57 := by
    simp only [Char.isDigit,Bool.and_eq_true,decide_eq_true_eq] at digit
    exact digit.2
  simp only [Text.isSpace,Bool.or_eq_false_iff,Bool.and_eq_false_iff,beq_eq_false_iff_ne,decide_eq_false_iff_not]
  omega

theorem isSpace_field {c : Char} (field : isFieldChar c = true) : Text.isSpace c = false := by
  rw [isFieldChar,Bool.or_eq_true] at field
  rcases field with digit | mark
  · exact isSpace_digit digit
  · have tested : (['-','T','.','Z'] : List Char).all (fun c => decide (Text.isSpace c = false)) = true := rfl
    exact Text.chars_of_all tested c (by simpa using mark)

theorem strip_isoformat (t : UtcDateTime) : Text.strip t.isoformat = t.isoformat := by
  refine Text.strip_eq_self _ ?_
  intro c inside
  rw [isoformat_toList,List.mem_append,List.mem_cons,List.mem_append,List.mem_cons] at inside
  rcases inside with hour | rfl | minute | rfl | second
  · exact isSpace_field (hourText_field t c hour)
  · decide
  · exact isSpace_field (minuteText_field t c minute)
  · decide
  · exact isSpace_field (secondText_field t c second)

theorem readExtended_stamp {t : UtcDateTime} (range : InRange t) :
    readExtended (stampChars t ++ ['+','0','0',':','0','0']) =
      some (civil (t.micros / 86400000000),⟨(t.micros % 86400000000 / 1000000 / 3600).toNat,
        (t.micros % 86400000000 / 1000000 / 60 % 60).toNat,(t.micros % 86400000000 / 1000000 % 60).toNat,
        (t.micros % 1000000).toNat⟩,some 0) := by
  unfold InRange minMicros maxMicros at range
  obtain ⟨year,year'⟩ := @civil_year_bounds (t.micros / 86400000000) (by omega) (by omega)
  obtain ⟨month,month',day,day'⟩ := civil_bounds (t.micros / 86400000000)
  have stop : ∀ c ∈ (['+','0','0',':','0','0'] : List Char).head?, c.isDigit = false := by
    rintro c ⟨⟩
    decide
  have clock := readClock_padded (h := (t.micros % 86400000000 / 1000000 / 3600).toNat)
    (m := (t.micros % 86400000000 / 1000000 / 60 % 60).toNat) (s := (t.micros % 86400000000 / 1000000 % 60).toNat)
    (f := (t.micros % 1000000).toNat) (by omega) (by omega) (by omega) (by omega) stop
  rw [Int.toNat_of_nonneg (by omega),Int.toNat_of_nonneg (by omega),Int.toNat_of_nonneg (by omega),
    Int.toNat_of_nonneg (by omega)] at clock
  have date := readDate_padded (y := (civil (t.micros / 86400000000)).1.toNat)
    (m := (civil (t.micros / 86400000000)).2.1.toNat) (d := (civil (t.micros / 86400000000)).2.2.toNat)
    (by omega) (by omega) (by omega)
  rw [Int.toNat_of_nonneg (by omega),Int.toNat_of_nonneg (by omega),Int.toNat_of_nonneg (by omega)] at date
  have offset : readOffset ['+','0','0',':','0','0'] = some (some 0) := rfl
  unfold stampChars readExtended
  simp only [List.append_assoc,List.cons_append]
  rw [date]
  simp only [Option.bind_eq_bind,Option.bind_some]
  rw [clock]
  simp only [Option.bind_some]
  rw [offset]
  rfl

theorem fromIso_isoformat (other : String → Option IsoStamp) {t : UtcDateTime} (range : InRange t) :
    fromIso other t.isoformat = .ok t := by
  have zulu : Text.endsWith t.isoformat "Z" = true := by
    rw [Text.endsWith,List.isSuffixOf_iff_suffix,isoformat_chars]
    exact ⟨stampChars t,rfl⟩
  have cleaned : t.isoformat.toList.dropLast = stampChars t := by rw [isoformat_chars,List.dropLast_concat]
  have fields := readExtended_stamp range
  have bounds := range
  unfold InRange minMicros maxMicros at bounds
  have year := @civil_year_bounds (t.micros / 86400000000) (by omega) (by omega)
  have stamp : fromisoformat other (String.ofList (stampChars t ++ ['+','0','0',':','0','0'])) = some ⟨t.micros,some 0⟩ := by
    have naive : t.micros / 86400000000 * 86400000000 + ClockFields.micros ⟨(t.micros % 86400000000 / 1000000 / 3600).toNat,
        (t.micros % 86400000000 / 1000000 / 60 % 60).toNat,(t.micros % 86400000000 / 1000000 % 60).toNat,
        (t.micros % 1000000).toNat⟩ = t.micros := by
      simp only [ClockFields.micros]
      omega
    rw [fromisoformat,String.toList_ofList,fields]
    dsimp only
    rw [stampOf,dayOfCivil_civil,if_pos ⟨year.1,rfl,by dsimp only; omega,by dsimp only; omega,by dsimp only; omega,by decide⟩,naive]
  unfold fromIso
  rw [strip_isoformat]
  dsimp only
  rw [zulu,Bool.true_or,if_pos rfl,cleaned,stamp]
  dsimp only
  rw [Int.sub_zero]
  exact if_pos range

/-- Instants with years of four digits are read back from their texts, which are ordered as they are. -/
theorem isoformat_faithful (other : String → Option IsoStamp) (t u : UtcDateTime) (yearT : FourDigitYear t)
    (yearU : FourDigitYear u) : fromIso other t.isoformat = .ok t ∧ (t.isoformat < u.isoformat ↔ t < u) :=
  ⟨fromIso_isoformat other (inRange_of_year yearT),isoformat_lt (inRange_of_year yearT) (inRange_of_year yearU)⟩

/-- The last microsecond of a leap day and the one after it. -/
theorem leapDay_faithful :
    fromIso (fun _ => none) (isoformat ⟨1709251199999999⟩) = .ok ⟨1709251199999999⟩ ∧
      (isoformat ⟨1709251199999999⟩ < isoformat ⟨1709251200000000⟩ ↔
        (⟨1709251199999999⟩ : UtcDateTime) < ⟨1709251200000000⟩) :=
  isoformat_faithful (fun _ => none) ⟨1709251199999999⟩ ⟨1709251200000000⟩ ⟨by decide,by decide⟩ ⟨by decide,by decide⟩

end roundTrip

end RevPilot.Shared.UtcDateTime
