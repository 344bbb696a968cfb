import RevPilot.Library.Separators
import RevPilot.Shared.Temporal
import Mathlib.Data.List.Basic

/-! The text of an instant: three fields between colons, which together determine the
instant. -/
namespace RevPilot.Shared.UtcDateTime
open Library Separators

section calendar

/-- Of a day of an era, the year and the day of the year are in their ranges. -/
theorem dayOfYear_bounds (dayOfEra : Int) {leap century era yearOfEra : Int} (start : 0 ≤ dayOfEra) (finish : dayOfEra < 146097)
    (leaps : leap = dayOfEra / 1460) (centuries : century = dayOfEra / 36524) (eras : era = dayOfEra / 146096)
    (years : yearOfEra = (dayOfEra - leap + century - era) / 365) :
    0 ≤ yearOfEra ∧ yearOfEra < 400 ∧ 0 ≤ dayOfEra - (365 * yearOfEra + yearOfEra / 4 - yearOfEra / 100) ∧
      dayOfEra - (365 * yearOfEra + yearOfEra / 4 - yearOfEra / 100) < 366 := by
  have nonnegative : 0 ≤ yearOfEra := by omega
  have bounded : yearOfEra < 400 := by omega
  have which : century = 0 ∨ century = 1 ∨ century = 2 ∨ century = 3 ∨ century = 4 := by omega
  have near : leap - yearOfEra / 4 = -1 ∨ leap - yearOfEra / 4 = 0 ∨ leap - yearOfEra / 4 = 1 := by omega
  refine ⟨nonnegative,bounded,?_⟩
  rcases which with c | c | c | c | c <;> rcases near with l | l | l <;> (constructor <;> omega)

/-- A day is determined by its year, month and day of the month. -/
theorem civil_injective {a b : Int} (same : civil a = civil b) : a = b := by
  have boundsA := dayOfYear_bounds ((a + 719468) % 146097) (by omega) (by omega) rfl rfl rfl rfl
  have boundsB := dayOfYear_bounds ((b + 719468) % 146097) (by omega) (by omega) rfl rfl rfl rfl
  simp only [civil,Prod.mk.injEq] at same
  obtain ⟨year,month,day⟩ := same
  generalize eraA : (a + 719468) / 146097 = era at *
  generalize eraB : (b + 719468) / 146097 = era' at *
  generalize dayA : (a + 719468) % 146097 = dayOfEra at *
  generalize dayB : (b + 719468) % 146097 = dayOfEra' at *
  generalize (dayOfEra - dayOfEra / 1460 + dayOfEra / 36524 - dayOfEra / 146096) / 365 = yearOfEra at *
  generalize (dayOfEra' - dayOfEra' / 1460 + dayOfEra' / 36524 - dayOfEra' / 146096) / 365 = yearOfEra' at *
  generalize dayOfYearA : dayOfEra - (365 * yearOfEra + yearOfEra / 4 - yearOfEra / 100) = dayOfYear at *
  generalize dayOfYearB : dayOfEra' - (365 * yearOfEra' + yearOfEra' / 4 - yearOfEra' / 100) = dayOfYear' at *
  have months : (5 * dayOfYear + 2) / 153 = (5 * dayOfYear' + 2) / 153 := by
    split at month <;> split at month <;> omega
  have years : yearOfEra = yearOfEra' ∧ era = era' := by
    rw [months] at year
    omega
  have days : dayOfYear = dayOfYear' := by
    rw [months] at day
    omega
  obtain ⟨rfl,rfl⟩ := years
  omega

/-- The dates that `datetime` has. -/
theorem civil_year_bounds {day : Int} (start : -719162 ≤ day) (finish : day ≤ 2932896) :
    1 ≤ (civil day).1 ∧ (civil day).1 ≤ 9999 := by
  simp only [civil]
  split <;> omega

theorem civil_bounds (day : Int) :
    1 ≤ (civil day).2.1 ∧ (civil day).2.1 ≤ 12 ∧ 1 ≤ (civil day).2.2 ∧ (civil day).2.2 ≤ 31 := by
  have bounds := dayOfYear_bounds ((day + 719468) % 146097) (by omega) (by omega) rfl rfl rfl rfl
  simp only [civil]
  generalize (day + 719468) % 146097 = dayOfEra at *
  generalize (dayOfEra - dayOfEra / 1460 + dayOfEra / 36524 - dayOfEra / 146096) / 365 = yearOfEra at *
  generalize dayOfEra - (365 * yearOfEra + yearOfEra / 4 - yearOfEra / 100) = dayOfYear at *
  refine ⟨?_,?_,?_,?_⟩
  · split <;> omega
  · split <;> omega
  · omega
  · omega

end calendar

section digits

theorem padded_toList (width : Nat) (n : Int) :
    ∃ zeros, (padded width n).toList = List.replicate zeros '0' ++ Nat.toDigits 10 n.toNat := by
  refine ⟨width - n.toNat.repr.toList.length,?_⟩
  simp only [padded,String.toList_ofList,Nat.toList_repr]

theorem padded_digit (width : Nat) (n : Int) {c : Char} (inside : c ∈ (padded width n).toList) : c.isDigit = true := by
  obtain ⟨zeros,shape⟩ := padded_toList width n
  rw [shape,List.mem_append] at inside
  rcases inside with zero | digit
  · obtain rfl := List.eq_of_mem_replicate zero
    decide
  · exact Nat.isDigit_of_mem_toDigits (by omega) (by omega) digit

theorem padded_free (width : Nat) (n : Int) {c : Char} (other : c.isDigit = false) : c ∉ (padded width n).toList := by
  intro inside
  rw [padded_digit width n inside] at other
  cases other

theorem padded_injective {width : Nat} {m n : Int} (nonnegM : 0 ≤ m) (nonnegN : 0 ≤ n)
    (same : (padded width m).toList = (padded width n).toList) : m = n := by
  obtain ⟨zerosM,shapeM⟩ := padded_toList width m
  obtain ⟨zerosN,shapeN⟩ := padded_toList width n
  have values := congrArg (Nat.ofDigitChars 10 · 0) same
  simp only [shapeM,shapeN,Nat.ofDigitChars_append,Nat.ofDigitChars_replicate_zero,Nat.mul_zero,
    Nat.ofDigitChars_ten_toDigits] at values
  omega

end digits

section fields
variable (t : UtcDateTime)

/-- The text up to the hour. -/
def hourText : String :=
  let (year,month,day) := civil (t.micros / 86400000000)
  padded 4 year ++ "-" ++ padded 2 month ++ "-" ++ padded 2 day ++ "T" ++ padded 2 (t.micros % 86400000000 / 1000000 / 3600)

def minuteText : String := padded 2 (t.micros % 86400000000 / 1000000 / 60 % 60)

/-- The seconds and their fraction. -/
def secondText : String :=
  padded 2 (t.micros % 86400000000 / 1000000 % 60) ++ "." ++ padded 6 (t.micros % 1000000) ++ "Z"

theorem isoformat_fields : t.isoformat = hourText t ++ ":" ++ minuteText t ++ ":" ++ secondText t := by
  simp only [isoformat,hourText,minuteText,secondText,String.append_assoc]

/-- The characters of the three fields. -/
def isFieldChar (c : Char) : Bool := c.isDigit || ['-','T','.','Z'].contains c

/-- Every character of the text may stand in a field. -/
def Field (s : String) : Prop := ∀ c ∈ s.toList, isFieldChar c = true

theorem field_append {a b : String} (first : Field a) (second : Field b) : Field (a ++ b) := by
  intro c inside
  rw [String.toList_append,List.mem_append] at inside
  rcases inside with left | right
  · exact first c left
  · exact second c right

theorem field_padded (width : Nat) (n : Int) : Field (padded width n) := by
  intro c inside
  simp [isFieldChar,padded_digit width n inside]

theorem field_mark {mark : String} (known : mark.toList.all isFieldChar = true) : Field mark :=
  fun _ inside => List.all_eq_true.mp known _ inside

theorem hourText_field : Field (hourText t) := by
  have dash : Field "-" := field_mark (by decide)
  have letter : Field "T" := field_mark (by decide)
  unfold hourText
  exact field_append (field_append (field_append (field_append (field_append (field_append (field_padded _ _) dash)
    (field_padded _ _)) dash) (field_padded _ _)) letter) (field_padded _ _)

theorem minuteText_field : Field (minuteText t) := field_padded _ _

theorem secondText_field : Field (secondText t) := by
  have point : Field "." := field_mark (by decide)
  have letter : Field "Z" := field_mark (by decide)
  exact field_append (field_append (field_append (field_padded _ _) point) (field_padded _ _)) letter

theorem field_free {s : String} (field : Field s) {c : Char} (other : isFieldChar c = false) : c ∉ s.toList := by
  intro inside
  rw [field c inside] at other
  cases other

theorem isoformat_toList : t.isoformat.toList =
    (hourText t).toList ++ ':' :: ((minuteText t).toList ++ ':' :: (secondText t).toList) := by
  have colon : ":".toList = [':'] := rfl
  simp only [isoformat_fields,String.toList_append,colon,List.append_assoc,List.cons_append,List.nil_append]

end fields

section injective

/-- The instants that `datetime` has. -/
def InRange (t : UtcDateTime) : Prop := minMicros ≤ t.micros ∧ t.micros ≤ maxMicros

variable {t u : UtcDateTime}

theorem hourText_injective (rangeT : InRange t) (rangeU : InRange u) (same : hourText t = hourText u) :
    t.micros / 86400000000 = u.micros / 86400000000 ∧
      t.micros % 86400000000 / 1000000 / 3600 = u.micros % 86400000000 / 1000000 / 3600 := by
  unfold InRange minMicros maxMicros at rangeT rangeU
  have yearT := @civil_year_bounds (t.micros / 86400000000) (by omega) (by omega)
  have yearU := @civil_year_bounds (u.micros / 86400000000) (by omega) (by omega)
  obtain ⟨monthT,-,dayT,-⟩ := civil_bounds (t.micros / 86400000000)
  obtain ⟨monthU,-,dayU,-⟩ := civil_bounds (u.micros / 86400000000)
  have dash : "-".toList = ['-'] := rfl
  have letter : "T".toList = ['T'] := rfl
  have texts := congrArg String.toList same
  simp only [hourText,String.toList_append,dash,letter,List.append_assoc,List.cons_append,List.nil_append] at texts
  have noDash (width : Nat) (n : Int) : '-' ∉ (padded width n).toList := padded_free width n (by decide)
  have noLetter (width : Nat) (n : Int) : 'T' ∉ (padded width n).toList := padded_free width n (by decide)
  obtain ⟨years,texts⟩ := head_unique (noDash _ _) (noDash _ _) texts
  obtain ⟨months,texts⟩ := head_unique (noDash _ _) (noDash _ _) texts
  obtain ⟨days,hours⟩ := head_unique (noLetter _ _) (noLetter _ _) texts
  have year := padded_injective (by omega) (by omega) years
  have month := padded_injective (Int.le_trans (by decide) monthT) (Int.le_trans (by decide) monthU) months
  have day := padded_injective (Int.le_trans (by decide) dayT) (Int.le_trans (by decide) dayU) days
  have hour := padded_injective (by omega) (by omega) hours
  exact ⟨civil_injective (Prod.ext year (Prod.ext month day)),hour⟩

theorem secondText_injective (same : secondText t = secondText u) :
    t.micros % 86400000000 / 1000000 % 60 = u.micros % 86400000000 / 1000000 % 60 ∧
      t.micros % 1000000 = u.micros % 1000000 := by
  have point : ".".toList = ['.'] := rfl
  have letter : "Z".toList = ['Z'] := rfl
  have texts := congrArg String.toList same
  simp only [secondText,String.toList_append,point,letter,List.append_assoc,List.cons_append,List.nil_append] at texts
  have noPoint (width : Nat) (n : Int) : '.' ∉ (padded width n).toList := padded_free width n (by decide)
  have noLetter (width : Nat) (n : Int) : 'Z' ∉ (padded width n).toList := padded_free width n (by decide)
  obtain ⟨seconds,texts⟩ := head_unique (noPoint _ _) (noPoint _ _) texts
  obtain ⟨fractions,_⟩ := head_unique (noLetter _ _) (noLetter _ _) texts
  exact ⟨padded_injective (by omega) (by omega) seconds,padded_injective (by omega) (by omega) fractions⟩

theorem fields_injective (rangeT : InRange t) (rangeU : InRange u) (hours : hourText t = hourText u)
    (minutes : minuteText t = minuteText u) (seconds : secondText t = secondText u) : t = u := by
  obtain ⟨day,hour⟩ := hourText_injective rangeT rangeU hours
  have minute := padded_injective (by omega) (by omega) (congrArg String.toList minutes)
  obtain ⟨second,fraction⟩ := secondText_injective seconds
  have micros : t.micros = u.micros := by omega
  cases t
  cases u
  exact congrArg UtcDateTime.mk micros

/-- The text determines the instant. -/
theorem isoformat_injective (rangeT : InRange t) (rangeU : InRange u) (same : t.isoformat = u.isoformat) : t = u := by
  have texts := congrArg String.toList same
  rw [isoformat_toList,isoformat_toList] at texts
  have noColon {s : String} (field : Field s) : ':' ∉ s.toList := field_free field (by decide)
  obtain ⟨hours,texts⟩ := head_unique (noColon (hourText_field t)) (noColon (hourText_field u)) texts
  obtain ⟨minutes,seconds⟩ := head_unique (noColon (minuteText_field t)) (noColon (minuteText_field u)) texts
  exact fields_injective rangeT rangeU (String.toList_injective hours) (String.toList_injective minutes)
    (String.toList_injective seconds)

/-- The text is found again at the end of a joined one. -/
theorem isoformat_last {x y : List Char} (same : x ++ ':' :: t.isoformat.toList = y ++ ':' :: u.isoformat.toList) :
    x = y ∧ t.isoformat = u.isoformat := by
  have texts := same
  have noColon {s : String} (field : Field s) : ':' ∉ s.toList := field_free field (by decide)
  have nested (z : List Char) (v : UtcDateTime) : z ++ ':' :: v.isoformat.toList =
      ((z ++ ':' :: (hourText v).toList) ++ ':' :: (minuteText v).toList) ++ ':' :: (secondText v).toList := by
    rw [isoformat_toList]
    simp only [List.append_assoc,List.cons_append]
  rw [nested,nested] at texts
  obtain ⟨texts,seconds⟩ := last_unique (noColon (secondText_field t)) (noColon (secondText_field u)) texts
  obtain ⟨texts,minutes⟩ := last_unique (noColon (minuteText_field t)) (noColon (minuteText_field u)) texts
  obtain ⟨before,hours⟩ := last_unique (noColon (hourText_field t)) (noColon (hourText_field u)) texts
  refine ⟨before,?_⟩
  rw [isoformat_fields,isoformat_fields,String.toList_injective hours,String.toList_injective minutes,
    String.toList_injective seconds]

end injective
end RevPilot.Shared.UtcDateTime
