import Mathlib.Order.Basic

/-! `UtcDateTime`: an instant of the proleptic calendar, in microseconds from
the Unix epoch. -/
namespace RevPilot.Shared

structure UtcDateTime where
  micros : Int
  deriving DecidableEq

namespace UtcDateTime

instance : LE UtcDateTime := ⟨fun a b => a.micros ≤ b.micros⟩

instance : LT UtcDateTime := ⟨fun a b => a.micros < b.micros⟩

instance (a b : UtcDateTime) : Decidable (a ≤ b) := inferInstanceAs (Decidable (a.micros ≤ b.micros))

instance (a b : UtcDateTime) : Decidable (a < b) := inferInstanceAs (Decidable (a.micros < b.micros))

/-- `datetime.min` and `datetime.max`. -/
def minMicros : Int := -62135596800000000

def maxMicros : Int := 253402300799999999

/-- `t + timedelta(seconds=n)`; no result is an `OverflowError`. -/
def plusSeconds (t : UtcDateTime) (seconds : Int) : Option UtcDateTime :=
  let sum := t.micros + seconds * 1000000
  if minMicros ≤ sum ∧ sum ≤ maxMicros then some ⟨sum⟩ else none

def plusHours (t : UtcDateTime) (hours : Int) : Option UtcDateTime := t.plusSeconds (hours * 3600)

/-- Year, month and day of a day counted from the Unix epoch. -/
def civil (day : Int) : Int × Int × Int :=
  let shifted := day + 719468
  let era := shifted / 146097
  let dayOfEra := shifted % 146097
  let yearOfEra := (dayOfEra - dayOfEra / 1460 + dayOfEra / 36524 - dayOfEra / 146096) / 365
  let dayOfYear := dayOfEra - (365 * yearOfEra + yearOfEra / 4 - yearOfEra / 100)
  let month := (5 * dayOfYear + 2) / 153
  (yearOfEra + era * 400 + (if month < 10 then 0 else 1),if month < 10 then month + 3 else month - 9,
    dayOfYear - (153 * month + 2) / 5 + 1)

def padded (width : Nat) (n : Int) : String :=
  let digits := n.toNat.repr.toList
  String.ofList (List.replicate (width - digits.length) '0' ++ digits)

/-- `strftime("%Y-%m-%dT%H:%M:%S.%fZ")`, which is also `str`. -/
def isoformat (t : UtcDateTime) : String :=
  let (year,month,day) := civil (t.micros / 86400000000)
  let seconds := t.micros % 86400000000 / 1000000
  padded 4 year ++ "-" ++ padded 2 month ++ "-" ++ padded 2 day ++ "T" ++ padded 2 (seconds / 3600) ++ ":" ++
    padded 2 (seconds / 60 % 60) ++ ":" ++ padded 2 (seconds % 60) ++ "." ++ padded 6 (t.micros % 1000000) ++ "Z"

example : isoformat ⟨1709251199000001⟩ = "2024-02-29T23:59:59.000001Z" := by decide +kernel

end UtcDateTime
end RevPilot.Shared
