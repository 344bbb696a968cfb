import RevPilot.Shared.Errors
import RevPilot.Shared.Identifiers
import RevPilot.Shared.Temporal
import RevPilot.Library.Decimal
import RevPilot.Library.Rounding

/-! Interventions, the budget ledger and the request of one constraint check.
Amounts are of any type of money. -/
namespace RevPilot.Constraints
open Library Shared

inductive RiskTier : Type
  | low | medium | high
  deriving DecidableEq

structure CandidateIntervention (Money : Type) where
  candidateId : String
  name : String
  actionType : String
  estimatedCostUsd : Money
  eligibleTiers : List String
  maxFrequencyDays : Nat
  riskTier : RiskTier
  deriving DecidableEq

structure BudgetLedgerEntry (Money : Type) where
  tenantId : TenantId
  ledgerDate : String
  totalAllocatedUsd : Money
  committedExpenditureUsd : Money
  remainingBalanceUsd : Money
  version : Nat
  deriving DecidableEq

structure ConstraintEvaluatorRequest (Money : Type) where
  tenantId : TenantId
  customerId : String
  customerTier : String
  intervention : CandidateIntervention Money
  currentTime : UtcDateTime
  budgetLedger : BudgetLedgerEntry Money
  activeCapacityCount : Nat := 0
  maxCapacityLimit : Nat := 10
  customerHistoryTimestamps : List UtcDateTime := []
  quarterlyHistoryTimestamps : List UtcDateTime := []
  maxQuarterlyFrequency : Nat := 3
  customerOptOut : Bool := false
  isExcluded : Bool := false
  incidentTreatedCount : Nat := 0
  maxBlastRadius : Nat := 500
  featureTimestamp : UtcDateTime
  maxFeatureStalenessHours : Nat := 24

structure ConstraintEvaluationOutcome where
  isEligible : Bool
  passedConstraints : List String
  violatedConstraints : List String
  evaluatedAt : UtcDateTime

def constraintViolationError (code message : String) (details : List (PyKey × PyValue) := []) : DomainError where
  code := code
  message := message
  details := details

end RevPilot.Constraints

/-! The decimal and float arithmetic that the constraint checks and the decision
engine compute with, and its instance in which amounts are exact rationals. -/
namespace RevPilot.Constraints
open Library Shared

structure Numerics (Money Real : Type) where
  /-- A decimal literal. -/
  literal : Decimal → Money
  zero : Real
  /-- `float(d)`. -/
  float : Money → Real
  /-- `Decimal(str(x))`. -/
  decimal : Real → Money
  neg : Real → Real
  times : Real → Real → Real
  /-- `round(x, n)` of a float. -/
  roundReal : Real → Nat → Real
  mul : Money → Money → Except PyError Money
  sub : Money → Money → Except PyError Money
  /-- `round(d, n)` of a decimal. -/
  round : Money → Nat → Except PyError Money
  lt : Money → Money → Except PyError Bool
  le : Money → Money → Except PyError Bool
  /-- What a decimal field of a record accepts. -/
  accepts : Money → Bool

/-- `x` rounded to `n` decimal places, a tie to the even one. -/
def roundTo (x : ℚ) (n : Nat) : ℚ :=
  let scaled := |x| * 10 ^ n
  (if x < 0 then -1 else 1) * halfEven scaled.num.natAbs scaled.den / 10 ^ n

def exactRationals : Numerics ℚ ℚ where
  literal d := match d with
    | .finite negative coefficient exponent => Decimal.finiteValue negative coefficient exponent
    | _ => 0
  zero := 0
  float := id
  decimal := id
  neg x := -x
  times x y := x * y
  roundReal := roundTo
  mul x y := .ok (x * y)
  sub x y := .ok (x - y)
  round x n := .ok (roundTo x n)
  lt x y := .ok (decide (x < y))
  le x y := .ok (decide (x ≤ y))
  accepts _ := true

/-- An int as a float operand. -/
def floatOfInt (n : Nat) : Except PyError ℚ :=
  if n < 2 ^ 1024 - 2 ^ 970 then .ok (toDouble n) else .error .overflowError

/-- `(a - b).total_seconds()`. -/
def secondsBetween (a b : UtcDateTime) : ℚ := toDouble ((a.micros - b.micros : Int) / 1000000)

end RevPilot.Constraints
