import RevPilot.Constraints.Domain
import RevPilot.Library.Outcome

/-! The ten hard business constraints. -/
namespace RevPilot.Constraints
open Library Shared Outcome

/-- The result of one constraint and its two texts. -/
structure HardConstraint where
  violated : Bool
  violation : String
  pass : String

namespace ConstraintEvaluatorRequest
variable {Money Real : Type} (num : Numerics Money Real) (request : ConstraintEvaluatorRequest Money)

def tenantBoundary : HardConstraint :=
  ⟨request.tenantId.value != request.budgetLedger.tenantId.value,"ERR_TENANT_MISMATCH","TENANT_SCOPE_VALID"⟩

def tierEligibility : HardConstraint :=
  ⟨!request.intervention.eligibleTiers.contains request.customerTier,"ERR_TIER_INELIGIBLE","TIER_ELIGIBILITY_VALID"⟩

def monetaryBudget : Except PyError HardConstraint := do
  let short ← num.lt request.budgetLedger.remainingBalanceUsd request.intervention.estimatedCostUsd
  pure ⟨short,"ERR_BUDGET_EXCEEDED","BUDGET_REMAINING_VALID"⟩

def dispatchCapacity : HardConstraint :=
  ⟨decide (request.maxCapacityLimit ≤ request.activeCapacityCount),"ERR_CAPACITY_EXCEEDED","CAPACITY_AVAILABLE_VALID"⟩

/-- The previous contact is less than the cooldown ago. -/
def coolsDown (cooldownSeconds : ℚ) (prevTime : UtcDateTime) : Bool :=
  let elapsed := secondsBetween request.currentTime prevTime
  0 ≤ elapsed && elapsed < cooldownSeconds

def cooldownPeriod : Except PyError HardConstraint := do
  let days ← floatOfInt request.intervention.maxFrequencyDays
  -- a product past the doubles is infinite there, and above every elapsed time in both
  let cooldownSeconds := toDouble (days * 86400)
  pure ⟨request.customerHistoryTimestamps.any (request.coolsDown cooldownSeconds),"ERR_COOLDOWN_ACTIVE",
    "COOLDOWN_PASSED"⟩

def quarterlyFrequency : HardConstraint :=
  ⟨decide (request.maxQuarterlyFrequency ≤ request.quarterlyHistoryTimestamps.length),"ERR_FREQUENCY_CAP_EXCEEDED",
    "FREQUENCY_CAP_PASSED"⟩

def customerConsent : HardConstraint := ⟨request.customerOptOut,"ERR_CUSTOMER_OPTED_OUT","CUSTOMER_CONSENT_PASSED"⟩

def exclusionList : HardConstraint := ⟨request.isExcluded,"ERR_CUSTOMER_EXCLUDED","EXCLUSION_LIST_PASSED"⟩

def blastRadius : HardConstraint :=
  ⟨decide (request.maxBlastRadius ≤ request.incidentTreatedCount),"ERR_BLAST_RADIUS_EXCEEDED","BLAST_RADIUS_PASSED"⟩

def dataFreshness : Except PyError HardConstraint := do
  let hours ← floatOfInt request.maxFeatureStalenessHours
  let maxStalenessSeconds := toDouble (hours * 3600)
  pure ⟨decide (maxStalenessSeconds < secondsBetween request.currentTime request.featureTimestamp),
    "ERR_STALE_FEATURES","DATA_FRESHNESS_PASSED"⟩

/-- The constraints in the order of the checks. -/
def hardConstraints : Except PyError (List HardConstraint) := do
  let budget ← request.monetaryBudget num
  let cooldown ← request.cooldownPeriod
  let freshness ← request.dataFreshness
  pure [request.tenantBoundary,request.tierEligibility,budget,request.dispatchCapacity,cooldown,
    request.quarterlyFrequency,request.customerConsent,request.exclusionList,request.blastRadius,freshness]

def evaluateHardConstraints : Except PyError ConstraintEvaluationOutcome := do
  let constraints ← request.hardConstraints num
  let passed := (constraints.filter (fun c => !c.violated)).map HardConstraint.pass
  let violated := (constraints.filter HardConstraint.violated).map HardConstraint.violation
  pure { isEligible := violated.length == 0, passedConstraints := passed, violatedConstraints := violated
         evaluatedAt := request.currentTime }

/-- The ten constraints on a candidate and its customer. -/
structure Passes : Prop where
  tenant : request.tenantId = request.budgetLedger.tenantId
  tier : request.customerTier ∈ request.intervention.eligibleTiers
  budget : num.lt request.budgetLedger.remainingBalanceUsd request.intervention.estimatedCostUsd = .ok false
  capacity : request.activeCapacityCount < request.maxCapacityLimit
  cooldown : ∃ days, floatOfInt request.intervention.maxFrequencyDays = .ok days ∧
    ∀ prev ∈ request.customerHistoryTimestamps, request.coolsDown (toDouble (days * 86400)) prev = false
  frequency : request.quarterlyHistoryTimestamps.length < request.maxQuarterlyFrequency
  consent : request.customerOptOut = false
  exclusion : request.isExcluded = false
  radius : request.incidentTreatedCount < request.maxBlastRadius
  freshness : ∃ hours, floatOfInt request.maxFeatureStalenessHours = .ok hours ∧
    secondsBetween request.currentTime request.featureTimestamp ≤ toDouble (hours * 3600)

theorem eligible_passes {outcome : ConstraintEvaluationOutcome}
    (ok : request.evaluateHardConstraints num = .ok outcome) (eligible : outcome.isEligible = true) :
    request.Passes num := by
  simp only [evaluateHardConstraints,hardConstraints,monetaryBudget,cooldownPeriod,dataFreshness,bind_eq_ok,
    pure_eq_ok] at ok
  obtain ⟨_,⟨_,⟨short,cheap,rfl⟩,_,⟨days,daysOk,rfl⟩,_,⟨hours,hoursOk,rfl⟩,rfl⟩,rfl⟩ := ok
  simp [tenantBoundary,tierEligibility,dispatchCapacity,quarterlyFrequency,customerConsent,exclusionList,
    blastRadius] at eligible
  obtain ⟨tenant,tier,budget,capacity,cooldown,frequency,consent,exclusion,radius,freshness⟩ := eligible
  have same : request.tenantId = request.budgetLedger.tenantId := by
    generalize request.budgetLedger.tenantId = other at tenant
    generalize request.tenantId = own at tenant
    cases own
    cases other
    cases tenant
    rfl
  exact ⟨same,tier,budget ▸ cheap,capacity,⟨days,daysOk,cooldown⟩,frequency,consent,exclusion,radius,hours,hoursOk,freshness⟩

end ConstraintEvaluatorRequest
end RevPilot.Constraints
