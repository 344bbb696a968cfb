import RevPilot.Approval.Authority
import RevPilot.Library.Dict

/-! The limiter that stands before the gateway, and its agreement with the tier an
approval needs and the tier a principal has. -/
namespace RevPilot.Safety
open Library Shared Approval

def maxAffectedEntities : Int := 500

def tierSpendCeilings : Dict Int Decimal :=
  ((Dict.empty.set 1 tier1MaxSpend).set 2 tier2MaxSpend).set 3 tier3MaxSpend

def blastRadiusExceededError (message : String) (details : List (String × PyValue)) : DomainError where
  code := "ERR_BLAST_RADIUS_EXCEEDED"
  message := message
  details := details.map (fun d => (.str d.1,d.2))

structure BlastRadiusLimiter where
  maxEntities : Int := maxAffectedEntities
  tierCeilings : Option (Dict Int Decimal) := none

namespace BlastRadiusLimiter
open ApprovalService (exceeds)

/-- `tier_ceilings or TIER_SPEND_CEILINGS`. -/
def ceilings (limiter : BlastRadiusLimiter) : Dict Int Decimal :=
  match limiter.tierCeilings with
  | none => tierSpendCeilings
  | some given => if given.entries.isEmpty then tierSpendCeilings else given

/-- `f"{keys}"` of a list of integers. -/
def shownTiers (tiers : List Int) : String := "[" ++ ", ".intercalate (tiers.map Int.repr) ++ "]"

/-- The outer failure is the signal of a comparison with NaN, the inner one the `Failure` that is returned. -/
def checkLimits (limiter : BlastRadiusLimiter) (targetCount : Int) (estimatedCostUsd : Decimal) (tier : Int) :
    Except PyError (Except DomainError Unit) := do
  if targetCount < 0 then
    return .error (blastRadiusExceededError s!"Target count cannot be negative: {targetCount.repr}"
      [("target_count",.int targetCount)])
  if limiter.maxEntities < targetCount then
    return .error (blastRadiusExceededError
      s!"Target cohort size {targetCount.repr} exceeds blast radius ceiling of {limiter.maxEntities.repr} entities"
      [("target_count",.int targetCount),("max_allowed",.int limiter.maxEntities)])
  match limiter.ceilings.get? tier with
  | none =>
    let allowed := limiter.ceilings.keys
    return .error (blastRadiusExceededError
      s!"Invalid or unauthorized approval tier: {tier.repr}. Must be one of {shownTiers allowed}"
      [("tier",.int tier),("allowed_tiers",.list (allowed.map .int))])
  | some maxSpend =>
    -- the same comparison as `estimated_cost_usd < Decimal("0.00")`
    if ← exceeds (.ofCents 0) estimatedCostUsd then
      return .error (blastRadiusExceededError s!"Estimated cost cannot be negative: {estimatedCostUsd.toText}"
        [("estimated_cost_usd",.str estimatedCostUsd.toText)])
    if ← exceeds estimatedCostUsd maxSpend then
      return .error (blastRadiusExceededError
        s!"Estimated cost {estimatedCostUsd.toText} USD exceeds Tier {tier.repr} spend ceiling of {maxSpend.toText} USD"
        [("estimated_cost_usd",.str estimatedCostUsd.toText),("max_spend",.str maxSpend.toText),("tier",.int tier)])
    return .ok ()

/-- What the limiter lets through at a ceiling and a cost that are numbers. -/
theorem checkLimits_accepts {limiter : BlastRadiusLimiter} {targetCount tier : Int} {cost ceiling : Decimal} {v c : ℚ}
    (count : 0 ≤ targetCount ∧ targetCount ≤ limiter.maxEntities) (found : limiter.ceilings.get? tier = some ceiling)
    (number : cost.value = some v) (limit : ceiling.value = some c) (low : 0 ≤ v) (high : v ≤ c) :
    limiter.checkLimits targetCount cost tier = .ok (.ok ()) := by
  obtain ⟨n,k,e,rfl,rfl⟩ := Decimal.finite_of_value number
  obtain ⟨m,j,f,rfl,rfl⟩ := Decimal.finite_of_value limit
  have zero : Decimal.finiteValue false 0 (-2) = 0 := by simp [Decimal.finiteValue]
  unfold checkLimits
  simp only [not_lt.mpr count.1,not_lt.mpr count.2,found,exceeds,Decimal.ofCents,Decimal.gt,zero,not_lt.mpr low,
    not_lt.mpr high]
  rfl

end BlastRadiusLimiter

open BlastRadiusLimiter

/-- The amount in dollars up to which a tier may spend. -/
def ceilingOf : Nat → Option ℚ
  | 1 => some 250
  | 2 => some 1000
  | 3 => some 10000
  | _ => none

theorem tierSpendCeilings_value {tier : Nat} (least : 1 ≤ tier) (most : tier ≤ 3) :
    ∃ ceiling c, tierSpendCeilings.get? tier = some ceiling ∧ ceiling.value = some c ∧ ceilingOf tier = some c := by
  have cases : tier = 1 ∨ tier = 2 ∨ tier = 3 := by omega
  rcases cases with rfl | rfl | rfl
  · refine ⟨tier1MaxSpend,250,rfl,?_,rfl⟩
    norm_num [tier1MaxSpend,Decimal.ofCents,Decimal.value,Decimal.finiteValue]
  · refine ⟨tier2MaxSpend,1000,rfl,?_,rfl⟩
    norm_num [tier2MaxSpend,Decimal.ofCents,Decimal.value,Decimal.finiteValue]
  · refine ⟨tier3MaxSpend,10000,rfl,?_,rfl⟩
    norm_num [tier3MaxSpend,Decimal.ofCents,Decimal.value,Decimal.finiteValue]

section agreement
open ApprovalService AuthorityVerifier
variable (casing : Text.Casing)

/-- Up to the absolute ceiling the spend checks of the verifier add nothing to the tier check. -/
theorem verifyApproverAuthority_required {principal : PrincipalContext}
    (human : isAgentPrincipal casing principal = false) (riskTier : RiskTier) {cost : Decimal} {v : ℚ}
    (number : cost.value = some v) (high : v ≤ 10000) :
    verifyApproverAuthority casing principal cost (tierOf riskTier v) =
      .ok (decide (tierOf riskTier v ≤ getPrincipalTier casing principal)) := by
  rw [verifyApproverAuthority_value casing human number,Except.ok.injEq,decide_eq_decide]
  refine ⟨fun accepted => accepted.2.1,?_⟩
  intro enough
  refine ⟨high,enough,?_,?_⟩
  · intro one
    exact le_of_tierOf_one (one ▸ enough)
  · intro two
    exact le_of_tierOf_two (two ▸ enough)

/-- A principal of the required tier may spend the cost by the limiter's ceiling of that tier. -/
theorem le_ceilingOf {riskTier : RiskTier} {v c : ℚ} (high : v ≤ 10000) {tier : Nat}
    (enough : tierOf riskTier v ≤ tier) (ceiling : ceilingOf tier = some c) : v ≤ c := by
  unfold ceilingOf at ceiling
  split at ceiling
  next =>
    obtain rfl := Option.some.inj ceiling
    exact le_of_tierOf_one enough
  next =>
    obtain rfl := Option.some.inj ceiling
    exact le_of_tierOf_two enough
  next =>
    obtain rfl := Option.some.inj ceiling
    exact high
  next => cases ceiling

theorem thresholds_agree {principal : PrincipalContext} (human : isAgentPrincipal casing principal = false)
    (riskTier : RiskTier) {cost : Decimal} {v : ℚ} (number : cost.value = some v) (low : 0 ≤ v) (high : v ≤ 10000)
    {maxEntities targetCount : Int} (count : 0 ≤ targetCount ∧ targetCount ≤ maxEntities) :
    ∃ required, computeRequiredTier riskTier cost = .ok required ∧
      verifyApproverAuthority casing principal cost required =
        .ok (decide (required ≤ getPrincipalTier casing principal)) ∧
      (∀ riskTier' cost' w, cost'.value = some w → v ≤ w → severity riskTier ≤ severity riskTier' →
        ∃ required', computeRequiredTier riskTier' cost' = .ok required' ∧ required ≤ required') ∧
      (verifyApproverAuthority casing principal cost required = .ok true →
        checkLimits { maxEntities := maxEntities } targetCount cost (getPrincipalTier casing principal) = .ok (.ok ())) := by
  have verified := verifyApproverAuthority_required casing human riskTier number high
  refine ⟨tierOf riskTier v,computeRequiredTier_value riskTier number,verified,?_,?_⟩
  · intro riskTier' cost' w number' cost risk
    exact ⟨tierOf riskTier' w,computeRequiredTier_value riskTier' number',tierOf_mono risk cost⟩
  · intro holds
    rw [verified,Except.ok.injEq,decide_eq_true_eq] at holds
    have least := (tierOf_bounds riskTier v).1.trans holds
    obtain ⟨ceiling,c,found,limit,bound⟩ := tierSpendCeilings_value least (getPrincipalTier_le casing principal)
    exact checkLimits_accepts count found number limit low (le_ceilingOf high holds bound)

end agreement

section sample
open ApprovalService AuthorityVerifier

theorem acme_scoped : false = true ∨ (some ⟨"tnt_acme",Eq.refl true⟩ : Option TenantId) ≠ none :=
  .inr (Option.some_ne_none _)

def director : PrincipalContext where
  principalId := ⟨"usr_director",Eq.refl true⟩
  tenantId := some ⟨"tnt_acme",Eq.refl true⟩
  permissions := ["approval:tier_2"]
  tenantScoped := acme_scoped

/-- A director at the ceiling of the second tier, with the greatest cohort. -/
theorem thresholds_agree_at_ceiling :
    ∃ required, computeRequiredTier .medium (.ofCents 100000) = .ok required ∧
      verifyApproverAuthority Text.asciiCasing director (.ofCents 100000) required =
        .ok (decide (required ≤ getPrincipalTier Text.asciiCasing director)) ∧
      (∀ riskTier' cost' w, Decimal.value cost' = some w → 1000 ≤ w → severity .medium ≤ severity riskTier' →
        ∃ required', computeRequiredTier riskTier' cost' = .ok required' ∧ required ≤ required') ∧
      (verifyApproverAuthority Text.asciiCasing director (.ofCents 100000) required = .ok true →
        checkLimits { maxEntities := 500 } 500 (.ofCents 100000) (getPrincipalTier Text.asciiCasing director) =
          .ok (.ok ())) := by
  have human : isAgentPrincipal Text.asciiCasing director = false := by decide +kernel
  have number : (Decimal.ofCents 100000).value = some 1000 := by
    norm_num [Decimal.ofCents,Decimal.value,Decimal.finiteValue]
  exact thresholds_agree Text.asciiCasing human .medium number (by norm_num) (by norm_num) ⟨by norm_num,le_refl 500⟩

end sample
end RevPilot.Safety
