import RevPilot.Approval.Service
import RevPilot.Library.DecimalArithmetic
import RevPilot.Shared.Context

/-! Tiered approval authority of the policy module. -/
namespace RevPilot.Approval
open Library Shared

namespace ApprovalService

theorem exceeds_value {cost : Decimal} {v : ℚ} (number : cost.value = some v) (cents : Nat) :
    exceeds cost (.ofCents cents) = .ok (decide ((cents : ℚ) / 100 < v)) := by
  obtain ⟨n,c,e,rfl,rfl⟩ := Decimal.finite_of_value number
  have limit : Decimal.finiteValue false cents (-2) = (cents : ℚ) / 100 := by
    norm_num [Decimal.finiteValue]
    ring
  simp only [exceeds,Decimal.ofCents,Decimal.gt,limit]

/-- The tier of a cost that is a number. -/
def tierOf (riskTier : RiskTier) (v : ℚ) : Nat :=
  if riskTier = .high ∨ riskTier = .critical ∨ 1000 < v then 3
  else if riskTier = .medium ∨ 250 < v then 2
  else 1

theorem computeRequiredTier_value (riskTier : RiskTier) {cost : Decimal} {v : ℚ} (number : cost.value = some v) :
    computeRequiredTier riskTier cost = .ok (tierOf riskTier v) := by
  have thousand : ((100000 : ℕ) : ℚ) / 100 = 1000 := by norm_num
  have quarter : ((25000 : ℕ) : ℚ) / 100 = 250 := by norm_num
  unfold computeRequiredTier tierOf
  simp only [exceeds_value number,thousand,quarter]
  by_cases executive : 1000 < v
  · cases riskTier <;> simp [executive,bind,Except.bind,pure,Except.pure]
  · by_cases director : 250 < v
    · cases riskTier <;> simp [executive,director,bind,Except.bind,pure,Except.pure]
    · cases riskTier <;> simp [executive,director,bind,Except.bind,pure,Except.pure]

theorem tierOf_bounds (riskTier : RiskTier) (v : ℚ) : 1 ≤ tierOf riskTier v ∧ tierOf riskTier v ≤ 3 := by
  unfold tierOf
  split_ifs <;> decide

theorem le_of_tierOf_one {riskTier : RiskTier} {v : ℚ} (tier : tierOf riskTier v ≤ 1) : v ≤ 250 := by
  by_contra above
  unfold tierOf at tier
  split_ifs at tier with executive director
  · omega
  · omega
  · exact director (.inr (not_le.mp above))

theorem le_of_tierOf_two {riskTier : RiskTier} {v : ℚ} (tier : tierOf riskTier v ≤ 2) : v ≤ 1000 := by
  by_contra above
  unfold tierOf at tier
  rw [if_pos (.inr (.inr (not_le.mp above)))] at tier
  omega

/-- The position in the enumeration. -/
def severity : RiskTier → Nat
  | .low => 0
  | .medium => 1
  | .high => 2
  | .critical => 3

theorem tierOf_mono {riskTier riskTier' : RiskTier} {v w : ℚ} (risk : severity riskTier ≤ severity riskTier')
    (cost : v ≤ w) : tierOf riskTier v ≤ tierOf riskTier' w := by
  obtain ⟨_,most⟩ := tierOf_bounds riskTier v
  obtain ⟨least,_⟩ := tierOf_bounds riskTier' w
  unfold tierOf at most least ⊢
  by_cases executive : riskTier = .high ∨ riskTier = .critical ∨ 1000 < v
  · have executive' : riskTier' = .high ∨ riskTier' = .critical ∨ 1000 < w := by
      rcases executive with rfl | rfl | above
      · cases riskTier' <;> simp [severity] at risk ⊢
      · cases riskTier' <;> simp [severity] at risk ⊢
      · exact .inr (.inr (above.trans_le cost))
    rw [if_pos executive,if_pos executive']
  · rw [if_neg executive]
    by_cases director : riskTier = .medium ∨ 250 < v
    · have director' : riskTier' ≠ .low ∨ 250 < w := by
        rcases director with rfl | above
        · cases riskTier' <;> simp [severity] at risk ⊢
        · exact .inr (above.trans_le cost)
      rw [if_pos director]
      split_ifs with executive' medium
      · omega
      · omega
      · cases riskTier' <;> simp_all
    · rw [if_neg director]
      exact least

end ApprovalService

def tier1MaxSpend : Decimal := .ofCents 25000

def tier2MaxSpend : Decimal := .ofCents 100000

def tier3MaxSpend : Decimal := .ofCents 1000000

namespace AuthorityVerifier
open ApprovalService (exceeds)
variable (casing : Text.Casing)

def isAgentPrincipal (principal : PrincipalContext) : Bool :=
  if principal.hasRole casing "agent_delegate" then true
  else
    let pid := casing.lower principal.principalId.value
    Text.contains pid "agent" || Text.contains pid "bot" || Text.startsWith pid "usr_agent" ||
      Text.startsWith pid "usr_bot"

def getPrincipalTier (principal : PrincipalContext) : Nat :=
  if isAgentPrincipal casing principal then 0
  else if principal.hasPermission casing "approval:tier_3" || principal.hasRole casing "platform_admin" then 3
  else if principal.hasPermission casing "approval:tier_2" || principal.hasRole casing "tenant_admin" then 2
  else if principal.hasPermission casing "approval:tier_1" || principal.hasRole casing "operator" then 1
  else 0

/-- The comparisons of the source, in its order; an unordered cost raises. -/
def verifyApproverAuthority (principal : PrincipalContext) (costUsd : Decimal) (requiredTier : Nat) :
    Except PyError Bool := do
  if isAgentPrincipal casing principal then return false
  if ← exceeds costUsd tier3MaxSpend then return false
  let principalTier := getPrincipalTier casing principal
  if principalTier < requiredTier then return false
  if principalTier = 1 then
    if ← exceeds costUsd tier1MaxSpend then return false
  if principalTier = 2 then
    if ← exceeds costUsd tier2MaxSpend then return false
  return true

theorem getPrincipalTier_le (principal : PrincipalContext) : getPrincipalTier casing principal ≤ 3 := by
  unfold getPrincipalTier
  split_ifs <;> omega

/-- The answer for a person and a cost that is a number. -/
theorem verifyApproverAuthority_value {principal : PrincipalContext} (human : isAgentPrincipal casing principal = false)
    {cost : Decimal} {v : ℚ} (number : cost.value = some v) (required : Nat) :
    verifyApproverAuthority casing principal cost required =
      .ok (decide (v ≤ 10000 ∧ required ≤ getPrincipalTier casing principal ∧
        (getPrincipalTier casing principal = 1 → v ≤ 250) ∧ (getPrincipalTier casing principal = 2 → v ≤ 1000))) := by
  have tier1 : ((25000 : ℕ) : ℚ) / 100 = 250 := by norm_num
  have tier2 : ((100000 : ℕ) : ℚ) / 100 = 1000 := by norm_num
  have tier3 : ((1000000 : ℕ) : ℚ) / 100 = 10000 := by norm_num
  unfold verifyApproverAuthority
  simp only [human,tier1MaxSpend,tier2MaxSpend,tier3MaxSpend,ApprovalService.exceeds_value number,tier1,tier2,tier3]
  generalize getPrincipalTier casing principal = tier
  by_cases ceiling : v ≤ 10000
  · by_cases enough : required ≤ tier
    · by_cases one : tier = 1
      · subst one
        by_cases operational : v ≤ 250 <;>
          simp [ceiling,enough,operational,not_lt.mpr,not_le.mp,bind,Except.bind,pure,Except.pure]
      · by_cases two : tier = 2
        · subst two
          by_cases tactical : v ≤ 1000 <;>
            simp [ceiling,enough,tactical,not_lt.mpr,not_le.mp,bind,Except.bind,pure,Except.pure]
        · simp [ceiling,enough,one,two,not_lt.mpr,bind,Except.bind,pure,Except.pure]
    · simp [ceiling,enough,not_le.mp enough,bind,Except.bind,pure,Except.pure]
  · simp [ceiling,not_le.mp ceiling,bind,Except.bind,pure,Except.pure]

def checkSeparationOfDuties (proposerId approverId : String) (costUsd : Decimal) : Except PyError Bool := do
  if Text.strip proposerId = Text.strip approverId then
    if ← exceeds costUsd tier1MaxSpend then return false
  return true

end AuthorityVerifier
end RevPilot.Approval
