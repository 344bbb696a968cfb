import RevPilot.Api.Authorization
import RevPilot.Approval.Authority

/-! Who may grant an approval, by the API and by the approval policy. The API
looks at roles and at the head of the identifier, the policy at permissions and at
words inside the identifier. -/
namespace RevPilot.Api
open Library Shared Approval AuthorityVerifier
variable (casing : Text.Casing)

/-- The tier and spend checks of the `grant_approval` handler. -/
def requiredTierText (record : ApprovalData) : String :=
  casing.upper (record.requiredApprovalTier.getD "TIER_1")

/-- `tier_levels.get(req_tier_str, 1)`. -/
def requiredLevel (record : ApprovalData) : Nat :=
  let tier := requiredTierText casing record
  if tier = "TIER_2" then 2 else if tier = "TIER_3" then 3 else 1

def principalLevel (principal : PrincipalContext) : Nat :=
  let roles := upperRoles casing principal
  if principal.isSystem || roles.contains "SYSTEM_ADMIN" || roles.contains "TIER_3" then 3
  else if roles.contains "TIER_2" then 2
  else if roles.contains "TIER_1" || roles.contains "OPERATOR" || roles.contains "ADMIN" then 1
  else 0

def zeroFloat : PyFloat := ⟨.finite 0,"0.0"⟩

/-- `float(record.get("estimated_cost_usd", 0.0) or record.get("cost_usd", 0.0))`. -/
def recordCost (record : ApprovalData) : PyFloat :=
  let estimated := record.estimatedCostUsd.getD zeroFloat
  if estimated.truthy then estimated else record.costUsd.getD zeroFloat

/-- The limit of one level, in dollars and as the message writes it. -/
def spendLimit : Nat → Option (ℚ × String)
  | 1 => some (250,"250.0")
  | 2 => some (1000,"1000.0")
  | 3 => some (10000,"10000.0")
  | _ => none

def tierAndSpendChecks (principal : PrincipalContext) (record : ApprovalData) : Except PyError Unit :=
  let level := principalLevel casing principal
  let tier := requiredTierText casing record
  if level < requiredLevel casing record then
    .error (authorizationError s!"Principal '{principal.principalId.value}' lacks {tier} human approval authority."
      [(.str "roles",.list (principal.roles.map .str)),(.str "required_tier",.str tier)])
  else
    let cost := recordCost record
    match spendLimit level with
    | some (limit,shown) =>
      if cost.value.above limit then
        .error (authorizationError s!"Spend limit exceeded for TIER_{level}: cost {cost.text} > {shown}")
      else .ok ()
    | none => .ok ()

/-- The dependency of the handler and its own checks let the request through. -/
def LetThrough (principal : PrincipalContext) (record : ApprovalData) : Prop :=
  (requireHumanApprovalAuthority casing "TIER_1" principal).isOk = true ∧
    (tierAndSpendChecks casing principal record).isOk = true

instance (principal : PrincipalContext) (record : ApprovalData) :
    Decidable (LetThrough casing principal record) := inferInstanceAs (Decidable (_ ∧ _))

/-- The policy accepts the principal for the cost and tier, and sees no agent. -/
def PolicyAccepts (principal : PrincipalContext) (costUsd : Decimal) (requiredTier : Nat) : Prop :=
  verifyApproverAuthority casing principal costUsd requiredTier = .ok true ∧
    isAgentPrincipal casing principal = false

/-- A permission of the policy for one tier, or the role that stands for it. -/
def entitled (principal : PrincipalContext) (permission role : String) : Bool :=
  principal.hasPermission casing permission || principal.hasRole casing role

/-- What the policy asks for beyond the API's checks, read off the request. -/
structure MeetsPolicy (principal : PrincipalContext) (record : ApprovalData) : Prop where
  noDelegate : principal.hasRole casing "agent_delegate" = false
  noAgent : Text.contains (casing.lower principal.principalId.value) "agent" = false
  noBot : Text.contains (casing.lower principal.principalId.value) "bot" = false
  number : (recordCost record).value ≠ .nan
  entitlement : entitled casing principal "approval:tier_3" "platform_admin" = true ∨
    (entitled casing principal "approval:tier_2" "tenant_admin" = true ∧ requiredLevel casing record ≤ 2 ∧
      (recordCost record).value.above 1000 = false) ∨
    (entitled casing principal "approval:tier_1" "operator" = true ∧ requiredLevel casing record ≤ 1 ∧
      (recordCost record).value.above 250 = false)

theorem startsWith_contains {s lead needle : String} (inside : needle.toList <:+: lead.toList)
    (starts : Text.startsWith s lead = true) : Text.contains s needle = true := by
  have infix_ : lead.toList <:+: s.toList := (List.isPrefixOf_iff_prefix.mp starts).isInfix
  exact decide_eq_true (inside.trans infix_)

theorem isAgentPrincipal_false_iff (principal : PrincipalContext) :
    isAgentPrincipal casing principal = false ↔ principal.hasRole casing "agent_delegate" = false ∧
      Text.contains (casing.lower principal.principalId.value) "agent" = false ∧
      Text.contains (casing.lower principal.principalId.value) "bot" = false := by
  unfold isAgentPrincipal
  cases principal.hasRole casing "agent_delegate" with
  | true => simp
  | false =>
    have usrAgent := startsWith_contains (s := casing.lower principal.principalId.value)
      (show "agent".toList <:+: "usr_agent".toList by decide)
    have usrBot := startsWith_contains (s := casing.lower principal.principalId.value)
      (show "bot".toList <:+: "usr_bot".toList by decide)
    simp only [Bool.false_eq_true,if_false,Bool.or_eq_false_iff,true_and]
    constructor
    · rintro ⟨⟨⟨agent,bot⟩,_⟩,_⟩
      exact ⟨agent,bot⟩
    · rintro ⟨agent,bot⟩
      refine ⟨⟨⟨agent,bot⟩,?_⟩,?_⟩
      · rw [Bool.eq_false_iff]
        intro starts
        rw [usrAgent starts] at agent
        cases agent
      · rw [Bool.eq_false_iff]
        intro starts
        rw [usrBot starts] at bot
        cases bot

theorem exceeds_eq {d : Decimal} {x : FloatValue} (same : d.Same x) (cents : Nat) :
    ApprovalService.exceeds d (.ofCents cents) =
      if x = .nan then .error .invalidOperation else .ok (x.above (cents / 100)) := by
  unfold ApprovalService.exceeds
  rw [Decimal.gt_ofCents same]
  by_cases number : x = .nan <;> simp [number]

/-- The policy's answer for a cost of this value, in terms of the principal's tier. -/
theorem policyAccepts_iff {d : Decimal} {x : FloatValue} (same : d.Same x) (principal : PrincipalContext)
    (required : Nat) :
    PolicyAccepts casing principal d required ↔
      isAgentPrincipal casing principal = false ∧ x ≠ .nan ∧ x.above 10000 = false ∧
      required ≤ getPrincipalTier casing principal ∧
      (getPrincipalTier casing principal = 1 → x.above 250 = false) ∧
      (getPrincipalTier casing principal = 2 → x.above 1000 = false) := by
  have tier1 : ((25000 : ℕ) : ℚ) / 100 = 250 := by norm_num
  have tier2 : ((100000 : ℕ) : ℚ) / 100 = 1000 := by norm_num
  have tier3 : ((1000000 : ℕ) : ℚ) / 100 = 10000 := by norm_num
  unfold PolicyAccepts verifyApproverAuthority
  simp only [tier1MaxSpend,tier2MaxSpend,tier3MaxSpend,exceeds_eq same,tier1,tier2,tier3]
  generalize getPrincipalTier casing principal = tier
  cases isAgentPrincipal casing principal with
  | true => simp
  | false =>
    by_cases number : x = .nan
    · simp [number,bind,Except.bind]
    · by_cases below : tier < required
      · cases x.above 10000 <;> simp [number,below,bind,Except.bind,pure,Except.pure]
      · have enough : required ≤ tier := Nat.le_of_not_lt below
        by_cases one : tier = 1
        · subst one
          cases x.above 10000 <;> cases x.above 250 <;>
            simp [number,below,enough,bind,Except.bind,pure,Except.pure]
        · by_cases two : tier = 2
          · subst two
            cases x.above 10000 <;> cases x.above 1000 <;>
              simp [number,below,enough,bind,Except.bind,pure,Except.pure]
          · cases x.above 10000 <;> simp [number,below,enough,one,two,bind,Except.bind,pure,Except.pure]

theorem requiredLevel_bounds (record : ApprovalData) :
    1 ≤ requiredLevel casing record ∧ requiredLevel casing record ≤ 3 := by
  unfold requiredLevel
  dsimp only
  split
  next => decide
  next =>
    split
    next => decide
    next => decide

theorem principalLevel_le (principal : PrincipalContext) : principalLevel casing principal ≤ 3 := by
  unfold principalLevel
  dsimp only
  split
  next => decide
  next =>
    split
    next => decide
    next =>
      split
      next => decide
      next => decide

/-- A request that the API lets through costs at most the highest limit. -/
theorem letThrough_cost {principal : PrincipalContext} {record : ApprovalData}
    (through : LetThrough casing principal record) : (recordCost record).value.above 10000 = false := by
  have passed := through.2
  have low := (requiredLevel_bounds casing record).1
  have high := principalLevel_le casing principal
  unfold tierAndSpendChecks at passed
  dsimp only at passed
  generalize principalLevel casing principal = level at passed high
  rw [Bool.eq_false_iff]
  intro exceeded
  have exceeded1 := FloatValue.above_mono (show (250 : ℚ) ≤ 10000 by norm_num) exceeded
  have exceeded2 := FloatValue.above_mono (show (1000 : ℚ) ≤ 10000 by norm_num) exceeded
  split at passed
  next below => cases passed
  next enough =>
    have cases : level = 1 ∨ level = 2 ∨ level = 3 := by omega
    rcases cases with rfl | rfl | rfl
    · simp [spendLimit,exceeded1,Except.isOk,Except.toBool] at passed
    · simp [spendLimit,exceeded2,Except.isOk,Except.toBool] at passed
    · simp [spendLimit,exceeded,Except.isOk,Except.toBool] at passed

/-- The tier that the policy gives a human, in terms of entitlements. -/
theorem getPrincipalTier_human {principal : PrincipalContext} (human : isAgentPrincipal casing principal = false) :
    getPrincipalTier casing principal =
      if entitled casing principal "approval:tier_3" "platform_admin" then 3
      else if entitled casing principal "approval:tier_2" "tenant_admin" then 2
      else if entitled casing principal "approval:tier_1" "operator" then 1
      else 0 := by
  simp [getPrincipalTier,human,entitled]

/-- For a request that the API lets through, the policy accepts it exactly when
its own conditions are met. -/
theorem policyAccepts_letThrough {principal : PrincipalContext} {record : ApprovalData} {d : Decimal}
    (same : d.Same (recordCost record).value) (through : LetThrough casing principal record) :
    PolicyAccepts casing principal d (requiredLevel casing record) ↔ MeetsPolicy casing principal record := by
  have ceiling := letThrough_cost casing through
  obtain ⟨low,high⟩ := requiredLevel_bounds casing record
  have order := FloatValue.above_mono (x := (recordCost record).value) (show (250 : ℚ) ≤ 1000 by norm_num)
  rw [policyAccepts_iff casing same]
  constructor
  · rintro ⟨human,number,_,tier,limit1,limit2⟩
    obtain ⟨noDelegate,noAgent,noBot⟩ := (isAgentPrincipal_false_iff casing principal).mp human
    refine ⟨noDelegate,noAgent,noBot,number,?_⟩
    rw [getPrincipalTier_human casing human] at tier limit1 limit2
    cases third : entitled casing principal "approval:tier_3" "platform_admin" with
    | true => exact .inl rfl
    | false =>
      cases second : entitled casing principal "approval:tier_2" "tenant_admin" with
      | true =>
        simp only [third,second,Bool.false_eq_true,if_false,if_true] at tier limit2
        exact .inr (.inl ⟨rfl,tier,limit2 trivial⟩)
      | false =>
        cases first : entitled casing principal "approval:tier_1" "operator" with
        | true =>
          simp only [third,second,first,Bool.false_eq_true,if_false,if_true] at tier limit1
          exact .inr (.inr ⟨rfl,tier,limit1 trivial⟩)
        | false =>
          simp only [third,second,first,Bool.false_eq_true,if_false] at tier
          omega
  · rintro ⟨noDelegate,noAgent,noBot,number,entitlement⟩
    have human := (isAgentPrincipal_false_iff casing principal).mpr ⟨noDelegate,noAgent,noBot⟩
    refine ⟨human,number,ceiling,?_⟩
    rw [getPrincipalTier_human casing human]
    cases third : entitled casing principal "approval:tier_3" "platform_admin" with
    | true => exact ⟨high,by simp,by simp⟩
    | false =>
      cases second : entitled casing principal "approval:tier_2" "tenant_admin" with
      | true =>
        rcases entitlement with impossible | ⟨_,tier,limit⟩ | ⟨_,tier,limit⟩
        · rw [third] at impossible
          cases impossible
        · exact ⟨by simpa using tier,by simp,fun _ => limit⟩
        · refine ⟨by simpa using Nat.le_succ_of_le tier,by simp,fun _ => ?_⟩
          rw [Bool.eq_false_iff]
          intro exceeded
          rw [order exceeded] at limit
          cases limit
      | false =>
        rcases entitlement with impossible | ⟨impossible,_⟩ | ⟨first,tier,limit⟩
        · rw [third] at impossible
          cases impossible
        · rw [second] at impossible
          cases impossible
        · simp only [first,Bool.false_eq_true,if_false,if_true]
          exact ⟨tier,fun _ => limit,by simp⟩

def operatorContext (id : PrincipalId) (permissions : List String) : PrincipalContext where
  principalId := id
  tenantId := some ⟨"tnt_acme",Eq.refl true⟩
  roles := ["OPERATOR"]
  permissions := permissions
  tenantScoped := .inr (by simp)

def voucherRecord : ApprovalData where
  estimatedCostUsd := some ⟨.finite 200,"200.0"⟩
  requiredApprovalTier := some "TIER_1"

end RevPilot.Api
