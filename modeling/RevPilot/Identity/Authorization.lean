import RevPilot.Identity.Delegation

/-! The two authorization paths, for a principal and for a delegation token, and
when a token that was issued stays within what its delegator may do. -/
namespace RevPilot.Identity
open Library Shared

/-- The policy attributes that the ordinary path reads. -/
structure PolicyAttributes where
  tenantId : TenantId
  resourceTenantId : Option TenantId := none

namespace AuthorizationService
variable (casing : Text.Casing)

def grantedDirectly (principal : Principal) (permission : Permission) : Bool :=
  principal.permissions.any (fun held =>
    match Permission.fromString casing held with
    | .ok p => p.matches permission
    | .error _ => false)

def grantedByRole (principal : Principal) (permission : Permission) : Bool :=
  principal.roles.any (fun name =>
    match StandardRoles.getRole casing name with
    | .ok role => role.hasPermission permission
    | .error _ => false)

def authorizePrincipal (principal : Principal) (resourceTenantId : TenantId) (permission : Permission)
    (attributes : Option PolicyAttributes := none) : Bool :=
  if !principal.isActive then false
  else if principal.tenantId ≠ some resourceTenantId then false
  else if attributes.any (fun a => some a.tenantId ≠ principal.tenantId ||
      a.resourceTenantId.any (· ≠ resourceTenantId)) then false
  else grantedDirectly casing principal permission || grantedByRole casing principal permission

def authorizeDelegation (registry : DelegationRevocationRegistry) (token : DelegationToken)
    (resourceTenantId : TenantId) (capability : Permission) (targetResource : String)
    (asOf : Option UtcDateTime) (clock : UtcDateTime) : Bool :=
  if Text.strip targetResource = "" then false
  else if token.tenantId ≠ resourceTenantId then false
  else if token.isExpired asOf clock then false
  else if registry.isRevoked token.delegationId then false
  else if !token.allowsCapability capability then false
  else token.allowsTarget targetResource

/-- What the strings of a principal grant, as an authority. -/
def directAuthority (principal : Principal) : LowerSet Permission :=
  authority (principal.permissions.filterMap (fun held => (Permission.fromString casing held).toOption))

theorem grantedDirectly_iff (principal : Principal) (permission : Permission) :
    grantedDirectly casing principal permission = true ↔ permission ∈ directAuthority casing principal := by
  rw [directAuthority,mem_authority,grantedDirectly,List.any_filterMap]
  apply iff_of_eq
  congr 2
  funext held
  cases Permission.fromString casing held <;> rfl

/-- The comparison of texts at issue finds nothing that parsing does not. -/
theorem delegatorHasPermission_iff (casing : Text.UnicodeCasing) (delegator : Principal) (cap : Permission) :
    delegatorHasPermission casing.toCasing delegator cap = true ↔ cap ∈ directAuthority casing.toCasing delegator := by
  rw [← grantedDirectly_iff,delegatorHasPermission,grantedDirectly]
  apply iff_of_eq
  congr 2
  funext held
  cases parsed : Permission.fromString casing.toCasing held with
  | ok p => rfl
  | error e =>
    simp only [decide_eq_false_iff_not]
    intro same
    obtain ⟨p,ok⟩ := fromString_of_lower casing same
    simp [parsed] at ok

theorem issued_authority_le (casing : Text.UnicodeCasing) {delegator : Principal} {token : DelegationToken}
    (issued : Issued casing.toCasing delegator token) :
    authority token.allowedCapabilities ≤ directAuthority casing.toCasing delegator := by
  apply authority_le
  intro cap inside
  exact (delegatorHasPermission_iff casing delegator cap).mp (issued.held cap inside)

theorem accepted_within {registry : DelegationRevocationRegistry} {token : DelegationToken}
    {resourceTenantId : TenantId} {capability : Permission} {target : String} {asOf : Option UtcDateTime}
    {clock : UtcDateTime}
    (accepted : authorizeDelegation registry token resourceTenantId capability target asOf clock = true) :
    token.tenantId = resourceTenantId ∧ capability ∈ authority token.allowedCapabilities := by
  unfold authorizeDelegation at accepted
  split at accepted
  next => cases accepted
  next =>
  split at accepted
  next => cases accepted
  next same =>
  split at accepted
  next => cases accepted
  next =>
  split at accepted
  next => cases accepted
  next =>
  split at accepted
  next => cases accepted
  next allowed =>
    refine ⟨not_not.mp same,mem_authority.mpr ?_⟩
    simpa [DelegationToken.allowsCapability] using allowed

/-- In its own tenant a principal may do what its strings grant if it is active. -/
theorem authorizePrincipal_direct {principal : Principal} {tenantId : TenantId} {permission : Permission}
    (own : principal.tenantId = some tenantId) (granted : permission ∈ directAuthority casing principal) :
    authorizePrincipal casing principal tenantId permission = principal.isActive := by
  have direct := (grantedDirectly_iff casing principal permission).mpr granted
  cases active : principal.isActive <;> simp [authorizePrincipal,active,own,direct]

/-- Every token is accepted for something until it is revoked or expires. -/
theorem token_usable (token : DelegationToken) (clock : UtcDateTime) :
    ∃ capability target asOf,
      authorizeDelegation .empty token token.tenantId capability target asOf clock = true := by
  obtain ⟨capability,inside⟩ := List.exists_mem_of_ne_nil _ token.capabilitiesAccepted
  obtain ⟨target,listed⟩ := List.exists_mem_of_ne_nil _ token.targetsAccepted.1
  have filled := token.targetsAccepted.2 target listed
  have running : token.isExpired (some token.issuedAt) clock = false := by
    have ordered : ¬ token.expiresAt ≤ token.issuedAt := Int.not_le.mpr token.ordered
    simp [DelegationToken.isExpired,ordered]
  have allowed : token.allowsCapability capability = true := List.any_eq_true.mpr ⟨capability,inside,le_refl capability⟩
  have covered : token.allowsTarget target = true := by
    simp only [DelegationToken.allowsTarget,Bool.and_eq_true,bne_iff_ne,List.any_eq_true]
    exact ⟨filled,target,listed,by simp [DelegationToken.targetCovers]⟩
  refine ⟨capability,target,some token.issuedAt,?_⟩
  simp [authorizeDelegation,filled,running,allowed,covered,DelegationRevocationRegistry.isRevoked]

/-- A token that was issued never authorises what the ordinary path refuses its
delegator exactly when the delegator is active, which the factory does not check. -/
theorem delegation_contained_iff (casing : Text.UnicodeCasing) (delegator : Principal) (tenantId : TenantId)
    (args : Issue) (issueClock : UtcDateTime) (digits : String) (token : DelegationToken)
    (issued : issueDelegation casing.toCasing delegator tenantId args issueClock digits = .ok token) :
    (∀ registry capability target asOf clock,
      authorizeDelegation registry token token.tenantId capability target asOf clock = true →
        authorizePrincipal casing.toCasing delegator token.tenantId capability = true) ↔
    delegator.isActive = true := by
  have fields := issued_of_ok casing.toCasing issued
  have direct {registry capability target asOf clock}
      (accepted : authorizeDelegation registry token token.tenantId capability target asOf clock = true) :
      authorizePrincipal casing.toCasing delegator token.tenantId capability = delegator.isActive := by
    have within := issued_authority_le casing fields (accepted_within accepted).2
    exact authorizePrincipal_direct casing.toCasing fields.tenant within
  constructor
  · intro contained
    obtain ⟨capability,target,asOf,accepted⟩ := token_usable token issueClock
    rw [← direct accepted]
    exact contained _ _ _ _ _ accepted
  · intro active registry capability target asOf clock accepted
    rw [direct accepted]
    exact active

def delegatorTenant : TenantId := ⟨"tnt_acme",Eq.refl true⟩

theorem delegator_bound : PrincipalType.user = .system ∨ some delegatorTenant ≠ none :=
  .inr (Option.some_ne_none delegatorTenant)

def sampleDelegator (isActive : Bool) : Principal where
  id := .principal ⟨"usr_ops",Eq.refl true⟩
  type := .user
  tenantId := some delegatorTenant
  permissions := ["investigation:*","tool : invoke"]
  isActive := isActive
  tenantBound := delegator_bound

def sampleIssue : Issue where
  taskId := "tsk_1"
  capabilities := [StandardRoles.permission "investigation" "read"]
  targetResources := ["inv_42"]

/-- A token issued to an active delegator stays within what the delegator may do. -/
theorem active_delegation_contained :
    ∃ token, issueDelegation Text.plainCasing.toCasing (sampleDelegator true) delegatorTenant sampleIssue ⟨0⟩
        "0123456789abcdef" = .ok token ∧
      ((∀ registry capability target asOf clock,
        authorizeDelegation registry token token.tenantId capability target asOf clock = true →
          authorizePrincipal Text.plainCasing.toCasing (sampleDelegator true) token.tenantId capability = true) ↔
      (sampleDelegator true).isActive = true) := by
  have run : (issueDelegation Text.plainCasing.toCasing (sampleDelegator true) delegatorTenant sampleIssue ⟨0⟩
      "0123456789abcdef").toOption.isSome = true := by decide +kernel
  cases issued : issueDelegation Text.plainCasing.toCasing (sampleDelegator true) delegatorTenant sampleIssue ⟨0⟩
      "0123456789abcdef" with
  | error e => simp [issued,Except.toOption] at run
  | ok token => exact ⟨token,rfl,delegation_contained_iff Text.plainCasing _ _ _ _ _ token issued⟩

/-- A suspended delegator is issued a token that lets an agent read what the
delegator itself may no longer read. -/
theorem suspended_delegator_exceeded :
    ∃ token, issueDelegation Text.plainCasing.toCasing (sampleDelegator false) delegatorTenant sampleIssue ⟨0⟩
        "0123456789abcdef" = .ok token ∧
      authorizeDelegation .empty token delegatorTenant (StandardRoles.permission "investigation" "read") "inv_42"
        none ⟨60000000⟩ = true ∧
      authorizePrincipal Text.plainCasing.toCasing (sampleDelegator false) delegatorTenant
        (StandardRoles.permission "investigation" "read") = false := by
  have run : (issueDelegation Text.plainCasing.toCasing (sampleDelegator false) delegatorTenant sampleIssue ⟨0⟩
      "0123456789abcdef").toOption.any (fun token =>
        authorizeDelegation .empty token delegatorTenant (StandardRoles.permission "investigation" "read") "inv_42"
          none ⟨60000000⟩) = true := by decide +kernel
  have refused : authorizePrincipal Text.plainCasing.toCasing (sampleDelegator false) delegatorTenant
      (StandardRoles.permission "investigation" "read") = false := by decide +kernel
  cases issued : issueDelegation Text.plainCasing.toCasing (sampleDelegator false) delegatorTenant sampleIssue ⟨0⟩
      "0123456789abcdef" with
  | error e => simp [issued,Except.toOption] at run
  | ok token => exact ⟨token,rfl,by simpa [issued,Except.toOption] using run,refused⟩

end AuthorizationService
end RevPilot.Identity
