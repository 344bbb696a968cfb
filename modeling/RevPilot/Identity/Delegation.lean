import RevPilot.Identity.Permissions
import RevPilot.Library.Dict
import RevPilot.Shared.Temporal

/-! Delegation tokens, their factory and the registry of revocations. A token
carries what its own constructor checks. -/
namespace RevPilot.Identity
open Library Shared

structure DelegationToken where
  delegationId : String
  delegatorId : ActorId
  tenantId : TenantId
  taskId : String
  allowedCapabilities : List Permission
  targetResources : List String
  issuedAt : UtcDateTime
  expiresAt : UtcDateTime
  revocationVersion : Int := 1
  idAccepted : Text.strip delegationId ≠ "" ∧ Text.startsWith delegationId "del_" = true
  taskAccepted : Text.strip taskId ≠ ""
  capabilitiesAccepted : allowedCapabilities ≠ []
  targetsAccepted : targetResources ≠ [] ∧ ∀ t ∈ targetResources, Text.strip t ≠ ""
  ordered : issuedAt < expiresAt
  versionAccepted : 1 ≤ revocationVersion

namespace DelegationToken

/-- `DelegationToken(…)` with the checks of `__post_init__`; the revocation version is the default one. -/
def make (delegationId : String) (delegatorId : ActorId) (tenantId : TenantId) (taskId : String)
    (allowedCapabilities : List Permission) (targetResources : List String) (issuedAt expiresAt : UtcDateTime) :
    Except PyError DelegationToken :=
  if filled : Text.strip delegationId ≠ "" then
    if lead : Text.startsWith delegationId "del_" = true then
      if taskAccepted : Text.strip taskId ≠ "" then
        if capabilitiesAccepted : allowedCapabilities ≠ [] then
          if some : targetResources ≠ [] then
            if targets : ∀ t ∈ targetResources, Text.strip t ≠ "" then
              if ordered : issuedAt < expiresAt then
                .ok { delegationId := delegationId, delegatorId := delegatorId, tenantId := tenantId
                      taskId := taskId, allowedCapabilities := allowedCapabilities
                      targetResources := targetResources, issuedAt := issuedAt, expiresAt := expiresAt
                      idAccepted := ⟨filled,lead⟩, taskAccepted := taskAccepted
                      capabilitiesAccepted := capabilitiesAccepted, targetsAccepted := ⟨some,targets⟩
                      ordered := ordered, versionAccepted := le_refl 1 }
              else .error (validationError "expires_at must be strictly after issued_at")
            else .error (validationError "target_resources items must be non-empty strings")
          else .error (validationError "target_resources cannot be empty")
        else .error (validationError "allowed_capabilities cannot be empty")
      else .error (validationError "task_id must be a non-empty string")
    else .error (validationError s!"delegation_id must start with 'del_', got '{delegationId}'")
  else .error (validationError "delegation_id must be a non-empty string")

/-- `is_expired`; the clock is read when no time is given. -/
def isExpired (token : DelegationToken) (asOf : Option UtcDateTime) (clock : UtcDateTime) : Bool :=
  decide (token.expiresAt ≤ asOf.getD clock)

def allowsCapability (token : DelegationToken) (capability : Permission) : Bool :=
  token.allowedCapabilities.any (·.matches capability)

/-- The rules for one target, both texts stripped. -/
def targetCovers (target resource : String) : Bool :=
  target = "*" || resource = target ||
    if Text.endsWith target "/*" then Text.startsWith resource (String.ofList target.toList.dropLast)
    else if Text.endsWith target "/" || Text.endsWith target ":" then Text.startsWith resource target
    else Text.startsWith resource (target ++ "/") || Text.startsWith resource (target ++ ":")

def allowsTarget (token : DelegationToken) (resource : String) : Bool :=
  Text.strip resource != "" &&
    token.targetResources.any (fun target => targetCovers (Text.strip target) (Text.strip resource))

end DelegationToken

variable (casing : Text.Casing)

def delegatorHasPermission (delegator : Principal) (required : Permission) : Bool :=
  delegator.permissions.any (fun held =>
    match Permission.fromString casing held with
    | .ok p => p.matches required
    | .error _ => casing.lower (Text.strip held) = casing.lower required.text)

/-- What is wrong with one requested capability. -/
def capabilityError (delegator : Principal) (cap : Permission) : Option PyError :=
  if cap.resource = "approval" ∨ (cap.resource = "*" ∧ (cap.action = "*" ∨ cap.action = "grant")) then
    some (authorizationError "Delegated agents cannot receive approval authority (INV-ACT-003)")
  else if cap.matches (StandardRoles.permission "approval" "grant") then
    some (authorizationError "Delegated agents cannot receive approval authority (INV-ACT-003)")
  else if !delegatorHasPermission casing delegator cap then
    some (authorizationError s!"Delegation capability '{cap.text}' exceeds delegator permissions (INV-IAM-002)")
  else none

/-- The arguments of `issue_delegation` after the delegator and the tenant. -/
structure Issue where
  taskId : String
  capabilities : List Permission
  targetResources : List String
  durationSeconds : Int := 3600
  asOf : Option UtcDateTime := none

/-- The clock reading and the sixteen random digits of the identifier are arguments. -/
def issueDelegation (delegator : Principal) (tenantId : TenantId) (args : Issue) (clock : UtcDateTime)
    (digits : String) : Except PyError DelegationToken :=
  if delegator.type = .agent then
    .error (authorizationError "Delegated agents cannot sub-delegate authority")
  else if delegator.tenantId ≠ some tenantId then
    let own := (delegator.tenantId.map (·.value)).getD "None"
    .error (tenancyViolationError
      s!"Delegation tenant '{tenantId.value}' does not match delegator tenant '{own}'")
  else if Text.strip args.taskId = "" then .error (validationError "task_id must be a non-empty string")
  else if args.durationSeconds < 60 ∨ 86400 < args.durationSeconds then
    .error (validationError
      s!"Delegation duration must be between 60 and 86,400 seconds, got {args.durationSeconds}s")
  else if args.capabilities = [] then .error (validationError "capabilities cannot be empty")
  else
    match args.capabilities.findSome? (capabilityError casing delegator) with
    | some error => .error error
    | none =>
      if args.targetResources = [] then .error (validationError "target_resources cannot be empty")
      else if ∃ t ∈ args.targetResources, Text.strip t = "" then
        .error (validationError "target_resources items must be non-empty strings")
      else
        let start := args.asOf.getD clock
        match start.plusSeconds args.durationSeconds with
        | none => .error .overflowError
        | some finish =>
          DelegationToken.make ("del_" ++ digits) delegator.id tenantId (Text.strip args.taskId) args.capabilities
            args.targetResources start finish

/-- What the factory has established of a token it issues. -/
structure Issued (delegator : Principal) (token : DelegationToken) : Prop where
  tenant : delegator.tenantId = some token.tenantId
  held : ∀ cap ∈ token.allowedCapabilities, delegatorHasPermission casing delegator cap = true

/-- A token that is issued carries the requested capabilities, and each of them was let through. -/
theorem cleared_of_ok {delegator : Principal} {tenantId : TenantId} {args : Issue} {clock : UtcDateTime}
    {digits : String} {token : DelegationToken}
    (ok : issueDelegation casing delegator tenantId args clock digits = .ok token) :
    delegator.tenantId = some token.tenantId ∧ token.allowedCapabilities = args.capabilities ∧
      ∀ cap ∈ args.capabilities, capabilityError casing delegator cap = none := by
  unfold issueDelegation at ok
  split at ok
  next => cases ok
  next human =>
  split at ok
  next => cases ok
  next sameTenant =>
  split at ok
  next => cases ok
  next =>
  split at ok
  next => cases ok
  next =>
  split at ok
  next => cases ok
  next =>
  split at ok
  next => cases ok
  next clear =>
  split at ok
  next => cases ok
  next =>
  split at ok
  next => cases ok
  next =>
  dsimp only at ok
  split at ok
  next => cases ok
  next finish future =>
    obtain ⟨tenant,capabilities⟩ : token.tenantId = tenantId ∧ token.allowedCapabilities = args.capabilities := by
      unfold DelegationToken.make at ok
      repeat' split at ok
      all_goals cases ok
      exact ⟨rfl,rfl⟩
    refine ⟨?_,capabilities,List.findSome?_eq_none_iff.mp clear⟩
    rw [tenant]
    exact not_not.mp sameTenant

/-- What letting one capability through has excluded. -/
theorem cleared_capability {delegator : Principal} {cap : Permission}
    (clear : capabilityError casing delegator cap = none) :
    cap.resource ≠ "approval" ∧ delegatorHasPermission casing delegator cap = true := by
  unfold capabilityError at clear
  split at clear
  next => cases clear
  next other =>
  split at clear
  next => cases clear
  next =>
  split at clear
  next => cases clear
  next granted =>
    refine ⟨?_,by simpa using granted⟩
    intro approval
    exact other (.inl approval)

theorem issued_of_ok {delegator : Principal} {tenantId : TenantId} {args : Issue} {clock : UtcDateTime}
    {digits : String} {token : DelegationToken}
    (ok : issueDelegation casing delegator tenantId args clock digits = .ok token) :
    Issued casing delegator token := by
  obtain ⟨tenant,capabilities,clear⟩ := cleared_of_ok casing ok
  constructor
  · exact tenant
  · intro cap inside
    rw [capabilities] at inside
    exact (cleared_capability casing (clear cap inside)).2

/-- `DelegationRevocationRegistry`: the reasons by delegation. -/
abbrev DelegationRevocationRegistry := Dict String String

namespace DelegationRevocationRegistry

def revoke (registry : DelegationRevocationRegistry) (delegationId reason : String) :
    Except PyError DelegationRevocationRegistry :=
  if Text.strip delegationId = "" then .error (validationError "delegation_id must be a non-empty string")
  else .ok (registry.set (Text.strip delegationId) (Text.strip reason))

def isRevoked (registry : DelegationRevocationRegistry) (delegationId : String) : Bool :=
  Text.strip delegationId != "" && (registry.get? (Text.strip delegationId)).isSome

end DelegationRevocationRegistry
end RevPilot.Identity
