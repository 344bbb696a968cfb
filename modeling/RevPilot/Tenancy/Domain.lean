import RevPilot.Shared.Errors
import RevPilot.Shared.Identifiers
import RevPilot.Shared.Temporal

/-! Tenants, organizations, legal holds and deletion certificates. -/
namespace RevPilot.Tenancy
open Library Shared

inductive TenantStatus : Type
  | requested
  | provisioning
  | activating
  | active
  | suspended
  | legalHold
  | exporting
  | deleting
  | deletionStaged
  | deleted
  | terminated
  | provisionFailed
  | recovering
  | deactivated
  deriving DecidableEq

namespace TenantStatus

/-- `status.value`. -/
def text : TenantStatus → String
  | requested => "requested"
  | provisioning => "provisioning"
  | activating => "activating"
  | active => "active"
  | suspended => "suspended"
  | legalHold => "legal_hold"
  | exporting => "exporting"
  | deleting => "deleting"
  | deletionStaged => "deletion_staged"
  | deleted => "deleted"
  | terminated => "terminated"
  | provisionFailed => "provision_failed"
  | recovering => "recovering"
  | deactivated => "deactivated"

/-- The statuses `activate` and `suspend` treat as terminal. -/
def isTerminal : TenantStatus → Bool
  | deactivated | deleted | terminated => true
  | _ => false

end TenantStatus

abbrev OrganizationId := EntityId "org_"

inductive SubscriptionTier : Type
  | shared
  | enterprise
  | regulated
  deriving DecidableEq

structure Entitlement where
  tier : SubscriptionTier
  maxSeats : Int := 5
  seatsAccepted : 1 ≤ maxSeats := by decide

structure Organization where
  id : OrganizationId
  name : String
  createdAt : UtcDateTime
  isActive : Bool := true
  nameAccepted : Text.strip name ≠ ""

def lifecycleError (code message : String) (details : List (PyKey × PyValue)) : PyError :=
  .domain { code := code, message := message, details := details }

def legalHoldActiveError (message : String) (details : List (PyKey × PyValue) := []) : PyError :=
  lifecycleError "LEGAL_HOLD_ACTIVE" message details

def deletionIncompleteError (message : String) (details : List (PyKey × PyValue)) : PyError :=
  lifecycleError "DELETION_INCOMPLETE" message details

structure Tenant where
  id : TenantId
  organizationId : OrganizationId
  name : String
  status : TenantStatus
  tier : SubscriptionTier
  entitlement : Entitlement
  createdAt : UtcDateTime
  updatedAt : UtcDateTime
  suspensionReason : Option String := none
  nameAccepted : Text.strip name ≠ ""

namespace Tenant

def activate (tenant : Tenant) (now : UtcDateTime) : Except PyError Tenant :=
  if tenant.status.isTerminal then
    .error (validationError s!"Cannot activate tenant in terminal state ({tenant.status.text})")
  else .ok { tenant with status := .active, suspensionReason := none, updatedAt := now }

def suspend (tenant : Tenant) (reason : String) (now : UtcDateTime) : Except PyError Tenant :=
  if tenant.status.isTerminal then
    .error (validationError s!"Cannot suspend tenant in terminal state ({tenant.status.text})")
  else if Text.strip reason = "" then .error (validationError "Suspension reason cannot be empty")
  else .ok { tenant with status := .suspended, suspensionReason := some (Text.strip reason), updatedAt := now }

def applyLegalHold (tenant : Tenant) (now : UtcDateTime) : Except PyError Tenant :=
  if tenant.status = .deleted ∨ tenant.status = .terminated then
    .error (validationError s!"Cannot apply legal hold to deleted tenant ({tenant.status.text})")
  else .ok { tenant with status := .legalHold, updatedAt := now }

def stageDeletion (tenant : Tenant) (now : UtcDateTime) : Except PyError Tenant :=
  if tenant.status = .legalHold then .error (legalHoldActiveError "Cannot delete tenant under legal hold")
  else .ok { tenant with status := .deletionStaged, updatedAt := now }

def markDeleted (tenant : Tenant) (now : UtcDateTime) : Tenant :=
  { tenant with status := .deleted, updatedAt := now }

def deactivate (tenant : Tenant) (now : UtcDateTime) : Tenant :=
  { tenant with status := .deactivated, updatedAt := now }

/-- What `update_status` of the repository does to the tenant it finds. -/
def updateStatus (tenant : Tenant) (status : TenantStatus) (reason : Option String) (now : UtcDateTime) :
    Except PyError Tenant :=
  match status with
  | .active => tenant.activate now
  | .suspended => tenant.suspend ((reason.filter (· ≠ "")).getD "Administrative suspension") now
  | .legalHold => tenant.applyLegalHold now
  | .deletionStaged => tenant.stageDeletion now
  | .deleted => .ok (tenant.markDeleted now)
  | .deactivated => .ok (tenant.deactivate now)
  | other => .ok { tenant with status := other, updatedAt := now }

/-- A status that is written is the one asked for, and the tenant keeps its identifier. -/
theorem updateStatus_ok {tenant updated : Tenant} {status : TenantStatus} {reason : Option String} {now : UtcDateTime}
    (ok : tenant.updateStatus status reason now = .ok updated) : updated.status = status ∧ updated.id = tenant.id := by
  unfold updateStatus at ok
  split at ok
  next =>
    unfold activate at ok
    split at ok
    · cases ok
    · cases ok
      exact ⟨rfl,rfl⟩
  next =>
    unfold suspend at ok
    split at ok
    · cases ok
    split at ok
    · cases ok
    · cases ok
      exact ⟨rfl,rfl⟩
  next =>
    unfold applyLegalHold at ok
    split at ok
    · cases ok
    · cases ok
      exact ⟨rfl,rfl⟩
  next =>
    unfold stageDeletion at ok
    split at ok
    · cases ok
    · cases ok
      exact ⟨rfl,rfl⟩
  all_goals
    cases ok
    exact ⟨rfl,rfl⟩

end Tenant

structure LegalHoldRecord where
  matterId : String
  tenantId : TenantId
  justification : String
  appliedBy : String
  appliedAt : UtcDateTime
  releasedAt : Option UtcDateTime := none
  isActive : Bool := true

structure DeletionCertificate where
  certificateId : UUIDv7
  tenantId : TenantId
  deletedAt : UtcDateTime
  purgedPartitions : List String
  deletionDigestSha256 : String
  dualApprovers : List String

/-- An entry of the saga's `deletion_logs`; its event name is always the same. -/
structure DeletionLog where
  tenantId : TenantId
  certificateId : UUIDv7
  digest : String
  purgedCount : Nat

structure TenantProvisioningRequest where
  organizationId : OrganizationId
  name : String
  tier : SubscriptionTier := .shared
  tenantId : Option TenantId := none
  idempotencyKey : Option String := none

end RevPilot.Tenancy
