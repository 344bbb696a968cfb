import RevPilot.Library.Dict
import RevPilot.Library.Program
import Mathlib.Data.List.Dedup
import RevPilot.Tenancy.Domain

/-! `TenantService` as programs over the in-memory repository and the service's own
dictionaries. The readings of the clock, in their order, and the generated
identifiers are arguments. -/
namespace RevPilot.Tenancy
open Library Shared Program

/-- The repository, the service's dictionaries and those of the deletion saga. What the
source files under `str(tenant_id)` is filed under the identifier. -/
structure TenancyWorld where
  tenants : Dict TenantId Tenant := .empty
  organizations : Dict OrganizationId Organization := .empty
  provisioningKeys : Dict String TenantId := .empty
  legalHolds : Dict TenantId LegalHoldRecord := .empty
  allocatedResources : Dict TenantId (List String) := .empty
  issuedCertificates : Dict TenantId DeletionCertificate := .empty
  deletionLogs : List DeletionLog := []

inductive TenancyCall : Type
  | getById (tenantId : TenantId)
  | getOrganizationById (organizationId : OrganizationId)
  | saveTenant (tenant : Tenant)
  | saveOrganization (organization : Organization)
  | updateStatus (tenantId : TenantId) (status : TenantStatus) (reason : Option String) (now : UtcDateTime)
  | provisioningKey (key : String)
  | putProvisioningKey (key : String) (tenantId : TenantId)
  | legalHold (tenantId : TenantId)
  | putLegalHold (tenantId : TenantId) (record : LegalHoldRecord)
  | putAllocated (tenantId : TenantId) (resources : List String)
  | certify (certificate : DeletionCertificate) (log : DeletionLog)

def TenancyReply : TenancyCall → Type
  | .getById _ => Option Tenant
  | .getOrganizationById _ => Option Organization
  | .updateStatus .. => Except PyError Tenant
  | .provisioningKey _ => Option TenantId
  | .legalHold _ => Option LegalHoldRecord
  | _ => Unit

def tenantNotFound (tenantId : TenantId) : PyError :=
  notFoundError s!"Tenant '{tenantId.value}' not found" [(.str "tenant_id",.str tenantId.value)]

def serve : (c : TenancyCall) → TenancyWorld → TenancyReply c × TenancyWorld
  | .getById t, w => (w.tenants.get? t,w)
  | .getOrganizationById o, w => (w.organizations.get? o,w)
  | .saveTenant tenant, w => ((),{ w with tenants := w.tenants.set tenant.id tenant })
  | .saveOrganization org, w => ((),{ w with organizations := w.organizations.set org.id org })
  | .updateStatus t status reason now, w =>
    match w.tenants.get? t with
    | none => (.error (tenantNotFound t),w)
    | some tenant =>
      match tenant.updateStatus status reason now with
      | .error e => (.error e,w)
      | .ok updated => (.ok updated,{ w with tenants := w.tenants.set t updated })
  | .provisioningKey key, w => (w.provisioningKeys.get? key,w)
  | .putProvisioningKey key t, w => ((),{ w with provisioningKeys := w.provisioningKeys.set key t })
  | .legalHold t, w => (w.legalHolds.get? t,w)
  | .putLegalHold t record, w => ((),{ w with legalHolds := w.legalHolds.set t record })
  | .putAllocated t resources, w => ((),{ w with allocatedResources := w.allocatedResources.set t resources })
  | .certify certificate log, w =>
    ((),{ w with issuedCertificates := w.issuedCertificates.set certificate.tenantId certificate
                 deletionLogs := w.deletionLogs ++ [log] })

abbrev TenancyProg (A : Type) := Prog TenancyCall TenancyReply PyError A

namespace TenantService

def updateStatus (tenantId : TenantId) (status : TenantStatus) (now : UtcDateTime) (reason : Option String := none) :
    TenancyProg Tenant := do
  let reply ← Prog.call (TenancyCall.updateStatus tenantId status reason now)
  Prog.ofExcept reply

def getTenant (tenantId : TenantId) : TenancyProg Tenant := do
  match ← Prog.call (TenancyCall.getById tenantId) with
  | none => throw (tenantNotFound tenantId)
  | some tenant => return tenant

def createOrganization (name : String) (orgId : Option OrganizationId) (generated : OrganizationId)
    (now : UtcDateTime) : TenancyProg Organization :=
  if nameAccepted : Text.strip name ≠ "" then do
    let org : Organization := { id := orgId.getD generated, name := name, createdAt := now, nameAccepted := nameAccepted }
    Prog.call (TenancyCall.saveOrganization org)
    return org
  else throw (validationError "Organization name cannot be empty or whitespace")

/-- `Tenant(…)` of a tenant in its first status. -/
def newTenant (id : TenantId) (organizationId : OrganizationId) (name : String) (tier : SubscriptionTier)
    (entitlement : Entitlement) (now : UtcDateTime) : Except PyError Tenant :=
  if nameAccepted : Text.strip name ≠ "" then
    .ok { id := id, organizationId := organizationId, name := name, status := .provisioning, tier := tier
          entitlement := entitlement, createdAt := now, updatedAt := now, nameAccepted := nameAccepted }
  else .error (validationError "Tenant name cannot be empty or whitespace")

def requireOrganization (organizationId : OrganizationId) : TenancyProg Organization := do
  match ← Prog.call (TenancyCall.getOrganizationById organizationId) with
  | none =>
    throw (notFoundError s!"Cannot provision tenant: Organization '{organizationId.value}' does not exist"
      [(.str "organization_id",.str organizationId.value)])
  | some org => return org

def provisionTenant (organizationId : OrganizationId) (name : String) (tier : SubscriptionTier)
    (entitlement : Option Entitlement) (tenantId : Option TenantId) (generated : TenantId) (now : UtcDateTime) :
    TenancyProg Tenant := do
  let _ ← requireOrganization organizationId
  let tenant ← Prog.ofExcept
    (newTenant (tenantId.getD generated) organizationId name tier (entitlement.getD { tier := tier }) now)
  Prog.call (TenancyCall.saveTenant tenant)
  return tenant

/-- The steps after the first one, which is never tested for a failure. -/
def allocationSteps : List String :=
  ["redis_cache_namespace","s3_object_prefix","vector_rag_collection","default_quotas","rbac_tenant_admin"]

/-- The list of allocated resources is shared with the service and cleared before the
message is made, so the message shows an empty list. -/
def allocate (tenantId : TenantId) (simulateStepFailure : Option String) (now : UtcDateTime) :
    List String → List String → TenancyProg Unit
  | [], _ => return ()
  | step :: steps, allocated =>
    if simulateStepFailure = some step then do
      Prog.call (TenancyCall.putAllocated tenantId [])
      let _ ← updateStatus tenantId .provisionFailed now
      throw (lifecycleError "PARTIAL_PROVISIONING_BLOCKED"
        s!"Resource allocation failed at step '{step}'; rolled back []"
        [(.str "failed_step",.str step),(.str "tenant_id",.str tenantId.value)])
    else do
      Prog.call (TenancyCall.putAllocated tenantId (allocated ++ [step]))
      allocate tenantId simulateStepFailure now steps (allocated ++ [step])

/-- What `provision_tenant_idempotent` does once the tenant has been saved. -/
def allocateResources (request : TenantProvisioningRequest) (simulateStepFailure : Option String)
    (tenantId : TenantId) (now : UtcDateTime) : TenancyProg Tenant := do
  Prog.call (TenancyCall.putAllocated tenantId ["relational_schema"])
  allocate tenantId simulateStepFailure now allocationSteps ["relational_schema"]
  let updated ← updateStatus tenantId .activating now
  match request.idempotencyKey.filter (· ≠ "") with
  | none => return updated
  | some key =>
    Prog.call (TenancyCall.putProvisioningKey key tenantId)
    return updated

/-- The part of `provision_tenant_idempotent` after the look at the idempotency key. -/
def provisionFresh (request : TenantProvisioningRequest) (simulateStepFailure : Option String) (generated : TenantId)
    (clock : Nat → UtcDateTime) : TenancyProg Tenant := do
  let _ ← requireOrganization request.organizationId
  let tenantId := request.tenantId.getD generated
  let tenant ← Prog.ofExcept
    (newTenant tenantId request.organizationId request.name request.tier { tier := request.tier } (clock 0))
  Prog.call (TenancyCall.saveTenant tenant)
  allocateResources request simulateStepFailure tenantId (clock 1)

def provisionTenantIdempotent (request : TenantProvisioningRequest) (simulateStepFailure : Option String)
    (generated : TenantId) (clock : Nat → UtcDateTime) : TenancyProg Tenant :=
  match request.idempotencyKey.filter (· ≠ "") with
  | none => provisionFresh request simulateStepFailure generated clock
  | some key => do
    match ← Prog.call (TenancyCall.provisioningKey key) with
    | none => provisionFresh request simulateStepFailure generated clock
    | some known =>
      match ← Prog.call (TenancyCall.getById known) with
      | some existing => return existing
      | none => provisionFresh request simulateStepFailure generated clock

def activateTenant (tenantId : TenantId) (now : UtcDateTime) : TenancyProg Tenant := updateStatus tenantId .active now

/-- What a probe runner returns, as far as its truth is read, with its `str`. -/
inductive ProbeResult : Type
  | checks (values : List Bool) (text : String)
  | answer (passed : Bool)
  | outcome (isSuccess : Bool) (text : String)
  | other (truth : Bool) (text : String)

def ProbeResult.allPassed : ProbeResult → Bool
  | .checks values _ => values.all id
  | .answer passed => passed
  | .outcome isSuccess _ => isSuccess
  | .other truth _ => truth

def ProbeResult.text : ProbeResult → String
  | .checks _ text | .outcome _ text | .other _ text => text
  | .answer passed => if passed then "True" else "False"

/-- The probe runner is given by what its run comes to, if there is one. -/
def activateTenantWithPreconditions (tenantId : TenantId) (probeRunner : Option (Except PyError ProbeResult))
    (now : UtcDateTime) : TenancyProg Tenant := do
  let tenant ← getTenant tenantId
  if tenant.status ≠ .activating ∧ tenant.status ≠ .provisioning then
    if tenant.status = .active then return tenant
    else throw (validationError
      s!"Cannot activate tenant in state '{tenant.status.text}'; must be ACTIVATING or PROVISIONING")
  else
    match probeRunner with
    | none => updateStatus tenantId .active now
    | some run =>
      let result ← Prog.ofExcept run
      if result.allPassed then updateStatus tenantId .active now
      else throw (lifecycleError "ISOLATION_VERIFICATION_FAILED"
        s!"Pre-activation isolation probes failed for tenant '{tenantId.value}'"
        [(.str "tenant_id",.str tenantId.value),(.str "probe_results",.str result.text)])

def suspendTenant (tenantId : TenantId) (reason : String) (now : UtcDateTime) : TenancyProg Tenant := do
  let tenant ← getTenant tenantId
  if tenant.status = .suspended then return tenant
  else updateStatus tenantId .suspended now (some reason)

def reactivateTenant (tenantId : TenantId) (resolutionProof : String) (now : UtcDateTime) : TenancyProg Tenant :=
  if Text.strip resolutionProof = "" then throw (validationError "Reactivation requires non-empty resolution proof")
  else do
    let tenant ← getTenant tenantId
    if tenant.status = .active then return tenant
    else if tenant.status ≠ .suspended then
      throw (validationError s!"Cannot reactivate tenant in state '{tenant.status.text}'; must be SUSPENDED")
    else updateStatus tenantId .active now

def applyLegalHold (tenantId : TenantId) (matterId justification actor : String) (clock : Nat → UtcDateTime) :
    TenancyProg LegalHoldRecord := do
  let _ ← getTenant tenantId
  if Text.strip matterId = "" then throw (validationError "Legal hold requires matter_id")
  else if Text.strip justification = "" then throw (validationError "Legal hold requires justification")
  else
    let _ ← updateStatus tenantId .legalHold (clock 0)
    let record : LegalHoldRecord :=
      { matterId := Text.strip matterId, tenantId := tenantId, justification := Text.strip justification
        appliedBy := actor, appliedAt := clock 1 }
    Prog.call (TenancyCall.putLegalHold tenantId record)
    return record

def releaseLegalHold (tenantId : TenantId) (matterId : String) (restoreStatus : TenantStatus)
    (clock : Nat → UtcDateTime) : TenancyProg Tenant := do
  let _ ← getTenant tenantId
  match ← Prog.call (TenancyCall.legalHold tenantId) with
  | none => updateStatus tenantId restoreStatus (clock 0)
  | some record =>
    if record.matterId = matterId then do
      Prog.call (TenancyCall.putLegalHold tenantId { record with releasedAt := some (clock 0), isActive := false })
      updateStatus tenantId restoreStatus (clock 1)
    else updateStatus tenantId restoreStatus (clock 0)

def isUnderLegalHold (tenantId : TenantId) : TenancyProg Bool := do
  match ← Prog.call (TenancyCall.getById tenantId) with
  | some tenant =>
    if tenant.status = .legalHold then return true
    else
      let record ← Prog.call (TenancyCall.legalHold tenantId)
      return record.any (·.isActive)
  | none =>
    let record ← Prog.call (TenancyCall.legalHold tenantId)
    return record.any (·.isActive)

def deactivateTenant (tenantId : TenantId) (now : UtcDateTime) : TenancyProg Tenant :=
  updateStatus tenantId .deactivated now

end TenantService

namespace TenantCascadeDeletionSaga
open TenantService
variable (sha256 : String → String)

def deletionSteps : List String :=
  ["soft_tombstone_tenants_table","revoke_sessions_and_tokens","purge_redis_cache","purge_vector_embeddings",
    "purge_search_projections","purge_s3_object_storage","purge_relational_partitions",
    "purge_temporal_workflow_history","purge_connector_sync_state","purge_ml_feature_projections"]

/-- The loop over the steps; what it returns are the purged ones. -/
def purge (tenantId : TenantId) (simulateStepFailure : Option String) (now : UtcDateTime) :
    List String → List String → TenancyProg (List String)
  | [], purged => return purged
  | step :: steps, purged =>
    if simulateStepFailure = some step then do
      let _ ← updateStatus tenantId .deletionStaged now
      throw (deletionIncompleteError
        s!"Cascade deletion halted at subsystem '{step}'; state flagged DELETION_STAGED"
        [(.str "failed_subsystem",.str step),(.str "tenant_id",.str tenantId.value)])
    else purge tenantId simulateStepFailure now steps (purged ++ [step])

def digest (certificateId : UUIDv7) (tenantId : TenantId) (deletedAt : UtcDateTime)
    (purged dualApprovers : List String) : String :=
  sha256 ((PyValue.dumps ⟨true,true⟩ PyValue.noDefault (.dict
    [(.str "certificate_id",.str certificateId.value),(.str "tenant_id",.str tenantId.value),
      (.str "deleted_at",.str deletedAt.isoformat),(.str "purged_partitions",.list (purged.map .str)),
      (.str "dual_approvers",.list (dualApprovers.map .str))])).getD "")

def executeCascadeDeletion (tenantId : TenantId) (dualApprovers : List String) (simulateStepFailure : Option String)
    (customPostScanLeak : Bool) (certificateId : UUIDv7) (clock : Nat → UtcDateTime) :
    TenancyProg DeletionCertificate := do
  if ← isUnderLegalHold tenantId then
    throw (legalHoldActiveError
      s!"Cannot delete tenant '{tenantId.value}': Active legal hold in effect (409 Conflict)"
      [(.str "tenant_id",.str tenantId.value),(.str "status",.str "LEGAL_HOLD")])
  else if dualApprovers.dedup.length < 2 then
    throw (validationError "Cascade deletion requires verified dual human approval signatures (INV-ACT-003)"
      [(.str "provided_approvers",.list (dualApprovers.map .str))])
  else
    let _ ← getTenant tenantId
    let _ ← updateStatus tenantId .deleting (clock 0)
    let purged ← purge tenantId simulateStepFailure (clock 1) deletionSteps []
    if customPostScanLeak then
      throw (deletionIncompleteError
        s!"Post-deletion verification probe detected surviving records for tenant '{tenantId.value}'"
        [(.str "tenant_id",.str tenantId.value),(.str "leak_detected",.bool true)])
    else
      let _ ← updateStatus tenantId .deleted (clock 2)
      let certificate : DeletionCertificate :=
        { certificateId := certificateId, tenantId := tenantId, deletedAt := clock 1, purgedPartitions := purged
          deletionDigestSha256 := digest sha256 certificateId tenantId (clock 1) purged dualApprovers
          dualApprovers := dualApprovers }
      Prog.call (TenancyCall.certify certificate
        { tenantId := tenantId, certificateId := certificateId, digest := certificate.deletionDigestSha256
          purgedCount := purged.length })
      return certificate

end TenantCascadeDeletionSaga

/-- The operations that write, with their arguments; a run of them is a run of the service. -/
inductive TenancyOperation : Type
  | createOrganization (name : String) (orgId : Option OrganizationId) (generated : OrganizationId)
  | provisionTenant (organizationId : OrganizationId) (name : String) (tier : SubscriptionTier)
      (entitlement : Option Entitlement) (tenantId : Option TenantId) (generated : TenantId)
  | provisionTenantIdempotent (request : TenantProvisioningRequest) (simulateStepFailure : Option String)
      (generated : TenantId)
  | activateTenant (tenantId : TenantId)
  | activateTenantWithPreconditions (tenantId : TenantId)
      (probeRunner : Option (Except PyError TenantService.ProbeResult))
  | suspendTenant (tenantId : TenantId) (reason : String)
  | reactivateTenant (tenantId : TenantId) (resolutionProof : String)
  | applyLegalHold (tenantId : TenantId) (matterId justification actor : String)
  | releaseLegalHold (tenantId : TenantId) (matterId : String) (restoreStatus : TenantStatus)
  | deactivateTenant (tenantId : TenantId)
  | executeCascadeDeletion (tenantId : TenantId) (dualApprovers : List String) (simulateStepFailure : Option String)
      (customPostScanLeak : Bool) (certificateId : UUIDv7)

/-- The coroutine of an operation; what it returns plays no part in a run. -/
def TenancyOperation.prog (sha256 : String → String) (clock : Nat → UtcDateTime) :
    TenancyOperation → TenancyProg Unit
  | .createOrganization name orgId generated => do
    let _ ← TenantService.createOrganization name orgId generated (clock 0)
  | .provisionTenant org name tier entitlement tenantId generated => do
    let _ ← TenantService.provisionTenant org name tier entitlement tenantId generated (clock 0)
  | .provisionTenantIdempotent request failure generated => do
    let _ ← TenantService.provisionTenantIdempotent request failure generated clock
  | .activateTenant t => do
    let _ ← TenantService.activateTenant t (clock 0)
  | .activateTenantWithPreconditions t runner => do
    let _ ← TenantService.activateTenantWithPreconditions t runner (clock 0)
  | .suspendTenant t reason => do
    let _ ← TenantService.suspendTenant t reason (clock 0)
  | .reactivateTenant t resolution => do
    let _ ← TenantService.reactivateTenant t resolution (clock 0)
  | .applyLegalHold t matter justification actor => do
    let _ ← TenantService.applyLegalHold t matter justification actor clock
  | .releaseLegalHold t matter restore => do
    let _ ← TenantService.releaseLegalHold t matter restore clock
  | .deactivateTenant t => do
    let _ ← TenantService.deactivateTenant t (clock 0)
  | .executeCascadeDeletion t approvers failure leak certificateId => do
    let _ ← TenantCascadeDeletionSaga.executeCascadeDeletion sha256 t approvers failure leak certificateId clock

def sampleOrganization : OrganizationId := ⟨"org_acme",Eq.refl true⟩

def sampleTenant : TenantId := ⟨"tnt_acme",Eq.refl true⟩

def atEpoch (ops : List TenancyOperation) : List (TenancyOperation × (Nat → UtcDateTime)) := ops.map (fun op => (op,fun _ => ⟨0⟩))

def onboarding : List TenancyOperation :=
  [.createOrganization "Acme" (some sampleOrganization) sampleOrganization,
    .provisionTenant sampleOrganization "Acme" .shared none (some sampleTenant) sampleTenant,
    .activateTenant sampleTenant]

end RevPilot.Tenancy
