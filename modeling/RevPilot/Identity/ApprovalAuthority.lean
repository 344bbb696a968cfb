import RevPilot.Identity.Authorization

/-! What a delegation may do to approvals. The factory looks for the resource
`approval` and for two wildcards, the match later honours every wildcard resource. -/
namespace RevPilot.Identity
open Library Shared
open AuthorizationService (delegatorTenant delegator_bound)

/-- Some approval is within what is granted. -/
def reachesApproval (granted : LowerSet Permission) : Prop := ∃ p ∈ granted, p.resource = "approval"

private theorem approval_accepted : isComponent "approval" = true := by decide +kernel

/-- A grant matches an approval by naming the resource or by a wildcard for it. -/
theorem matches_approval {granted required : Permission} (approval : required.resource = "approval")
    (allowed : granted.matches required = true) : granted.resource = "*" ∨ granted.resource = "approval" := by
  unfold Permission.matches at allowed
  split at allowed
  next wild => exact .inl wild
  next =>
  split at allowed
  next same => exact .inr (same.trans approval)
  next => cases allowed

/-- A wildcard resource matches the approval with its own action. -/
theorem wildcard_matches_approval {granted : Permission} (wild : granted.resource = "*") :
    granted.matches ⟨"approval",granted.action,approval_accepted,granted.actionAccepted⟩ = true := by
  simp [Permission.matches,wild]

/-- What a list of grants authorises reaches an approval exactly through a grant for
every resource or for that one. -/
theorem reachesApproval_iff (granted : List Permission) :
    reachesApproval (authority granted) ↔ ∃ cap ∈ granted, cap.resource = "*" ∨ cap.resource = "approval" := by
  constructor
  · rintro ⟨required,within,approval⟩
    obtain ⟨cap,inside,allowed⟩ := List.any_eq_true.mp (mem_authority.mp within)
    exact ⟨cap,inside,matches_approval approval allowed⟩
  · rintro ⟨cap,inside,wild | own⟩
    · refine ⟨⟨"approval",cap.action,approval_accepted,cap.actionAccepted⟩,?_,rfl⟩
      exact mem_authority.mpr (List.any_eq_true.mpr ⟨cap,inside,wildcard_matches_approval wild⟩)
    · exact ⟨cap,mem_authority.mpr (List.any_eq_true.mpr ⟨cap,inside,le_refl cap⟩),own⟩

/-- A token that was issued allows nothing on approvals exactly when none of the
requested capabilities has a wildcard resource, whatever its action is. -/
theorem approval_withheld_iff (casing : Text.Casing) (delegator : Principal) (tenantId : TenantId) (args : Issue)
    (clock : UtcDateTime) (digits : String) (token : DelegationToken)
    (issued : issueDelegation casing delegator tenantId args clock digits = .ok token) :
    (∀ permission : Permission, permission.resource = "approval" → token.allowsCapability permission = false) ↔
    ∀ cap ∈ args.capabilities, cap.resource ≠ "*" := by
  obtain ⟨_,capabilities,clear⟩ := cleared_of_ok casing issued
  have allowed (permission : Permission) :
      token.allowsCapability permission = true ↔ permission ∈ authority args.capabilities := by
    rw [mem_authority,DelegationToken.allowsCapability,capabilities]
  have withheld : (∀ permission : Permission, permission.resource = "approval" →
      token.allowsCapability permission = false) ↔ ¬ reachesApproval (authority args.capabilities) := by
    simp only [reachesApproval,← allowed,not_exists,not_and,← Bool.not_eq_true]
    exact forall_congr' fun permission => imp_not_comm
  rw [withheld,reachesApproval_iff]
  constructor
  · intro closed cap inside wild
    exact closed ⟨cap,inside,.inl wild⟩
  · rintro plain ⟨cap,inside,wild | approval⟩
    · exact plain cap inside wild
    · exact (cleared_capability casing (clear cap inside)).1 approval

def sampleAdministrator : Principal where
  id := .principal ⟨"usr_ops",Eq.refl true⟩
  type := .user
  tenantId := some delegatorTenant
  permissions := ["*:*"]
  tenantBound := delegator_bound

def requesting (resource action : String) (resourceAccepted : isComponent resource = true := by exact Eq.refl true)
    (actionAccepted : isComponent action = true := by exact Eq.refl true) : Issue where
  taskId := "tsk_1"
  capabilities := [⟨resource,action,resourceAccepted,actionAccepted⟩]
  targetResources := ["inv_42"]

/-- A token for reading investigations withholds every approval. -/
theorem reader_approval_withheld :
    ∃ token, issueDelegation Text.plainCasing.toCasing sampleAdministrator delegatorTenant
        (requesting "investigation" "read") ⟨0⟩ "0123456789abcdef" = .ok token ∧
      ((∀ permission : Permission, permission.resource = "approval" →
        token.allowsCapability permission = false) ↔
      ∀ cap ∈ (requesting "investigation" "read").capabilities, cap.resource ≠ "*") := by
  have run : (issueDelegation Text.plainCasing.toCasing sampleAdministrator delegatorTenant
      (requesting "investigation" "read") ⟨0⟩ "0123456789abcdef").toOption.isSome = true := by decide +kernel
  cases issued : issueDelegation Text.plainCasing.toCasing sampleAdministrator delegatorTenant
      (requesting "investigation" "read") ⟨0⟩ "0123456789abcdef" with
  | error e => simp [issued,Except.toOption] at run
  | ok token => exact ⟨token,rfl,approval_withheld_iff _ _ _ _ _ _ token issued⟩

/-- A delegation for `*:approve` is issued and approves. -/
theorem wildcard_approves :
    ∃ token, issueDelegation Text.plainCasing.toCasing sampleAdministrator delegatorTenant (requesting "*" "approve")
        ⟨0⟩ "0123456789abcdef" = .ok token ∧
      token.allowsCapability (StandardRoles.permission "approval" "approve") = true := by
  have run : (issueDelegation Text.plainCasing.toCasing sampleAdministrator delegatorTenant (requesting "*" "approve")
      ⟨0⟩ "0123456789abcdef").toOption.any
        (·.allowsCapability (StandardRoles.permission "approval" "approve")) = true := by decide +kernel
  cases issued : issueDelegation Text.plainCasing.toCasing sampleAdministrator delegatorTenant (requesting "*" "approve")
      ⟨0⟩ "0123456789abcdef" with
  | error e => simp [issued,Except.toOption] at run
  | ok token => exact ⟨token,rfl,by simpa [issued,Except.toOption] using run⟩

end RevPilot.Identity
