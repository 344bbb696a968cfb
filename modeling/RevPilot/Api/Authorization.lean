import RevPilot.Shared.Context
import RevPilot.Shared.Errors
import RevPilot.Library.PyFloat
import RevPilot.Approval.Digest

/-! Role checks in front of the API's handlers. -/
namespace RevPilot.Api
open Library Shared
variable (casing : Text.Casing)

def upperRoles (principal : PrincipalContext) : List String := principal.roles.map casing.upper

/-- `user_roles.intersection(allowed)` is not empty. -/
def meets (roles allowed : List String) : Bool := roles.any allowed.contains

def requireRoles (allowedRoles : List String) (principal : PrincipalContext) : Except PyError PrincipalContext :=
  if principal.isSystem || principal.roles.contains "SYSTEM_ADMIN" || principal.roles.contains "platform_admin" then
    .ok principal
  else if meets (upperRoles casing principal) (allowedRoles.map casing.upper) then .ok principal
  else
    let required := String.intercalate ", " allowedRoles
    .error (authorizationError s!"Principal '{principal.principalId.value}' lacks required role ({required})."
      [(.str "roles",.list (principal.roles.map .str)),(.str "required",.list (allowedRoles.map .str))])

def allowedForTier (tierUpper : String) : List String :=
  if tierUpper = "TIER_1" then ["TIER_1","TIER_2","TIER_3","SYSTEM_ADMIN","OPERATOR"]
  else if tierUpper = "TIER_2" then ["TIER_2","TIER_3","SYSTEM_ADMIN"]
  else ["TIER_3","SYSTEM_ADMIN"]

def requireHumanApprovalAuthority (tier : String) (principal : PrincipalContext) :
    Except PyError PrincipalContext :=
  let pid := principal.principalId.value
  if Text.startsWith pid "agt_" || Text.startsWith pid "agent_" then
    .error (authorizationError "Autonomous AI agents are strictly forbidden from approving actions (INV-ACT-003)."
      [(.str "principal_id",.str pid)])
  else
    let tierUpper := casing.upper tier
    if meets (upperRoles casing principal) (allowedForTier tierUpper) || principal.isSystem then .ok principal
    else .error (authorizationError s!"Principal '{pid}' lacks {tierUpper} human approval authority."
      [(.str "roles",.list (principal.roles.map .str)),(.str "required_tier",.str tierUpper)])

end RevPilot.Api

/-! The approval records of the API: dictionaries with optional keys, of which
`none` stands for an absent key. -/
namespace RevPilot.Api
open Library Shared Approval

/-- `expiry_time`: an ISO text or an instant. -/
inductive Expiry : Type
  | text (iso : String)
  | instant (time : UtcDateTime)

structure ApprovalData where
  tenantId : Option String := none
  actionType : Option String := none
  targetEntityRefs : Option (List String) := none
  payload : Option Payload := none
  payloadDigest : Option String := none
  policyDigest : Option String := none
  estimatedCostUsd : Option PyFloat := none
  costUsd : Option PyFloat := none
  requiredApprovalTier : Option String := none
  status : Option String := none
  expiryTime : Option Expiry := none
  requesterPrincipalId : Option String := none
  tampered : Bool := false
  digestMismatch : Bool := false
  policyVersionMismatch : Bool := false
  artifact : Option ApprovalArtifact := none
  approverPrincipalId : Option String := none
  signedAt : Option String := none

end RevPilot.Api
