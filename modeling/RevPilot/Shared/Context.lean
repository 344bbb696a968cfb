import RevPilot.Shared.Identifiers

/-! Tenant and principal contexts. A principal that is not a system actor
carries the proof that it has a tenant. -/
namespace RevPilot.Shared
open Library

structure TenantContext where
  tenantId : TenantId

structure PrincipalContext where
  principalId : PrincipalId
  tenantId : Option TenantId
  roles : List String := []
  permissions : List String := []
  isSystem : Bool := false
  tenantScoped : isSystem = true ∨ tenantId ≠ none

namespace PrincipalContext
variable (casing : Text.Casing)

/-- Case-insensitive membership, as both lists of the context are read. -/
def holds (names : List String) (name : String) : Bool :=
  (names.map casing.lower).contains (casing.lower name)

def hasRole (principal : PrincipalContext) (role : String) : Bool := holds casing principal.roles role

def hasPermission (principal : PrincipalContext) (permission : String) : Bool :=
  holds casing principal.permissions permission

end PrincipalContext
end RevPilot.Shared
