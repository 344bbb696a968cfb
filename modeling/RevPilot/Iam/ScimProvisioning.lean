import RevPilot.Library.Dict
import RevPilot.Library.Separators
import RevPilot.Library.Text
import RevPilot.Shared.Errors
import RevPilot.Shared.Identifiers
import RevPilot.Shared.Temporal

/-! SCIM provisioning: user and group records by tenant, the revocation store, and the operations
on them. Sets are lists, of which only the members count. -/
namespace RevPilot.Iam
open Library Shared

def scimError (code message : String) (details : List (PyKey × PyValue) := []) : PyError :=
  .domain { code := code, message := message, details := details }

def scimConflictError (message : String) (details : List (PyKey × PyValue)) : PyError :=
  scimError "SCIM_CONFLICT" message details

def scimUserNotFoundError (message : String) (details : List (PyKey × PyValue)) : PyError :=
  scimError "SCIM_USER_NOT_FOUND" message details

structure ScimUserRecord where
  id : String
  userName : String
  email : String
  tenantId : TenantId
  active : PyValue := .bool true
  roles : List PyValue := []
  createdAt : UtcDateTime
  updatedAt : UtcDateTime
  version : Nat := 1

structure ScimGroupRecord where
  id : String
  displayName : String
  tenantId : TenantId
  members : List String := []
  version : Nat := 1

mutual
/-- What `hash` accepts. -/
def hashable : PyValue → Bool
  | .list _ => false
  | .dict _ => false
  | .tuple items => allHashable items
  | _ => true
def allHashable : List PyValue → Bool
  | [] => true
  | item :: items => hashable item && allHashable items
end

def keyValue : PyKey → PyValue
  | .str s => .str s
  | .int i => .int i
  | .bool b => .bool b
  | .float x => .float x
  | .none => .none

/-- `set(v)`. -/
def pySet (v : PyValue) : Except PyError (List PyValue) :=
  let collect (items : List PyValue) : Except PyError (List PyValue) :=
    if allHashable items then .ok items else .error .typeError
  match v with
  | .list items => collect items
  | .tuple items => collect items
  | .dict members => .ok (members.map (fun m => keyValue m.1))
  | .str s => .ok (s.toList.map (fun c => .str (String.singleton c)))
  | _ => .error .typeError

/-- `v.strip().lower()` of a value that has to be a text. -/
def cleaned (lower : String → String) : PyValue → Except PyError String
  | .str s => .ok (lower (Text.strip s))
  | _ => .error .attributeError

abbrev ScimPayload := List (PyKey × PyValue)

/-- `payload.get(key, default)`. -/
def ScimPayload.get (payload : ScimPayload) (key : String) (default : PyValue) : PyValue :=
  (PyValue.lookup payload key).getD default

structure ScimProvisioningService where
  users : Dict String (Dict String ScimUserRecord) := .empty
  groups : Dict String (Dict String ScimGroupRecord) := .empty
  revokedUsers : List String := []

/-- One operation of a patch, read. -/
inductive PatchAction : Type
  | deactivate
  | setRoles (roles : List PyValue)
  | nothing

def PatchAction.isDeactivate : PatchAction → Bool
  | deactivate => true
  | _ => false

/-- What the loop of `update_user` makes of an operation. -/
def patchAction (lower : String → String) : PyValue → Except PyError PatchAction
  | .dict op =>
    match ScimPayload.get op "path" (.str "") with
    | .str rawPath =>
      let path := lower rawPath
      let val := ScimPayload.get op "value" .none
      let nested := match val with
        | .dict members => PyValue.lookup members "active"
        | _ => none
      match (if path = "active" then some val else nested) with
      | some (.bool false) => .ok .deactivate
      | some _ => .ok .nothing
      | none =>
        match val with
        | .list items => if path = "roles" then (pySet (.list items)).map .setRoles else .ok .nothing
        | _ => .ok .nothing
    | _ => .error .attributeError
  | _ => .error .attributeError

namespace ScimProvisioningService

/-- `self._users.get(str(tenant_id), {})`. -/
def tenantStore (s : ScimProvisioningService) (tenantId : TenantId) : Dict String ScimUserRecord :=
  (s.users.get? tenantId.value).getD .empty

def user? (s : ScimProvisioningService) (tenantId : TenantId) (userId : String) : Option ScimUserRecord :=
  (s.tenantStore tenantId).get? userId

def putUser (s : ScimProvisioningService) (tenantId : TenantId) (userId : String) (record : ScimUserRecord) :
    ScimProvisioningService :=
  { s with users := s.users.set tenantId.value ((s.tenantStore tenantId).set userId record) }

def revocationKey (tenantId : TenantId) (userId : String) : String := tenantId.value ++ ":" ++ userId

variable (lower : String → String)

/-- The identifier of a new user; `generated` is `usr_scim_` with its random suffix. -/
def newUserId (payload : ScimPayload) (generated : String) : Except PyError String :=
  let customId := payload.get "id" .none
  if customId.truthy then
    match customId with
    | .str s => .ok (if Text.startsWith s "usr_" then s else generated)
    | _ => .error .attributeError
  else .ok generated

def primaryEmail (payload : ScimPayload) (rawUserName : String) : Except PyError String :=
  match payload.get "emails" (.list []) with
  | .list (.dict first :: _) => cleaned lower (ScimPayload.get first "value" (.str ""))
  | .list (_ :: _) => .error .attributeError
  | _ => cleaned lower (payload.get "email" (.str rawUserName))

/-- The first record that has the user name or the email, with the error it raises. -/
def conflict? (store : Dict String ScimUserRecord) (tenantId : TenantId) (rawUserName email : String) : Option PyError :=
  store.values.findSome? (fun existing =>
    if lower existing.userName = rawUserName then
      some (scimConflictError ("User with userName '" ++ rawUserName ++ "' already exists for tenant")
        [(.str "userName",.str rawUserName),(.str "tenant_id",.str tenantId.value)])
    else if lower existing.email = email then
      some (scimConflictError ("User with email '" ++ email ++ "' already exists for tenant")
        [(.str "email",.str email),(.str "tenant_id",.str tenantId.value)])
    else none)

/-- The record that `create_user` builds, all its checks passed. -/
def newUser (s : ScimProvisioningService) (now : UtcDateTime) (generated : String) (tenantId : TenantId)
    (payload : ScimPayload) : Except PyError ScimUserRecord := do
  let rawUserName ← cleaned lower (payload.get "userName" (.str ""))
  if rawUserName = "" then throw (scimError "VALIDATION_ERROR" "SCIM userName cannot be empty")
  let email ← primaryEmail lower payload rawUserName
  match conflict? lower (s.tenantStore tenantId) tenantId rawUserName email with
  | some conflict => throw conflict
  | none =>
    let userId ← newUserId payload generated
    let roles ← pySet (payload.get "roles" (.list [.str "operator"]))
    return {
      id := userId
      userName := rawUserName
      email := email
      tenantId := tenantId
      active := payload.get "active" (.bool true)
      roles := roles
      createdAt := now
      updatedAt := now }

def createUser (s : ScimProvisioningService) (now : UtcDateTime) (generated : String) (tenantId : TenantId)
    (payload : ScimPayload) : ScimProvisioningService × Except PyError ScimUserRecord :=
  let s := { s with users := s.users.set tenantId.value (s.tenantStore tenantId) }
  match s.newUser lower now generated tenantId payload with
  | .error fault => (s,.error fault)
  | .ok record => (s.putUser tenantId record.id record,.ok record)

/-- The record of a deprovisioned user. -/
def deactivated (now : UtcDateTime) (user : ScimUserRecord) : ScimUserRecord :=
  { user with active := .bool false, version := user.version + 1, updatedAt := now }

def revoke (s : ScimProvisioningService) (tenantId : TenantId) (userId : String) : ScimProvisioningService :=
  { s with revokedUsers := revocationKey tenantId userId :: s.revokedUsers }

/-- `revoker` is what the session revoker raises, if it raises. -/
def deprovisionUser (s : ScimProvisioningService) (now : UtcDateTime) (revoker : Option PyError) (tenantId : TenantId)
    (userId : String) : ScimProvisioningService × Except PyError Unit :=
  match s.user? tenantId userId with
  | none => (s,.error (scimUserNotFoundError
      ("Cannot deprovision: SCIM user '" ++ userId ++ "' not found in tenant")
      [(.str "user_id",.str userId),(.str "tenant_id",.str tenantId.value)]))
  | some user =>
    let s := (s.putUser tenantId userId (deactivated now user)).revoke tenantId userId
    match revoker with
    | some fault => (s,.error fault)
    | none => (s,.ok ())

/-- The effect of one operation of a patch on a stored user. -/
def applyAction (s : ScimProvisioningService) (now : UtcDateTime) (revoker : Option PyError) (tenantId : TenantId)
    (userId : String) : PatchAction → ScimProvisioningService × Except PyError Unit
  | .deactivate => s.deprovisionUser now revoker tenantId userId
  | .setRoles roles =>
    match s.user? tenantId userId with
    | some user => (s.putUser tenantId userId { user with roles := roles },.ok ())
    | none => (s,.ok ())
  | .nothing => (s,.ok ())

/-- The loop over the operations, which stops where one raises; `revoker n` belongs to operation `n`. -/
def applyOperations (s : ScimProvisioningService) (now : UtcDateTime) (revoker : Nat → Option PyError) (tenantId : TenantId)
    (userId : String) : Nat → List PyValue → ScimProvisioningService × Except PyError Unit
  | _, [] => (s,.ok ())
  | n, op :: ops =>
    match patchAction lower op with
    | .error fault => (s,.error fault)
    | .ok action =>
      match s.applyAction now (revoker n) tenantId userId action with
      | (s,.error fault) => (s,.error fault)
      | (s,.ok ()) => s.applyOperations now revoker tenantId userId (n + 1) ops

def updateUser (s : ScimProvisioningService) (now : UtcDateTime) (revoker : Nat → Option PyError) (tenantId : TenantId)
    (userId : String) (patchOperations : List PyValue) : ScimProvisioningService × Except PyError ScimUserRecord :=
  match s.user? tenantId userId with
  | none => (s,.error (scimUserNotFoundError
      ("Cannot update: SCIM user '" ++ userId ++ "' not found in tenant")
      [(.str "user_id",.str userId),(.str "tenant_id",.str tenantId.value)]))
  | some before =>
    match s.applyOperations lower now revoker tenantId userId 0 patchOperations with
    | (s,.error fault) => (s,.error fault)
    | (s,.ok ()) =>
      let user := (s.user? tenantId userId).getD before
      let user := { user with version := user.version + 1, updatedAt := now }
      (s.putUser tenantId userId user,.ok user)

/-- `bool(service.is_user_active(tenant_id, user_id))`. -/
def isUserActive (s : ScimProvisioningService) (tenantId : TenantId) (userId : String) : Bool :=
  if revocationKey tenantId userId ∈ s.revokedUsers then false
  else match s.user? tenantId userId with
  | some user => user.active.truthy
  | none => false

def addRole (role : String) (user : ScimUserRecord) : ScimUserRecord := { user with roles := .str role :: user.roles }

/-- `user_store[uid].roles.add(role)` for every stored member. -/
def addRoles (s : ScimProvisioningService) (tenantId : TenantId) (role : String) :
    List String → ScimProvisioningService
  | [] => s
  | uid :: uids =>
    match s.user? tenantId uid with
    | some user => (s.putUser tenantId uid (addRole role user)).addRoles tenantId role uids
    | none => s.addRoles tenantId role uids

def group? (s : ScimProvisioningService) (tenantId : TenantId) (groupId : String) : Option ScimGroupRecord :=
  ((s.groups.get? tenantId.value).getD .empty).get? groupId

def putGroup (s : ScimProvisioningService) (tenantId : TenantId) (groupId : String) (group : ScimGroupRecord) :
    ScimProvisioningService :=
  { s with groups := s.groups.set tenantId.value (((s.groups.get? tenantId.value).getD .empty).set groupId group) }

/-- The group record that a sync stores. -/
def syncedGroup (s : ScimProvisioningService) (tenantId : TenantId) (groupId : String) (memberIds : List String) :
    ScimGroupRecord :=
  match s.group? tenantId groupId with
  | none => { id := groupId, displayName := groupId, tenantId := tenantId, members := memberIds }
  | some group => { group with members := memberIds, version := group.version + 1 }

def syncGroupMembers (s : ScimProvisioningService) (tenantId : TenantId) (groupId : String) (memberIds : List String)
    (roleBinding : Option String := none) : ScimProvisioningService × ScimGroupRecord :=
  let group := s.syncedGroup tenantId groupId memberIds
  let s := s.putGroup tenantId groupId group
  match roleBinding with
  | some role => (if role = "" then s else s.addRoles tenantId role memberIds,group)
  | none => (s,group)

section records
variable {lower : String → String} (s : ScimProvisioningService) (tenantId : TenantId) (userId : String)

theorem tenant_ext {a b : TenantId} (same : a.value = b.value) : a = b := by
  cases a
  cases b
  congr

theorem user?_putUser (record : ScimUserRecord) (tenant : TenantId) (user : String) :
    (s.putUser tenantId userId record).user? tenant user =
      if tenant = tenantId ∧ user = userId then some record else s.user? tenant user := by
  unfold user? putUser tenantStore
  dsimp only
  rw [Dict.get?_set]
  by_cases own : tenant = tenantId
  · rw [if_pos (congrArg EntityId.value own),Option.getD_some,Dict.get?_set]
    by_cases named : user = userId
    · rw [if_pos named,if_pos ⟨own,named⟩]
    · rw [if_neg named,if_neg (fun both => named both.2),own]
  · rw [if_neg (fun same => own (tenant_ext same)),if_neg (fun both => own both.1)]

@[simp] theorem revokedUsers_putUser (record : ScimUserRecord) :
    (s.putUser tenantId userId record).revokedUsers = s.revokedUsers := rfl

@[simp] theorem revokedUsers_revoke :
    (s.revoke tenantId userId).revokedUsers = revocationKey tenantId userId :: s.revokedUsers := rfl

@[simp] theorem user?_revoke (tenant : TenantId) (user : String) :
    (s.revoke tenantId userId).user? tenant user = s.user? tenant user := rfl

@[simp] theorem user?_putGroup (groupId : String) (group : ScimGroupRecord) (tenant : TenantId) (user : String) :
    (s.putGroup tenantId groupId group).user? tenant user = s.user? tenant user := rfl

@[simp] theorem revokedUsers_putGroup (groupId : String) (group : ScimGroupRecord) :
    (s.putGroup tenantId groupId group).revokedUsers = s.revokedUsers := rfl

/-- Setting a tenant's store to itself changes no record. -/
theorem user?_setdefault (tenant : TenantId) (user : String) :
    user? { s with users := s.users.set tenantId.value (s.tenantStore tenantId) } tenant user = s.user? tenant user := by
  unfold user? tenantStore
  dsimp only
  rw [Dict.get?_set]
  by_cases own : tenant.value = tenantId.value
  · rw [if_pos own,Option.getD_some,own]
  · rw [if_neg own]

theorem revocationKey_eq_iff (t t' : TenantId) (u u' : String) :
    revocationKey t u = revocationKey t' u' ↔ t = t' ∧ u = u' := by
  constructor
  · intro same
    have texts := congrArg String.toList same
    have colon : ":".toList = [':'] := rfl
    simp only [revocationKey,String.toList_append,colon,List.append_assoc,List.cons_append,List.nil_append] at texts
    obtain ⟨tenants,users⟩ := Separators.head_unique (identifier_free t) (identifier_free t') texts
    exact ⟨tenant_ext (String.toList_injective tenants),String.toList_injective users⟩
  · rintro ⟨rfl,rfl⟩
    rfl

/-- A creation stores its record under its own id, or nothing. -/
theorem createUser_cases (now : UtcDateTime) (generated : String) (payload : ScimPayload) :
    (∃ fault, s.newUser lower now generated tenantId payload = .error fault ∧
      (s.createUser lower now generated tenantId payload).2 = .error fault ∧
      (s.createUser lower now generated tenantId payload).1.revokedUsers = s.revokedUsers ∧
      ∀ tenant user, (s.createUser lower now generated tenantId payload).1.user? tenant user = s.user? tenant user) ∨
    ∃ record, s.newUser lower now generated tenantId payload = .ok record ∧
      (s.createUser lower now generated tenantId payload).2 = .ok record ∧
      (s.createUser lower now generated tenantId payload).1.revokedUsers = s.revokedUsers ∧
      ∀ tenant user, (s.createUser lower now generated tenantId payload).1.user? tenant user =
        if tenant = tenantId ∧ user = record.id then some record else s.user? tenant user := by
  have reads : ScimProvisioningService.newUser lower { s with users := s.users.set tenantId.value (s.tenantStore tenantId) } now
      generated tenantId payload = s.newUser lower now generated tenantId payload := by
    have store : tenantStore { s with users := s.users.set tenantId.value (s.tenantStore tenantId) } tenantId =
        s.tenantStore tenantId := by
      unfold tenantStore
      dsimp only
      rw [Dict.get?_set_self,Option.getD_some]
    unfold newUser
    rw [store]
  cases built : s.newUser lower now generated tenantId payload with
  | error fault =>
    have served : s.createUser lower now generated tenantId payload =
        ({ s with users := s.users.set tenantId.value (s.tenantStore tenantId) },.error fault) := by
      simp only [createUser,reads,built]
    rw [served]
    exact .inl ⟨fault,rfl,rfl,rfl,user?_setdefault s tenantId⟩
  | ok record =>
    have served : s.createUser lower now generated tenantId payload =
        (putUser { s with users := s.users.set tenantId.value (s.tenantStore tenantId) } tenantId record.id record,
          .ok record) := by
      simp only [createUser,reads,built]
    rw [served]
    refine .inr ⟨record,rfl,rfl,rfl,?_⟩
    intro tenant user
    rw [user?_putUser,user?_setdefault]

theorem deprovision_cases (now : UtcDateTime) (revoker : Option PyError) :
    (s.user? tenantId userId = none ∧ (s.deprovisionUser now revoker tenantId userId).1 = s) ∨
    ∃ user, s.user? tenantId userId = some user ∧
      (s.deprovisionUser now revoker tenantId userId).1 =
        (s.putUser tenantId userId (deactivated now user)).revoke tenantId userId := by
  unfold deprovisionUser
  cases s.user? tenantId userId with
  | none => exact .inl ⟨rfl,rfl⟩
  | some user =>
    refine .inr ⟨user,rfl,?_⟩
    cases revoker with
    | none => rfl
    | some fault => rfl

/-- Roles are added to the stored members, and nothing else changes. -/
theorem user?_addRoles (role : String) (memberIds : List String) (tenant : TenantId) (user : String) :
    ∃ times : Nat, (s.addRoles tenantId role memberIds).user? tenant user =
        (s.user? tenant user).map (addRole role)^[times] ∧
      (s.addRoles tenantId role memberIds).revokedUsers = s.revokedUsers ∧
      (0 < times ↔ tenant = tenantId ∧ user ∈ memberIds ∧ s.user? tenant user ≠ none) := by
  induction memberIds generalizing s with
  | nil => exact ⟨0,by simp [addRoles],rfl,by simp⟩
  | cons uid uids ih =>
    unfold addRoles
    cases stored : s.user? tenantId uid with
    | none =>
      dsimp only
      obtain ⟨times,users,revoked,positive⟩ := ih s
      refine ⟨times,users,revoked,?_⟩
      rw [positive,List.mem_cons]
      constructor
      · rintro ⟨own,inside,known⟩
        exact ⟨own,.inr inside,known⟩
      · rintro ⟨own,rfl | inside,known⟩
        · rw [own,stored] at known
          exact absurd rfl known
        · exact ⟨own,inside,known⟩
    | some found =>
      dsimp only
      obtain ⟨times,users,revoked,positive⟩ := ih (s.putUser tenantId uid (addRole role found))
      rw [user?_putUser] at users positive
      by_cases own : tenant = tenantId ∧ user = uid
      · obtain ⟨rfl,rfl⟩ := own
        rw [if_pos ⟨rfl,rfl⟩] at users
        refine ⟨times + 1,?_,revoked,?_⟩
        · rw [users,stored]
          rfl
        · rw [stored]
          simp
      · rw [if_neg own] at users positive
        refine ⟨times,users,revoked,?_⟩
        rw [positive,List.mem_cons]
        constructor
        · rintro ⟨same,inside,known⟩
          exact ⟨same,.inr inside,known⟩
        · rintro ⟨same,named | inside,known⟩
          · exact absurd ⟨same,named⟩ own
          · exact ⟨same,inside,known⟩

end records
end ScimProvisioningService
end RevPilot.Iam
