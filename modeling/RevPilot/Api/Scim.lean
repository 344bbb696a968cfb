import RevPilot.Api.Dispatch
import RevPilot.Identity.ScimRepository

/-! The user handlers of the SCIM router, after the credential of the tenant was verified. -/
namespace RevPilot.Api
open Library Shared Identity InMemoryScimUserRepository

/-- The payload of a creation. An `Option` is `none` where the request does not set the field. -/
structure ScimUserCreatePayload where
  schemas : Option (List String) := none
  userName : String
  displayName : Option (Option String) := none
  externalId : Option (Option String) := none
  emails : Option (List (List (PyKey × PyValue))) := none
  roles : Option (List String) := none
  active : Option Bool := none

namespace ScimUserCreatePayload

def optionalText : Option String → PyValue
  | some text => .str text
  | none => .none

def setField (data : ScimRecord) (name : String) (value : Option PyValue) : ScimRecord :=
  match value with
  | some value => data.set name value
  | none => data

/-- `payload.model_dump(exclude_unset=True)`. -/
def modelDump (payload : ScimUserCreatePayload) : ScimRecord :=
  let data := setField .empty "schemas" (payload.schemas.map (fun texts => .list (texts.map .str)))
  let data := setField data "userName" (some (.str payload.userName))
  let data := setField data "displayName" (payload.displayName.map optionalText)
  let data := setField data "externalId" (payload.externalId.map optionalText)
  let data := setField data "emails" (payload.emails.map (fun emails => .list (emails.map .dict)))
  let data := setField data "roles" (payload.roles.map (fun texts => .list (texts.map .str)))
  setField data "active" (payload.active.map .bool)

/-- `payload.externalId or ""`. -/
def externalText (payload : ScimUserCreatePayload) : String := (payload.externalId.getD none).getD ""

/-- `payload.externalId or payload.userName`. -/
def lookupId (payload : ScimUserCreatePayload) : String :=
  if payload.externalText ≠ "" then payload.externalText else payload.userName

def userDict (payload : ScimUserCreatePayload) : ScimRecord :=
  if payload.externalText ≠ "" then payload.modelDump.set "externalId" (.str payload.externalText) else payload.modelDump

/-- The externalId that the record of the payload gets. -/
def externalId? (payload : ScimUserCreatePayload) : PyValue := optionalText (payload.externalId.getD none)

end ScimUserCreatePayload

def scimDetail (status : String) (scimType : Option String) (detail : String) : PyValue :=
  .dict ([(.str "schemas",.list [.str "urn:ietf:params:scim:api:messages:2.0:Error"]),(.str "status",.str status)] ++
    (scimType.map (fun text => (.str "scimType",.str text))).toList ++ [(.str "detail",.str detail)])

def duplicateUser (lookupId : String) : ApiError :=
  .http 409 (scimDetail "409" (some "uniqueness") ("User with externalId '" ++ lookupId ++ "' already exists"))

def scimUserNotFound (userId : String) : ApiError :=
  .http 404 (scimDetail "404" none ("SCIM user '" ++ userId ++ "' not found"))

/-- The user that stands in the way of a creation. -/
def existingUser (repo : InMemoryScimUserRepository) (tenantId : TenantId) (payload : ScimUserCreatePayload) :
    Option ScimRecord :=
  if payload.lookupId ≠ "" then repo.getUserByExternalId tenantId payload.lookupId else none

def createScimUser (repo : InMemoryScimUserRepository) (now generated : String) (tenantId : TenantId)
    (payload : ScimUserCreatePayload) : InMemoryScimUserRepository × Except ApiError ScimRecord :=
  match existingUser repo tenantId payload with
  | some _ => (repo,.error (duplicateUser payload.lookupId))
  | none =>
    let created := repo.createUser now generated tenantId payload.userDict
    (created.1,.ok created.2)

def patchScimUser (lower : String → String) (str : PyValue → String) (repo : InMemoryScimUserRepository) (now : String)
    (tenantId : TenantId) (userId : String) (operations : List PatchOperation) :
    InMemoryScimUserRepository × Except ApiError ScimRecord :=
  match repo.updateUser lower str now tenantId userId operations with
  | (repo,.error error) => (repo,.error (.raised error))
  | (repo,.ok none) => (repo,.error (scimUserNotFound userId))
  | (repo,.ok (some updated)) => (repo,.ok updated)

/-- The status of the reply is 204. -/
def deleteScimUser (repo : InMemoryScimUserRepository) (now : String) (tenantId : TenantId) (userId : String) :
    InMemoryScimUserRepository × Except ApiError Unit :=
  match repo.deleteUser now tenantId userId with
  | (repo,.error error) => (repo,.error (.raised error))
  | (repo,.ok false) => (repo,.error (scimUserNotFound userId))
  | (repo,.ok true) => (repo,.ok ())

inductive ScimUserCall : Type
  | createScimUser (now generated : String) (tenantId : TenantId) (payload : ScimUserCreatePayload)
  | patchScimUser (now : String) (tenantId : TenantId) (userId : String) (operations : List PatchOperation)
  | deleteScimUser (now : String) (tenantId : TenantId) (userId : String)

def scimUserStep (lower : String → String) (str : PyValue → String) (repo : InMemoryScimUserRepository) :
    ScimUserCall → InMemoryScimUserRepository
  | .createScimUser now generated tenantId payload => (Api.createScimUser repo now generated tenantId payload).1
  | .patchScimUser now tenantId userId operations => (Api.patchScimUser lower str repo now tenantId userId operations).1
  | .deleteScimUser now tenantId userId => (Api.deleteScimUser repo now tenantId userId).1

section replies
variable {repo : InMemoryScimUserRepository} {lower : String → String} {str : PyValue → String} {tenantId : TenantId}

theorem patchScimUser_repo (now userId : String) (operations : List PatchOperation) :
    (patchScimUser lower str repo now tenantId userId operations).1 =
      (repo.updateUser lower str now tenantId userId operations).1 := by
  unfold patchScimUser
  split <;> simp_all

theorem deleteScimUser_repo (now userId : String) :
    (deleteScimUser repo now tenantId userId).1 = (repo.deleteUser now tenantId userId).1 := by
  unfold deleteScimUser
  split <;> simp_all

end replies

section dumps
open ScimUserCreatePayload
variable (payload : ScimUserCreatePayload)

theorem get?_setField (data : ScimRecord) (name : String) (value : Option PyValue) (asked : String) :
    (setField data name value).get? asked = if asked = name then value.or (data.get? name) else data.get? asked := by
  cases value with
  | none =>
    by_cases same : asked = name
    · subst same
      simp [setField]
    · rw [if_neg same]
      rfl
  | some value =>
    unfold setField
    rw [Dict.get?_set]
    by_cases same : asked = name
    · subst same
      simp
    · simp only [if_neg same]

theorem modelDump_id : payload.modelDump.get? "id" = none := by
  simp [modelDump,get?_setField]

theorem modelDump_userName : payload.modelDump.get? "userName" = some (.str payload.userName) := by
  simp [modelDump,get?_setField]

theorem modelDump_externalId : payload.modelDump.get? "externalId" = payload.externalId.map optionalText := by
  simp [modelDump,get?_setField]

theorem modelDump_active : payload.modelDump.get? "active" = payload.active.map .bool := by
  simp [modelDump,get?_setField]

/-- The externalId of a payload is in its dump already. -/
theorem userDict_eq : payload.userDict = payload.modelDump := by
  unfold userDict
  split
  next filled =>
    apply Dict.set_same
    rw [modelDump_externalId]
    unfold externalText at filled ⊢
    cases given : payload.externalId with
    | none => simp [given] at filled
    | some externalId =>
      cases externalId with
      | none => simp [given] at filled
      | some text => rfl
  next => rfl

end dumps
end RevPilot.Api
