import RevPilot.Library.Dict
import RevPilot.Shared.Errors
import RevPilot.Shared.Identifiers

/-! The in-memory repository of SCIM users: free-form records by tenant and identifier. The records
it returns are copies. -/
namespace RevPilot.Identity
open Library Shared

abbrev ScimRecord := Dict String PyValue

abbrev PatchOperation := List (PyKey × PyValue)

namespace ScimRecord

/-- `record.get(name)`. -/
def field (record : ScimRecord) (name : String) : PyValue := (record.get? name).getD .none

/-- `bool(record.get("active", True))`. -/
def isActive (record : ScimRecord) : Bool := ((record.get? "active").getD (.bool true)).truthy

def writeAll (record : ScimRecord) (writes : List (String × PyValue)) : ScimRecord :=
  writes.foldl (fun record write => record.set write.1 write.2) record

/-- `record["meta"]["lastModified"] = now`, which raises if `meta` is no dictionary. -/
def touch (record : ScimRecord) (now : String) : ScimRecord × Option PyError :=
  match record.get? "meta" with
  | some (.dict members) =>
    (record.set "meta" (.dict (Dict.assign members (.str "lastModified") (.str now))),none)
  | some _ => (record,some .typeError)
  | none => (record,some (.runtime "'meta'"))

end ScimRecord

section patches
variable (lower : String → String) (str : PyValue → String)

/-- The assignments made from the members of a free-form value, up to a key that is no text. -/
def memberWrites : List (PyKey × PyValue) → List (String × PyValue) × Option PyError
  | [] => ([],none)
  | (.str k,v) :: rest =>
    let write := if lower k = "active" then ("active",.bool v.truthy) else (k,v)
    (write :: (memberWrites rest).1,(memberWrites rest).2)
  | _ :: _ => ([],some .attributeError)

/-- The assignments that one operation of a patch makes, and what it raises. -/
def operationWrites (op : PatchOperation) : List (String × PyValue) × Option PyError :=
  match (PyValue.lookup op "op").getD (.str "") with
  | .str operation =>
    if lower operation = "replace" ∨ lower operation = "add" then
      let path := (PyValue.lookup op "path").getD .none
      let value := (PyValue.lookup op "value").getD .none
      if path.truthy then
        match path with
        | .str text =>
          if lower text = "active" then ([("active",.bool value.truthy)],none)
          else if lower text = "displayname" then ([("displayName",.str (str value))],none)
          else if lower text = "username" then ([("userName",.str (str value))],none)
          else ([],none)
        | _ => ([],some .attributeError)
      else
        match value with
        | .dict members => memberWrites lower members
        | _ => ([],none)
    else ([],none)
  | _ => ([],some .attributeError)

/-- The assignments of a whole patch, up to the operation that raises. -/
def patchWrites : List PatchOperation → List (String × PyValue) × Option PyError
  | [] => ([],none)
  | op :: ops =>
    match operationWrites lower str op with
    | (writes,some error) => (writes,some error)
    | (writes,none) => (writes ++ (patchWrites ops).1,(patchWrites ops).2)

end patches

structure InMemoryScimUserRepository where
  storage : Dict String (Dict String ScimRecord) := .empty

namespace InMemoryScimUserRepository

/-- `_get_tenant_store`; a store that is not there yet is empty. -/
def tenantStore (repo : InMemoryScimUserRepository) (tenantId : TenantId) : Dict String ScimRecord :=
  (repo.storage.get? tenantId.value).getD .empty

def put (repo : InMemoryScimUserRepository) (tenantId : TenantId) (userId : String) (record : ScimRecord) :
    InMemoryScimUserRepository :=
  ⟨repo.storage.set tenantId.value ((repo.tenantStore tenantId).set userId record)⟩

/-- The identifier of the data, if it has one; else the new one, `usr_` with twelve random digits. -/
def chosenId (userData : ScimRecord) (generated : String) : String :=
  match userData.get? "id" with
  | some (.str id) => if id = "" then generated else id
  | _ => generated

def newRecord (now userId : String) (tenantId : TenantId) (userData : ScimRecord) : ScimRecord :=
  let record := userData.set "id" (.str userId)
  let record := record.set "schemas" (.list [.str "urn:ietf:params:scim:schemas:core:2.0:User"])
  let record := if (record.get? "active").isSome then record else record.set "active" (.bool true)
  record.set "meta" (.dict
    [(.str "resourceType",.str "User"),(.str "created",.str now),(.str "lastModified",.str now),
      (.str "location",.str ("/scim/v2/" ++ tenantId.value ++ "/Users/" ++ userId)),(.str "version",.str "W/\"1\"")])

def createUser (repo : InMemoryScimUserRepository) (now generated : String) (tenantId : TenantId) (userData : ScimRecord) :
    InMemoryScimUserRepository × ScimRecord :=
  let userId := chosenId userData generated
  let record := newRecord now userId tenantId userData
  (repo.put tenantId userId record,record)

def isText (v : PyValue) (text : String) : Bool :=
  match v with
  | .str s => s == text
  | _ => false

/-- What the search for an external identifier stops at. -/
def answers (user : ScimRecord) (externalId : String) : Bool :=
  user.isActive && (isText (user.field "externalId") externalId ||
    (isText (user.field "userName") externalId && !(user.field "externalId").truthy))

def getUserByExternalId (repo : InMemoryScimUserRepository) (tenantId : TenantId) (externalId : String) : Option ScimRecord :=
  (repo.tenantStore tenantId).values.find? (answers · externalId)

/-- `store.get(user_id)`, where an empty record counts as none. -/
def user? (repo : InMemoryScimUserRepository) (tenantId : TenantId) (userId : String) : Option ScimRecord :=
  ((repo.tenantStore tenantId).get? userId).filter (fun record => !record.entries.isEmpty)

/-- A patch is applied to the stored record in place, so what it wrote before it raised stays. -/
def updateUser (lower : String → String) (str : PyValue → String) (repo : InMemoryScimUserRepository) (now : String)
    (tenantId : TenantId) (userId : String) (patchOps : List PatchOperation) :
    InMemoryScimUserRepository × Except PyError (Option ScimRecord) :=
  match repo.user? tenantId userId with
  | none => (repo,.ok none)
  | some record =>
    let patched := record.writeAll (patchWrites lower str patchOps).1
    match (patchWrites lower str patchOps).2 with
    | some error => (repo.put tenantId userId patched,.error error)
    | none =>
      match patched.touch now with
      | (touched,some error) => (repo.put tenantId userId touched,.error error)
      | (touched,none) => (repo.put tenantId userId touched,.ok (some touched))

def deleteUser (repo : InMemoryScimUserRepository) (now : String) (tenantId : TenantId) (userId : String) :
    InMemoryScimUserRepository × Except PyError Bool :=
  match repo.user? tenantId userId with
  | none => (repo,.ok false)
  | some record =>
    match ScimRecord.touch (record.set "active" (.bool false)) now with
    | (touched,some error) => (repo.put tenantId userId touched,.error error)
    | (touched,none) => (repo.put tenantId userId touched,.ok true)

end InMemoryScimUserRepository

section records
variable {record : ScimRecord}

/-- The last assignment to an attribute. -/
def lastWrite (writes : List (String × PyValue)) (name : String) : Option PyValue :=
  (writes.reverse.find? (fun write => write.1 = name)).map Prod.snd

theorem get?_writeAll (writes : List (String × PyValue)) (name : String) :
    (record.writeAll writes).get? name = (lastWrite writes name).or (record.get? name) := by
  induction writes using List.reverseRecOn with
  | nil => rfl
  | append_singleton writes write ih =>
    have last : record.writeAll (writes ++ [write]) = (record.writeAll writes).set write.1 write.2 := by
      simp [ScimRecord.writeAll]
    rw [last,Dict.get?_set]
    by_cases same : write.1 = name
    · subst same
      simp [lastWrite]
    · rw [if_neg (Ne.symm same),ih]
      simp [lastWrite,same]

theorem get?_touch (now : String) {name : String} (other : name ≠ "meta") :
    (record.touch now).1.get? name = record.get? name := by
  unfold ScimRecord.touch
  split
  · exact Dict.get?_set_ne _ _ other
  · rfl
  · rfl

end records

namespace InMemoryScimUserRepository
variable {repo : InMemoryScimUserRepository} {lower : String → String} {str : PyValue → String}

theorem isText_eq {v : PyValue} {text : String} (same : isText v text = true) : v = .str text := by
  cases v <;> simp_all [isText]

theorem tenantStore_put (tenantId tenant : TenantId) (userId : String) (record : ScimRecord) :
    (repo.put tenantId userId record).tenantStore tenant =
      if tenant = tenantId then (repo.tenantStore tenantId).set userId record else repo.tenantStore tenant := by
  unfold put tenantStore
  rw [Dict.get?_set]
  by_cases same : tenant = tenantId
  · subst same
    simp
  · have apart : tenant.value ≠ tenantId.value := by
      intro values
      apply same
      cases tenant
      cases tenantId
      cases values
      rfl
    rw [if_neg apart,if_neg same]

/-- A new record has its identifier and is active unless the data says otherwise; the other attributes
but `schemas` and `meta` are those of the data. -/
theorem get?_newRecord (now userId : String) (tenantId : TenantId) (userData : ScimRecord) {name : String}
    (noMeta : name ≠ "meta") (noSchemas : name ≠ "schemas") :
    (newRecord now userId tenantId userData).get? name =
      if name = "id" then some (.str userId)
      else if name = "active" then some ((userData.get? "active").getD (.bool true))
      else userData.get? name := by
  unfold newRecord
  rw [Dict.get?_set_ne _ _ noMeta]
  have plain : ((userData.set "id" (.str userId)).set "schemas"
      (.list [.str "urn:ietf:params:scim:schemas:core:2.0:User"])).get? name =
        if name = "id" then some (.str userId) else userData.get? name := by
    rw [Dict.get?_set_ne _ _ noSchemas,Dict.get?_set]
  have flag : ((userData.set "id" (.str userId)).set "schemas"
      (.list [.str "urn:ietf:params:scim:schemas:core:2.0:User"])).get? "active" = userData.get? "active" := by
    rw [Dict.get?_set_ne _ _ (by decide),Dict.get?_set_ne _ _ (by decide)]
  rw [flag]
  cases given : userData.get? "active" with
  | some active =>
    simp only [Option.isSome_some,if_true,Option.getD_some]
    rw [plain]
    by_cases isFlag : name = "active"
    · subst isFlag
      simpa using given
    · rw [if_neg isFlag]
  | none =>
    simp only [Option.isSome_none,Bool.false_eq_true,if_false,Option.getD_none]
    rw [Dict.get?_set,plain]
    by_cases isFlag : name = "active"
    · subst isFlag
      simp
    · rw [if_neg isFlag,if_neg isFlag]

/-- A found user's patch writes one record, with the attributes that the patch leaves. -/
theorem updateUser_cases (now : String) (tenantId : TenantId) (userId : String) (patchOps : List PatchOperation) :
    (repo.user? tenantId userId = none ∧ (repo.updateUser lower str now tenantId userId patchOps).1 = repo) ∨
      ∃ record written, repo.user? tenantId userId = some record ∧
        (repo.updateUser lower str now tenantId userId patchOps).1 = repo.put tenantId userId written ∧
        ∀ name, name ≠ "meta" →
          written.get? name = (lastWrite (patchWrites lower str patchOps).1 name).or (record.get? name) := by
  cases found : repo.user? tenantId userId with
  | none =>
    left
    refine ⟨rfl,?_⟩
    unfold updateUser
    rw [found]
  | some record =>
    right
    simp only [updateUser,found]
    have touched (name : String) (other : name ≠ "meta") :=
      (@get?_touch (record.writeAll (patchWrites lower str patchOps).1) now name other).trans (get?_writeAll _ name)
    cases (patchWrites lower str patchOps).2 with
    | some error => exact ⟨record,_,rfl,rfl,fun name _ => get?_writeAll _ name⟩
    | none =>
      refine ⟨record,_,rfl,?_,touched⟩
      dsimp only
      split <;> simp_all

theorem deleteUser_cases (now : String) (tenantId : TenantId) (userId : String) :
    (repo.deleteUser now tenantId userId).1 = repo ∨
      ∃ record written, repo.user? tenantId userId = some record ∧
        (repo.deleteUser now tenantId userId).1 = repo.put tenantId userId written ∧
        ∀ name, name ≠ "meta" →
          written.get? name = if name = "active" then some (.bool false) else record.get? name := by
  cases found : repo.user? tenantId userId with
  | none =>
    left
    unfold deleteUser
    rw [found]
  | some record =>
    right
    simp only [deleteUser,found]
    have touched (name : String) (other : name ≠ "meta") :=
      (@get?_touch (record.set "active" (.bool false)) now name other).trans (Dict.get?_set _ _ _ _)
    refine ⟨record,_,rfl,?_,touched⟩
    split <;> simp_all

end InMemoryScimUserRepository
end RevPilot.Identity
