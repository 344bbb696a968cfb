import RevPilot.Api.Scim
import RevPilot.Library.Runs
import RevPilot.Library.Dict
import RevPilot.Library.Text

/-! Runs of the SCIM user API: when every record keeps the identifier it is stored under and no two
active users of a tenant have one userName or one externalId. -/
namespace RevPilot.Api
open Library Shared Runs Identity InMemoryScimUserRepository

/-- A value to compare without its case, as far as it is a text. -/
def folded (lower : String → String) : PyValue → PyValue
  | .str s => .str (lower s)
  | v => v

section uniqueness
variable (lower : String → String) (str : PyValue → String)

/-- One of the two names is the other user's. -/
def Alike (userName externalId : PyValue) (other : ScimRecord) : Prop :=
  (userName ≠ .none ∧ folded lower userName = folded lower (other.field "userName")) ∨
    (externalId ≠ .none ∧ externalId = other.field "externalId")

def Clash (a b : ScimRecord) : Prop :=
  a.isActive = true ∧ b.isActive = true ∧ Alike lower (a.field "userName") (a.field "externalId") b

def KeyedById (key : String) (record : ScimRecord) : Prop := record.get? "id" = some (.str key)

def UsersUnique (repo : InMemoryScimUserRepository) : Prop :=
  ∀ tenantId, Table KeyedById (Clash lower) (repo.tenantStore tenantId)

/-- Another active user of the tenant has one of the two names. -/
def Taken (repo : InMemoryScimUserRepository) (tenantId : TenantId) (userId : String) (userName externalId : PyValue) : Prop :=
  ∃ key other, key ≠ userId ∧ (repo.tenantStore tenantId).get? key = some other ∧ other.isActive = true ∧
    Alike lower userName externalId other

/-- What a patch leaves in an attribute: its last assignment, or what is stored. -/
def leftIn (writes : List (String × PyValue)) (record : ScimRecord) (name : String) : Option PyValue :=
  (lastWrite writes name).or (record.get? name)

/-- A creation that finds nobody and is not inactive has names that no other active user has. A patch
writes no other identifier, and a user that it leaves active has names that no other active user has. -/
def KeepsUnique (repo : InMemoryScimUserRepository) : ScimUserCall → Prop
  | .createScimUser _ generated tenantId payload =>
    existingUser repo tenantId payload = none → payload.active ≠ some false →
      ¬ Taken lower repo tenantId generated (.str payload.userName) payload.externalId?
  | .patchScimUser _ tenantId userId operations =>
    ∀ record, repo.user? tenantId userId = some record →
      let writes := (patchWrites lower str operations).1
      (∀ id, lastWrite writes "id" = some id → id = .str userId) ∧
        (((leftIn writes record "active").getD (.bool true)).truthy = true →
          ¬ Taken lower repo tenantId userId ((leftIn writes record "userName").getD .none)
            ((leftIn writes record "externalId").getD .none))
  | .deleteScimUser .. => True

end uniqueness

section clashes
variable {lower : String → String}

theorem folded_none (v : PyValue) : folded lower v = .none ↔ v = .none := by
  cases v <;> simp [folded]

theorem clash_symm (a b : ScimRecord) (clash : Clash lower a b) : Clash lower b a := by
  obtain ⟨first,second,alike⟩ := clash
  refine ⟨second,first,?_⟩
  rcases alike with ⟨named,same⟩ | ⟨named,same⟩
  · left
    refine ⟨?_,same.symm⟩
    intro missing
    rw [missing] at same
    exact named ((folded_none _).mp same)
  · right
    exact ⟨same ▸ named,same.symm⟩

end clashes

section steps
variable {lower : String → String} {str : PyValue → String} {repo : InMemoryScimUserRepository} {tenantId : TenantId}

/-- A written record keeps the users unique exactly if it has its key for an identifier and, while it
is active, names that no other active user has. -/
theorem put_unique_iff (unique : UsersUnique lower repo) (userId : String) (record : ScimRecord) :
    UsersUnique lower (repo.put tenantId userId record) ↔ KeyedById userId record ∧
      (record.isActive = true → ¬ Taken lower repo tenantId userId (record.field "userName") (record.field "externalId")) := by
  have written := (unique tenantId).set_iff clash_symm userId record
  have own : UsersUnique lower (repo.put tenantId userId record) ↔
      Table KeyedById (Clash lower) ((repo.tenantStore tenantId).set userId record) := by
    constructor
    · intro after
      have here := after tenantId
      rwa [tenantStore_put,if_pos rfl] at here
    · intro after tenant
      rw [tenantStore_put]
      by_cases same : tenant = tenantId
      · rwa [if_pos same]
      · rw [if_neg same]
        exact unique tenant
  rw [own,written]
  apply and_congr_right
  intro _
  constructor
  · rintro free active ⟨key,other,apart,stored,holds,alike⟩
    exact free key other apart stored ⟨active,holds,alike⟩
  · rintro free key other apart stored ⟨active,holds,alike⟩
    exact free active ⟨key,other,apart,stored,holds,alike⟩

theorem user?_stored {userId : String} {record : ScimRecord} (found : repo.user? tenantId userId = some record) :
    (repo.tenantStore tenantId).get? userId = some record :=
  (Option.filter_eq_some_iff.mp found).1

theorem create_unique_iff (unique : UsersUnique lower repo) (now generated : String) (payload : ScimUserCreatePayload) :
    KeepsUnique lower str repo (.createScimUser now generated tenantId payload) ↔
      UsersUnique lower (createScimUser repo now generated tenantId payload).1 := by
  unfold createScimUser
  cases existing : existingUser repo tenantId payload with
  | some user =>
    simp only [KeepsUnique,existing]
    exact iff_of_true nofun unique
  | none =>
    have chosen : chosenId payload.userDict generated = generated := by
      rw [chosenId,userDict_eq,modelDump_id]
    simp only [KeepsUnique,existing,createUser,chosen,forall_const]
    rw [put_unique_iff unique]
    have made (name : String) (noMeta : name ≠ "meta") (noSchemas : name ≠ "schemas") :=
      get?_newRecord now generated tenantId payload.modelDump noMeta noSchemas
    rw [userDict_eq]
    have named : (newRecord now generated tenantId payload.modelDump).field "userName" = .str payload.userName := by
      rw [ScimRecord.field,made "userName" (by decide) (by decide),modelDump_userName]
      rfl
    have external : (newRecord now generated tenantId payload.modelDump).field "externalId" = payload.externalId? := by
      rw [ScimRecord.field,made "externalId" (by decide) (by decide),modelDump_externalId]
      cases given : payload.externalId <;> simp [ScimUserCreatePayload.externalId?,ScimUserCreatePayload.optionalText,given]
    have active : (newRecord now generated tenantId payload.modelDump).isActive = true ↔ payload.active ≠ some false := by
      rw [ScimRecord.isActive,made "active" (by decide) (by decide),modelDump_active]
      cases given : payload.active with
      | none => simp [PyValue.truthy]
      | some flag => cases flag <;> simp [PyValue.truthy]
    have keyed : KeyedById generated (newRecord now generated tenantId payload.modelDump) := by
      rw [KeyedById,made "id" (by decide) (by decide),if_pos rfl]
    rw [named,external,active]
    exact (and_iff_right keyed).symm

theorem patch_unique_iff (unique : UsersUnique lower repo) (now userId : String) (operations : List PatchOperation) :
    KeepsUnique lower str repo (.patchScimUser now tenantId userId operations) ↔
      UsersUnique lower (patchScimUser lower str repo now tenantId userId operations).1 := by
  rw [patchScimUser_repo]
  rcases @updateUser_cases repo lower str now tenantId userId operations with
    ⟨missing,same⟩ | ⟨record,written,found,same,left⟩
  · rw [same]
    refine iff_of_true ?_ unique
    intro record found
    rw [missing] at found
    cases found
  · rw [same,put_unique_iff unique]
    have stored := (unique tenantId).fit userId record (user?_stored found)
    have keyed : KeyedById userId written ↔
        ∀ id, lastWrite (patchWrites lower str operations).1 "id" = some id → id = .str userId := by
      unfold KeyedById at stored ⊢
      rw [left "id" (by decide),stored]
      cases lastWrite (patchWrites lower str operations).1 "id" with
      | none => simp
      | some id => simp
    have field (name : String) (other : name ≠ "meta") :
        written.field name = (leftIn (patchWrites lower str operations).1 record name).getD .none := by
      rw [ScimRecord.field,left name other,leftIn]
    have active : written.isActive = ((leftIn (patchWrites lower str operations).1 record "active").getD (.bool true)).truthy := by
      rw [ScimRecord.isActive,left "active" (by decide),leftIn]
    rw [keyed,field "userName" (by decide),field "externalId" (by decide),active]
    constructor
    · intro keeps
      exact keeps record found
    · intro after again known
      obtain rfl : record = again := Option.some.inj (found.symm.trans known)
      exact after

theorem delete_unique (unique : UsersUnique lower repo) (now userId : String) :
    UsersUnique lower (deleteScimUser repo now tenantId userId).1 := by
  rw [deleteScimUser_repo]
  rcases @deleteUser_cases repo now tenantId userId with same | ⟨record,written,found,same,left⟩
  · rwa [same]
  · rw [same,put_unique_iff unique]
    constructor
    · rw [KeyedById,left "id" (by decide)]
      exact (unique tenantId).fit userId record (user?_stored found)
    · intro active
      rw [ScimRecord.isActive,left "active" (by decide)] at active
      cases active

theorem unique_step (unique : UsersUnique lower repo) (call : ScimUserCall) :
    KeepsUnique lower str repo call ↔ UsersUnique lower (scimUserStep lower str repo call) := by
  cases call with
  | createScimUser now generated tenantId payload => exact create_unique_iff unique now generated payload
  | patchScimUser now tenantId userId operations => exact patch_unique_iff unique now userId operations
  | deleteScimUser now tenantId userId => exact iff_of_true trivial (delete_unique unique now userId)

/-- In every state of a run the users are unique exactly if each of its calls keeps them unique. -/
theorem users_unique_iff (calls : List ScimUserCall) :
    Always (scimUserStep lower str) (UsersUnique lower) {} calls ↔ Along (scimUserStep lower str) (KeepsUnique lower str) {} calls := by
  have always : Along (scimUserStep lower str) (fun _ _ => True) {} calls :=
    (along_iff _ _ _ _).mpr (fun _ _ _ _ => trivial)
  symm
  apply always_iff_along (scimUserStep lower str) (I := fun _ => True) (F := fun _ _ => True)
  · intro repo call _ _
    trivial
  · intro repo call _ _ unique
    exact unique_step unique call
  · trivial
  · intro tenantId
    exact Table.empty
  · exact always

end steps

section examples

def scimTenant : TenantId := ⟨"tnt_acme",Eq.refl true⟩

/-- `str` of a text. -/
def textOf : PyValue → String
  | .str s => s
  | _ => ""

/-- Two users are made, and the second takes the first one's userName in a patch. -/
def takenName : List ScimUserCall :=
  [.createScimUser "2026-01-01T00:00:00+00:00" "usr_000000000001" scimTenant { userName := "ann@acme.test" },
    .createScimUser "2026-01-01T00:00:01+00:00" "usr_000000000002" scimTenant { userName := "bob@acme.test" },
    .patchScimUser "2026-01-01T00:00:02+00:00" scimTenant "usr_000000000002"
      [[(.str "op",.str "replace"),(.str "path",.str "userName"),(.str "value",.str "ann@acme.test")]]]

theorem patch_takes_name : ¬ Always (scimUserStep Text.asciiCasing.lower textOf) (UsersUnique Text.asciiCasing.lower) {} takenName := by
  intro always
  let left := (run (scimUserStep Text.asciiCasing.lower textOf) {} takenName).tenantStore scimTenant
  have unique : Table KeyedById (Clash Text.asciiCasing.lower) left := always takenName [] rfl scimTenant
  have both (userId : String) (inside : userId ∈ ["usr_000000000001","usr_000000000002"]) :
      ∃ record, left.get? userId = some record ∧ record.isActive = true ∧ record.field "userName" = .str "ann@acme.test" := by
    have named : ∀ userId ∈ ["usr_000000000001","usr_000000000002"],
        ((left.get? userId).any (fun record => record.isActive && isText (record.field "userName") "ann@acme.test")) = true := by
      decide +kernel
    obtain ⟨record,stored,holds⟩ := (Option.any_eq_true _ _).mp (named userId inside)
    obtain ⟨active,name⟩ := Bool.and_eq_true_iff.mp holds
    exact ⟨record,stored,active,isText_eq name⟩
  obtain ⟨ann,first,annActive,annName⟩ := both "usr_000000000001" (by simp)
  obtain ⟨bob,second,bobActive,bobName⟩ := both "usr_000000000002" (by simp)
  apply unique.apart _ ann _ bob (by decide) first second
  refine ⟨annActive,bobActive,.inl ⟨?_,?_⟩⟩
  · rw [annName]
    simp
  · rw [annName,bobName]

end examples
end RevPilot.Api
