import RevPilot.Iam.ScimProvisioning
import RevPilot.Library.Runs

/-! Runs of the provisioning service: which records a creation may store, how the revocation store
and the active flags agree, and where the roles of a user come from. -/
namespace RevPilot.Iam
open Library Shared Runs ScimProvisioningService

inductive RoleSource : Type
  | creation
  | patch
  | group (groupId : String)
  deriving DecidableEq

structure RoleGrant where
  tenantId : TenantId
  userId : String
  role : String
  source : RoleSource
  deriving DecidableEq

inductive ScimOp : Type
  | createUser (now : UtcDateTime) (generated : String) (tenantId : TenantId) (payload : ScimPayload)
  | updateUser (now : UtcDateTime) (revoker : Nat → Option PyError) (tenantId : TenantId) (userId : String)
      (patchOperations : List PyValue)
  | deprovisionUser (now : UtcDateTime) (revoker : Option PyError) (tenantId : TenantId) (userId : String)
  | syncGroupMembers (tenantId : TenantId) (groupId : String) (memberIds : List String) (roleBinding : Option String)

/-- The service of a run, with the users that were deprovisioned and the roles that were given. -/
structure ScimRun where
  service : ScimProvisioningService := {}
  deprovisioned : List (TenantId × String) := []
  grants : List RoleGrant := []

def roleTexts (roles : List PyValue) : List String :=
  roles.filterMap (fun role => match role with
    | .str text => some text
    | _ => none)

section service
variable (lower : String → String)

/-- The operations of a patch that take effect, up to the first that raises. -/
def reached (revoker : Nat → Option PyError) : Nat → List PyValue → List PatchAction
  | _, [] => []
  | n, op :: ops =>
    match patchAction lower op with
    | .error _ => []
    | .ok .deactivate =>
      match revoker n with
      | some _ => [.deactivate]
      | none => .deactivate :: reached revoker (n + 1) ops
    | .ok action => action :: reached revoker (n + 1) ops

def ScimProvisioningService.after (s : ScimProvisioningService) : ScimOp → ScimProvisioningService
  | .createUser now generated tenantId payload => (s.createUser lower now generated tenantId payload).1
  | .updateUser now revoker tenantId userId patchOperations =>
    (s.updateUser lower now revoker tenantId userId patchOperations).1
  | .deprovisionUser now revoker tenantId userId => (s.deprovisionUser now revoker tenantId userId).1
  | .syncGroupMembers tenantId groupId memberIds roleBinding =>
    (s.syncGroupMembers tenantId groupId memberIds roleBinding).1

/-- The stored user that the operation deprovisions. -/
def deprovisionedBy (s : ScimProvisioningService) : ScimOp → List (TenantId × String)
  | .updateUser _ revoker tenantId userId patchOperations =>
    if (s.user? tenantId userId).isSome && (reached lower revoker 0 patchOperations).any PatchAction.isDeactivate then
      [(tenantId,userId)]
    else []
  | .deprovisionUser _ _ tenantId userId => if (s.user? tenantId userId).isSome then [(tenantId,userId)] else []
  | _ => []

def patchedRoles : PatchAction → List String
  | .setRoles roles => roleTexts roles
  | _ => []

/-- The roles that the operation gives to stored users. -/
def grantedBy (s : ScimProvisioningService) : ScimOp → List RoleGrant
  | .createUser now generated tenantId payload =>
    match (s.createUser lower now generated tenantId payload).2 with
    | .ok record => (roleTexts record.roles).map (fun role => ⟨tenantId,record.id,role,.creation⟩)
    | .error _ => []
  | .updateUser _ revoker tenantId userId patchOperations =>
    match s.user? tenantId userId with
    | some _ => ((reached lower revoker 0 patchOperations).flatMap patchedRoles).map
        (fun role => ⟨tenantId,userId,role,.patch⟩)
    | none => []
  | .deprovisionUser _ _ _ _ => []
  | .syncGroupMembers tenantId groupId memberIds (some role) =>
    if role = "" then []
    else (memberIds.filter (fun uid => (s.user? tenantId uid).isSome)).map (fun uid => ⟨tenantId,uid,role,.group groupId⟩)
  | .syncGroupMembers _ _ _ none => []

def scimStep (r : ScimRun) (op : ScimOp) : ScimRun :=
  ⟨r.service.after lower op,deprovisionedBy lower r.service op ++ r.deprovisioned,grantedBy lower r.service op ++ r.grants⟩

/-- The user was never given the role but through the group. -/
def OnlyThrough (r : ScimRun) (tenantId : TenantId) (groupId userId role : String) : Prop :=
  ∀ source, ⟨tenantId,userId,role,source⟩ ∈ r.grants → source = .group groupId

/-- A creation replaces no record, and after a sync the role is held by the members alone, as far as
it was only given through the group. -/
def MeetsContract (r : ScimRun) : ScimOp → Prop
  | .createUser now generated tenantId payload =>
    ∀ record, (r.service.createUser lower now generated tenantId payload).2 = .ok record →
      r.service.user? tenantId record.id = none
  | .syncGroupMembers tenantId groupId memberIds (some role) =>
    ∀ userId record, (r.service.syncGroupMembers tenantId groupId memberIds (some role)).1.user? tenantId userId = some record →
      OnlyThrough r tenantId groupId userId role → (.str role ∈ record.roles ↔ userId ∈ memberIds)
  | _ => True

/-- `is_user_active` agrees with the stored flags, and is false for every deprovisioned user. -/
structure ActivityAgrees (r : ScimRun) : Prop where
  stored : ∀ tenantId userId record, r.service.user? tenantId userId = some record →
    r.service.isUserActive tenantId userId = record.active.truthy
  deprovisioned : ∀ user ∈ r.deprovisioned, r.service.isUserActive user.1 user.2 = false

/-- A creation that passes its checks has an id that no record has. A sync names every user who holds
the role only through its group; for the empty role, which is never given, it names none of them. -/
def KeepsContract (r : ScimRun) : ScimOp → Prop
  | .createUser now generated tenantId payload =>
    (∃ record, r.service.newUser lower now generated tenantId payload = .ok record) →
      ∀ userId, newUserId payload generated = .ok userId → r.service.user? tenantId userId = none
  | .syncGroupMembers tenantId groupId memberIds (some role) =>
    ∀ userId record, r.service.user? tenantId userId = some record → OnlyThrough r tenantId groupId userId role →
      if role = "" then userId ∉ memberIds else .str role ∈ record.roles → userId ∈ memberIds
  | _ => True

/-- What holds in every run. -/
structure Recorded (r : ScimRun) : Prop where
  revoked : ∀ tenantId userId, revocationKey tenantId userId ∈ r.service.revokedUsers → r.service.user? tenantId userId ≠ none
  deprovisioned : ∀ user ∈ r.deprovisioned, revocationKey user.1 user.2 ∈ r.service.revokedUsers
  sourced : ∀ tenantId userId record role, r.service.user? tenantId userId = some record → .str role ∈ record.roles →
    ∃ source, ⟨tenantId,userId,role,source⟩ ∈ r.grants ∧ ∀ groupId, source = .group groupId → role ≠ ""

/-- The actions of a patch took effect on one stored user. -/
structure Patched (s s' : ScimProvisioningService) (tenantId : TenantId) (userId : String) (actions : List PatchAction) :
    Prop where
  record : ∃ before after, s.user? tenantId userId = some before ∧ s'.user? tenantId userId = some after ∧
    (after.roles = before.roles ∨ .setRoles after.roles ∈ actions) ∧
    (.deactivate ∈ actions → after.active = .bool false) ∧ (.deactivate ∉ actions → after.active = before.active)
  others : ∀ tenant user, ¬ (tenant = tenantId ∧ user = userId) → s'.user? tenant user = s.user? tenant user
  revoked : ∀ key, key ∈ s'.revokedUsers ↔ key ∈ s.revokedUsers ∨ (.deactivate ∈ actions ∧ key = revocationKey tenantId userId)

end service

section patches
variable {lower : String → String} {s s' s'' : ScimProvisioningService} {tenantId : TenantId} {userId : String}

theorem mem_roleTexts (roles : List PyValue) (role : String) : role ∈ roleTexts roles ↔ .str role ∈ roles := by
  unfold roleTexts
  rw [List.mem_filterMap]
  constructor
  · rintro ⟨value,inside,text⟩
    cases value with
    | str found =>
      obtain rfl : found = role := Option.some.inj text
      exact inside
    | _ => cases text
  · intro inside
    exact ⟨.str role,inside,rfl⟩

theorem Patched.refl {user : ScimUserRecord} (stored : s.user? tenantId userId = some user) :
    Patched s s tenantId userId [] where
  record := ⟨user,user,stored,stored,.inl rfl,nofun,fun _ => rfl⟩
  others _ _ _ := rfl
  revoked key := by simp

theorem Patched.trans {first second : List PatchAction} (one : Patched s s' tenantId userId first)
    (two : Patched s' s'' tenantId userId second) : Patched s s'' tenantId userId (first ++ second) where
  record := by
    obtain ⟨before,middle,stored,known,roles,off,on⟩ := one.record
    obtain ⟨again,after,same,final,roles',off',on'⟩ := two.record
    obtain rfl : middle = again := Option.some.inj (known.symm.trans same)
    refine ⟨before,after,stored,final,?_,?_,?_⟩
    · rcases roles' with kept | replaced
      · rcases roles with unchanged | replaced
        · exact .inl (kept.trans unchanged)
        · exact .inr (List.mem_append_left _ (kept ▸ replaced))
      · exact .inr (List.mem_append_right _ replaced)
    · intro deactivated
      by_cases later : .deactivate ∈ second
      · exact off' later
      · have earlier := (List.mem_append.mp deactivated).resolve_right later
        exact (on' later).trans (off earlier)
    · intro active
      rw [List.mem_append,not_or] at active
      exact (on' active.2).trans (on active.1)
  others tenant user apart := (two.others tenant user apart).trans (one.others tenant user apart)
  revoked key := by
    rw [two.revoked,one.revoked,List.mem_append]
    tauto

/-- A record written with its roles and its flag. -/
theorem patched_put {before after : ScimUserRecord} (stored : s.user? tenantId userId = some before)
    (roles : after.roles = before.roles) (active : after.active = before.active) :
    Patched s (s.putUser tenantId userId after) tenantId userId [] where
  record := ⟨before,after,stored,by rw [user?_putUser,if_pos ⟨rfl,rfl⟩],.inl roles,nofun,fun _ => active⟩
  others tenant user apart := by rw [user?_putUser,if_neg apart]
  revoked key := by simp

theorem patched_deprovision {before : ScimUserRecord} (stored : s.user? tenantId userId = some before) (now : UtcDateTime)
    (revoker : Option PyError) : Patched s (s.deprovisionUser now revoker tenantId userId).1 tenantId userId [.deactivate] := by
  rcases s.deprovision_cases tenantId userId now revoker with ⟨absent,_⟩ | ⟨user,known,served⟩
  · rw [stored] at absent
    cases absent
  · obtain rfl : before = user := Option.some.inj (stored.symm.trans known)
    rw [served]
    constructor
    · refine ⟨before,deactivated now before,stored,?_,.inl rfl,fun _ => rfl,fun active => absurd List.mem_cons_self active⟩
      rw [user?_revoke,user?_putUser,if_pos ⟨rfl,rfl⟩]
    · intro tenant user apart
      rw [user?_revoke,user?_putUser,if_neg apart]
    · intro key
      rw [revokedUsers_revoke,revokedUsers_putUser,List.mem_cons]
      simp only [List.mem_singleton,true_and]
      exact or_comm

theorem patched_action {before : ScimUserRecord} (stored : s.user? tenantId userId = some before) (now : UtcDateTime)
    (revoker : Option PyError) (action : PatchAction) :
    Patched s (s.applyAction now revoker tenantId userId action).1 tenantId userId [action] := by
  cases action with
  | deactivate => exact patched_deprovision stored now revoker
  | setRoles roles =>
    have served : (s.applyAction now revoker tenantId userId (.setRoles roles)).1 =
        s.putUser tenantId userId { before with roles := roles } := by
      simp only [applyAction,stored]
    rw [served]
    constructor
    · refine ⟨before,{ before with roles := roles },stored,?_,.inr List.mem_cons_self,?_,fun _ => rfl⟩
      · rw [user?_putUser,if_pos ⟨rfl,rfl⟩]
      · intro deactivated
        simp at deactivated
    · intro tenant user apart
      rw [user?_putUser,if_neg apart]
    · intro key
      simp
  | nothing =>
    have same := Patched.refl stored
    constructor
    · obtain ⟨before,after,known,final,roles,_,active⟩ := same.record
      refine ⟨before,after,known,final,.inl ?_,?_,fun _ => active List.not_mem_nil⟩
      · exact roles.resolve_right List.not_mem_nil
      · intro deactivated
        simp at deactivated
    · exact same.others
    · intro key
      simp [applyAction]

theorem patched_operations (now : UtcDateTime) (revoker : Nat → Option PyError) (n : Nat) (ops : List PyValue)
    {before : ScimUserRecord} (stored : s.user? tenantId userId = some before) :
    Patched s (s.applyOperations lower now revoker tenantId userId n ops).1 tenantId userId (reached lower revoker n ops) := by
  induction ops generalizing s n before with
  | nil => exact .refl stored
  | cons op ops ih =>
    unfold applyOperations reached
    cases read : patchAction lower op with
    | error fault => exact .refl stored
    | ok action =>
      have one := patched_action stored now (revoker n) action
      have raises : ∀ state fault, s.applyAction now (revoker n) tenantId userId action = (state,.error fault) →
          action = .deactivate ∧ revoker n = some fault := by
        intro state fault failed
        cases action with
        | deactivate =>
          refine ⟨rfl,?_⟩
          cases raised : revoker n with
          | none => simp [applyAction,deprovisionUser,stored,raised] at failed
          | some known => simpa [applyAction,deprovisionUser,stored,raised] using congrArg Prod.snd failed
        | setRoles roles => simp [applyAction,stored] at failed
        | nothing => simp [applyAction] at failed
      have returns : ∀ state, s.applyAction now (revoker n) tenantId userId action = (state,.ok ()) →
          action = .deactivate → revoker n = none := by
        rintro state done rfl
        cases raised : revoker n with
        | none => rfl
        | some fault => simp [applyAction,deprovisionUser,stored,raised] at done
      dsimp only
      generalize served : s.applyAction now (revoker n) tenantId userId action = result at one
      obtain ⟨state,outcome⟩ := result
      cases outcome with
      | error fault =>
        obtain ⟨rfl,raised⟩ := raises state fault served
        simp only [raised]
        exact one
      | ok _ =>
        obtain ⟨_,after,_,known,_⟩ := one.record
        have later := one.trans (ih (n + 1) known)
        cases action with
        | deactivate =>
          simp only [returns state served rfl]
          exact later
        | setRoles roles => exact later
        | nothing => exact later

theorem patched_update (now : UtcDateTime) (revoker : Nat → Option PyError) (ops : List PyValue) {before : ScimUserRecord}
    (stored : s.user? tenantId userId = some before) :
    Patched s (s.updateUser lower now revoker tenantId userId ops).1 tenantId userId (reached lower revoker 0 ops) := by
  have applied := @patched_operations lower s tenantId userId now revoker 0 ops before stored
  unfold updateUser
  rw [stored]
  dsimp only
  generalize s.applyOperations lower now revoker tenantId userId 0 ops = served at applied
  obtain ⟨state,result⟩ := served
  cases result with
  | error fault => exact applied
  | ok _ =>
    obtain ⟨_,after,_,known,_⟩ := applied.record
    dsimp only
    rw [show state.user? tenantId userId = some after from known,Option.getD_some]
    have final := applied.trans (@patched_put _ _ _ _ { after with version := after.version + 1, updatedAt := now } known rfl rfl)
    rwa [List.append_nil] at final

end patches

section runs
variable {lower : String → String} {s s' : ScimProvisioningService} {r : ScimRun} {tenantId : TenantId} {userId : String}

theorem newUser_id {now : UtcDateTime} {generated : String} {payload : ScimPayload} {record : ScimUserRecord}
    (built : s.newUser lower now generated tenantId payload = .ok record) : newUserId payload generated = .ok record.id := by
  unfold newUser at built
  cases name : cleaned lower (payload.get "userName" (.str "")) with
  | error fault =>
    rw [name] at built
    cases built
  | ok rawUserName =>
    rw [name] at built
    change (if rawUserName = "" then _ else _ : Except PyError ScimUserRecord) = _ at built
    by_cases empty : rawUserName = ""
    · rw [if_pos empty] at built
      cases built
    · rw [if_neg empty] at built
      cases mail : primaryEmail lower payload rawUserName with
      | error fault =>
        rw [mail] at built
        cases built
      | ok email =>
        rw [mail] at built
        cases conflict : conflict? lower (s.tenantStore tenantId) tenantId rawUserName email with
        | some fault =>
          simp only [conflict,bind,Except.bind] at built
          cases built
        | none =>
          simp only [conflict,bind,Except.bind,pure,Except.pure] at built
          cases id : newUserId payload generated with
          | error fault =>
            simp only [id] at built
            cases built
          | ok userId =>
            simp only [id] at built
            cases roles : pySet (payload.get "roles" (.list [.str "operator"])) with
            | error fault =>
              simp only [roles] at built
              cases built
            | ok roles' =>
              simp only [roles] at built
              cases built
              rfl

theorem isUserActive_revoked (revoked : revocationKey tenantId userId ∈ s.revokedUsers) :
    s.isUserActive tenantId userId = false := if_pos revoked

theorem isUserActive_stored {record : ScimUserRecord} (kept : revocationKey tenantId userId ∉ s.revokedUsers)
    (stored : s.user? tenantId userId = some record) : s.isUserActive tenantId userId = record.active.truthy := by
  unfold isUserActive
  rw [if_neg kept,stored]

theorem isUserActive_congr (revoked : revocationKey tenantId userId ∈ s'.revokedUsers ↔ revocationKey tenantId userId ∈ s.revokedUsers)
    (same : s'.user? tenantId userId = s.user? tenantId userId) :
    s'.isUserActive tenantId userId = s.isUserActive tenantId userId := by
  unfold isUserActive
  rw [same]
  simp only [revoked]

/-- The agreement of the flags with the revocation store. -/
def FlagsAgree (s : ScimProvisioningService) : Prop :=
  ∀ tenantId userId record, s.user? tenantId userId = some record → s.isUserActive tenantId userId = record.active.truthy

def RevokedStored (s : ScimProvisioningService) : Prop :=
  ∀ tenantId userId, revocationKey tenantId userId ∈ s.revokedUsers → s.user? tenantId userId ≠ none

theorem Patched.key_iff {actions : List PatchAction} (patched : Patched s s' tenantId userId actions) {tenant : TenantId}
    {user : String} (apart : ¬ (tenant = tenantId ∧ user = userId)) :
    revocationKey tenant user ∈ s'.revokedUsers ↔ revocationKey tenant user ∈ s.revokedUsers := by
  rw [patched.revoked]
  constructor
  · rintro (kept | ⟨_,same⟩)
    · exact kept
    · exact absurd ((revocationKey_eq_iff _ _ _ _).mp same) apart
  · exact .inl

theorem Patched.agree {actions : List PatchAction} (patched : Patched s s' tenantId userId actions) (agree : FlagsAgree s) :
    FlagsAgree s' := by
  intro tenant user record stored
  by_cases own : tenant = tenantId ∧ user = userId
  · obtain ⟨rfl,rfl⟩ := own
    obtain ⟨before,after,known,final,_,off,on⟩ := patched.record
    obtain rfl : after = record := Option.some.inj (final.symm.trans stored)
    by_cases deactivated : .deactivate ∈ actions
    · rw [off deactivated]
      exact isUserActive_revoked ((patched.revoked _).mpr (.inr ⟨deactivated,rfl⟩))
    · rw [on deactivated,← agree tenant user before known]
      have key : revocationKey tenant user ∈ s'.revokedUsers ↔ revocationKey tenant user ∈ s.revokedUsers := by
        rw [patched.revoked]
        simp [deactivated]
      unfold isUserActive
      rw [final,known]
      simp only [key,on deactivated]
  · rw [isUserActive_congr (patched.key_iff own) (patched.others tenant user own)]
    rw [patched.others tenant user own] at stored
    exact agree tenant user record stored

/-- A role held after a patch was held before or set by it. -/
theorem Patched.role {actions : List PatchAction} (patched : Patched s s' tenantId userId actions) {tenant : TenantId}
    {user role : String} {record : ScimUserRecord} (stored : s'.user? tenant user = some record)
    (held : .str role ∈ record.roles) :
    (∃ before, s.user? tenant user = some before ∧ .str role ∈ before.roles) ∨
      (tenant = tenantId ∧ user = userId ∧ role ∈ actions.flatMap patchedRoles) := by
  by_cases own : tenant = tenantId ∧ user = userId
  · obtain ⟨rfl,rfl⟩ := own
    obtain ⟨before,after,known,final,roles,_⟩ := patched.record
    obtain rfl : after = record := Option.some.inj (final.symm.trans stored)
    rcases roles with same | replaced
    · exact .inl ⟨before,known,same ▸ held⟩
    · refine .inr ⟨rfl,rfl,List.mem_flatMap.mpr ⟨_,replaced,?_⟩⟩
      exact (mem_roleTexts _ _).mpr held
  · rw [patched.others tenant user own] at stored
    exact .inl ⟨record,stored,held⟩

theorem addRole_iterate (role : String) (times : Nat) (user : ScimUserRecord) :
    ((addRole role)^[times] user).active = user.active ∧
      ∀ value, value ∈ ((addRole role)^[times] user).roles ↔ value ∈ user.roles ∨ (0 < times ∧ value = .str role) := by
  induction times generalizing user with
  | zero => exact ⟨rfl,fun value => by simp⟩
  | succ times ih =>
    rw [Function.iterate_succ_apply]
    obtain ⟨active,roles⟩ := ih (addRole role user)
    refine ⟨active,?_⟩
    intro value
    rw [roles]
    simp only [addRole,List.mem_cons]
    have positive : 0 < times + 1 := by omega
    tauto

/-- The service after a sync: the revocation store, and the records with their roles. -/
theorem sync_cases (groupId : String) (memberIds : List String) (roleBinding : Option String) (tenant : TenantId) (user : String) :
    (s.syncGroupMembers tenantId groupId memberIds roleBinding).1.revokedUsers = s.revokedUsers ∧
    ∃ times : Nat, ∃ role : String,
      (s.syncGroupMembers tenantId groupId memberIds roleBinding).1.user? tenant user =
        (s.user? tenant user).map (addRole role)^[times] ∧
      (0 < times ↔ roleBinding = some role ∧ role ≠ "" ∧ tenant = tenantId ∧ user ∈ memberIds ∧ s.user? tenant user ≠ none) ∧
      ∀ bound, roleBinding = some bound → bound = role := by
  unfold syncGroupMembers
  dsimp only
  generalize s.syncedGroup tenantId groupId memberIds = group
  cases roleBinding with
  | none =>
    refine ⟨rfl,0,"",?_,by simp,nofun⟩
    rw [Function.iterate_zero,Option.map_id]
    rfl
  | some role =>
    dsimp only
    by_cases empty : role = ""
    · rw [if_pos empty]
      refine ⟨rfl,0,role,?_,by simp [empty],fun bound same => (Option.some.inj same).symm⟩
      rw [Function.iterate_zero,Option.map_id]
      rfl
    · rw [if_neg empty]
      obtain ⟨times,users,revoked,positive⟩ := user?_addRoles (s.putGroup tenantId groupId group) tenantId role memberIds tenant user
      rw [user?_putGroup] at users positive
      refine ⟨revoked,times,role,users,?_,fun bound same => (Option.some.inj same).symm⟩
      rw [positive]
      simp [empty]

end runs
end RevPilot.Iam
