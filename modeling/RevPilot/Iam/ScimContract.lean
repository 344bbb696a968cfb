import RevPilot.Iam.ScimRuns

/-! The contract of the provisioning service over whole runs. -/
namespace RevPilot.Iam
open Library Shared Runs ScimProvisioningService

/-- What every operation does to the records: none disappears, only stored users are revoked, and
every role that is new has a grant. -/
structure Evolves (s s' : ScimProvisioningService) (deprovisioned : List (TenantId × String)) (grants : List RoleGrant) :
    Prop where
  stays : ∀ tenantId userId, s.user? tenantId userId ≠ none → s'.user? tenantId userId ≠ none
  revoked : ∀ tenantId userId, revocationKey tenantId userId ∈ s'.revokedUsers →
    revocationKey tenantId userId ∈ s.revokedUsers ∨ s'.user? tenantId userId ≠ none
  grows : ∀ key, key ∈ s.revokedUsers → key ∈ s'.revokedUsers
  noted : ∀ user ∈ deprovisioned, revocationKey user.1 user.2 ∈ s'.revokedUsers
  sourced : ∀ tenantId userId record role, s'.user? tenantId userId = some record → .str role ∈ record.roles →
    (∃ before, s.user? tenantId userId = some before ∧ .str role ∈ before.roles) ∨
      ∃ source, ⟨tenantId,userId,role,source⟩ ∈ grants ∧ ∀ groupId, source = .group groupId → role ≠ ""

section evolution
variable {lower : String → String} {s s' : ScimProvisioningService} {r : ScimRun}

theorem Recorded.evolve {deprovisioned : List (TenantId × String)} {grants : List RoleGrant} (recorded : Recorded r)
    (evolves : Evolves r.service s' deprovisioned grants) :
    Recorded ⟨s',deprovisioned ++ r.deprovisioned,grants ++ r.grants⟩ where
  revoked tenantId userId revoked := by
    rcases evolves.revoked tenantId userId revoked with before | stored
    · exact evolves.stays tenantId userId (recorded.revoked tenantId userId before)
    · exact stored
  deprovisioned user listed := by
    rcases List.mem_append.mp listed with new | old
    · exact evolves.noted user new
    · exact evolves.grows _ (recorded.deprovisioned user old)
  sourced tenantId userId record role stored held := by
    rcases evolves.sourced tenantId userId record role stored held with ⟨before,known,held⟩ | ⟨source,granted,named⟩
    · obtain ⟨source,granted,named⟩ := recorded.sourced tenantId userId before role known held
      exact ⟨source,List.mem_append_right _ granted,named⟩
    · exact ⟨source,List.mem_append_left _ granted,named⟩

theorem evolves_same {s s' : ScimProvisioningService} (users : ∀ tenantId userId, s'.user? tenantId userId = s.user? tenantId userId)
    (revoked : s'.revokedUsers = s.revokedUsers) : Evolves s s' [] [] where
  stays tenantId userId stored := by rwa [users]
  revoked tenantId userId listed := .inl (revoked ▸ listed)
  grows key listed := revoked ▸ listed
  noted := nofun
  sourced tenantId userId record role stored held := .inl ⟨record,(users tenantId userId).symm.trans stored,held⟩

theorem evolves_create (now : UtcDateTime) (generated : String) (tenantId : TenantId) (payload : ScimPayload) :
    Evolves s (s.createUser lower now generated tenantId payload).1 []
      (grantedBy lower s (.createUser now generated tenantId payload)) := by
  unfold grantedBy
  rcases @createUser_cases lower s tenantId now generated payload with
    ⟨fault,_,failed,revoked,users⟩ | ⟨record,_,done,revoked,users⟩
  · simp only [failed]
    exact evolves_same users revoked
  · simp only [done]
    constructor
    · intro tenant user stored
      rw [users]
      split
      · simp
      · exact stored
    · intro tenant user listed
      exact .inl (revoked ▸ listed)
    · intro key listed
      exact revoked ▸ listed
    · exact nofun
    · intro tenant user found role stored held
      rw [users] at stored
      split at stored
      next own =>
        cases stored
        obtain ⟨rfl,rfl⟩ := own
        refine .inr ⟨.creation,List.mem_map.mpr ⟨role,(mem_roleTexts _ _).mpr held,rfl⟩,nofun⟩
      next => exact .inl ⟨found,stored,held⟩

theorem evolves_patched {tenantId : TenantId} {userId : String} {actions : List PatchAction}
    (patched : Patched s s' tenantId userId actions) (deprovisioned : List (TenantId × String))
    (named : ∀ user ∈ deprovisioned, user = (tenantId,userId) ∧ .deactivate ∈ actions) :
    Evolves s s' deprovisioned ((actions.flatMap patchedRoles).map (fun role => ⟨tenantId,userId,role,.patch⟩)) where
  stays tenant user stored := by
    by_cases own : tenant = tenantId ∧ user = userId
    · obtain ⟨rfl,rfl⟩ := own
      obtain ⟨_,after,_,final,_⟩ := patched.record
      rw [final]
      simp
    · rwa [patched.others tenant user own]
  revoked tenant user listed := by
    by_cases own : tenant = tenantId ∧ user = userId
    · obtain ⟨rfl,rfl⟩ := own
      obtain ⟨_,after,_,final,_⟩ := patched.record
      right
      rw [final]
      simp
    · exact .inl ((patched.key_iff own).mp listed)
  grows key listed := (patched.revoked key).mpr (.inl listed)
  noted user listed := by
    obtain ⟨rfl,deactivated⟩ := named user listed
    exact (patched.revoked _).mpr (.inr ⟨deactivated,rfl⟩)
  sourced tenant user record role stored held := by
    rcases patched.role stored held with before | ⟨rfl,rfl,set⟩
    · exact .inl before
    · exact .inr ⟨.patch,List.mem_map.mpr ⟨role,set,rfl⟩,nofun⟩

theorem evolves_sync (tenantId : TenantId) (groupId : String) (memberIds : List String) (roleBinding : Option String) :
    Evolves s (s.syncGroupMembers tenantId groupId memberIds roleBinding).1 []
      (grantedBy lower s (.syncGroupMembers tenantId groupId memberIds roleBinding)) where
  stays tenant user stored := by
    obtain ⟨_,times,role,users,_⟩ := @sync_cases s tenantId groupId memberIds roleBinding tenant user
    rw [users]
    simpa using stored
  revoked tenant user listed := by
    rw [(@sync_cases s tenantId groupId memberIds roleBinding tenant user).1] at listed
    exact .inl listed
  grows key listed := by
    rw [(@sync_cases s tenantId groupId memberIds roleBinding tenantId "").1]
    exact listed
  noted := nofun
  sourced tenant user record role stored held := by
    obtain ⟨_,times,bound,users,positive,_⟩ := @sync_cases s tenantId groupId memberIds roleBinding tenant user
    rw [users] at stored
    obtain ⟨before,known,rfl⟩ := Option.map_eq_some_iff.mp stored
    rw [(addRole_iterate bound times before).2] at held
    rcases held with held | ⟨given,same⟩
    · exact .inl ⟨before,known,held⟩
    · obtain ⟨binding,filled,rfl,inside,_⟩ := positive.mp given
      cases same
      subst binding
      refine .inr ⟨.group groupId,?_,fun _ _ => filled⟩
      simp only [grantedBy,if_neg filled]
      exact List.mem_map.mpr ⟨user,List.mem_filter.mpr ⟨inside,by rw [known]; rfl⟩,rfl⟩

theorem any_isDeactivate (actions : List PatchAction) :
    actions.any PatchAction.isDeactivate = true ↔ .deactivate ∈ actions := by
  rw [List.any_eq_true]
  constructor
  · rintro ⟨action,inside,deactivates⟩
    cases action with
    | deactivate => exact inside
    | setRoles roles => cases deactivates
    | nothing => cases deactivates
  · intro inside
    exact ⟨.deactivate,inside,rfl⟩

theorem recorded_step (recorded : Recorded r) (op : ScimOp) : Recorded (scimStep lower r op) := by
  apply recorded.evolve
  cases op with
  | createUser now generated tenantId payload => exact evolves_create now generated tenantId payload
  | updateUser now revoker tenantId userId ops =>
    cases stored : r.service.user? tenantId userId with
    | none =>
      have served : (r.service.updateUser lower now revoker tenantId userId ops).1 = r.service := by
        simp only [updateUser,stored]
      simp only [ScimProvisioningService.after,deprovisionedBy,grantedBy,stored,served,Option.isSome_none,Bool.false_and,
        Bool.false_eq_true,if_false]
      exact evolves_same (fun _ _ => rfl) rfl
    | some before =>
      have patched := @patched_update lower r.service tenantId userId now revoker ops before stored
      simp only [ScimProvisioningService.after,deprovisionedBy,grantedBy,stored,Option.isSome_some,Bool.true_and]
      apply evolves_patched patched
      intro user listed
      split at listed
      next deactivated => exact ⟨List.mem_singleton.mp listed,(any_isDeactivate _).mp deactivated⟩
      next => cases listed
  | deprovisionUser now revoker tenantId userId =>
    cases stored : r.service.user? tenantId userId with
    | none =>
      have served : (r.service.deprovisionUser now revoker tenantId userId).1 = r.service := by
        simp only [deprovisionUser,stored]
      simp only [ScimProvisioningService.after,deprovisionedBy,grantedBy,stored,served,Option.isSome_none,
        Bool.false_eq_true,if_false]
      exact evolves_same (fun _ _ => rfl) rfl
    | some before =>
      have patched := patched_deprovision stored now revoker
      simp only [ScimProvisioningService.after,deprovisionedBy,grantedBy,stored,Option.isSome_some,if_true]
      have evolved := evolves_patched patched [(tenantId,userId)]
        (fun user listed => ⟨List.mem_singleton.mp listed,List.mem_cons_self⟩)
      exact evolved
  | syncGroupMembers tenantId groupId memberIds roleBinding => exact evolves_sync tenantId groupId memberIds roleBinding

theorem agrees_iff (recorded : Recorded r) : ActivityAgrees r ↔ FlagsAgree r.service := by
  constructor
  · intro agrees
    exact agrees.stored
  · intro agree
    exact ⟨agree,fun user listed => isUserActive_revoked (recorded.deprovisioned user listed)⟩

end evolution

section contract
variable {lower : String → String} {s : ScimProvisioningService} {r : ScimRun}

/-- A record under a new id agrees with the revocation store. -/
theorem create_agree (kept : RevokedStored s) (agree : FlagsAgree s) (now : UtcDateTime) (generated : String)
    (tenantId : TenantId) (payload : ScimPayload)
    (new : ∀ record, s.newUser lower now generated tenantId payload = .ok record → s.user? tenantId record.id = none) :
    FlagsAgree (s.createUser lower now generated tenantId payload).1 := by
  rcases @createUser_cases lower s tenantId now generated payload with
    ⟨fault,_,_,revoked,users⟩ | ⟨record,built,_,revoked,users⟩
  · intro tenant user found stored
    rw [users] at stored
    have same := @isUserActive_congr s (s.createUser lower now generated tenantId payload).1 tenant user (by rw [revoked])
      (users tenant user)
    exact same.trans (agree tenant user found stored)
  · intro tenant user found stored
    have others := stored
    rw [users] at stored
    split at stored
    next own =>
      cases stored
      obtain ⟨rfl,rfl⟩ := own
      apply isUserActive_stored _ others
      rw [revoked]
      intro listed
      exact kept tenant record.id listed (new record built)
    next other =>
      have same := @isUserActive_congr s (s.createUser lower now generated tenantId payload).1 tenant user (by rw [revoked])
        (by rw [users,if_neg other])
      exact same.trans (agree tenant user found stored)

theorem sync_agree (agree : FlagsAgree s) (tenantId : TenantId) (groupId : String) (memberIds : List String)
    (roleBinding : Option String) : FlagsAgree (s.syncGroupMembers tenantId groupId memberIds roleBinding).1 := by
  intro tenant user found stored
  obtain ⟨revoked,times,role,users,_⟩ := @sync_cases s tenantId groupId memberIds roleBinding tenant user
  have given := stored
  rw [users] at given
  obtain ⟨before,known,same⟩ := Option.map_eq_some_iff.mp given
  have active : found.active = before.active := by rw [← same,(addRole_iterate role times before).1]
  rw [active,← agree tenant user before known]
  unfold isUserActive
  rw [revoked,stored,known]
  simp only [active]

theorem operation_agree (kept : RevokedStored s) (agree : FlagsAgree s) (op : ScimOp)
    (new : ∀ now generated tenantId payload, op = .createUser now generated tenantId payload →
      ∀ record, s.newUser lower now generated tenantId payload = .ok record → s.user? tenantId record.id = none) :
    FlagsAgree (s.after lower op) := by
  cases op with
  | createUser now generated tenantId payload => exact create_agree kept agree now generated tenantId payload (new _ _ _ _ rfl)
  | updateUser now revoker tenantId userId ops =>
    cases stored : s.user? tenantId userId with
    | none =>
      have served : (s.updateUser lower now revoker tenantId userId ops).1 = s := by simp only [updateUser,stored]
      change FlagsAgree (s.updateUser lower now revoker tenantId userId ops).1
      rwa [served]
    | some before => exact (@patched_update lower s tenantId userId now revoker ops before stored).agree agree
  | deprovisionUser now revoker tenantId userId =>
    cases stored : s.user? tenantId userId with
    | none =>
      have served : (s.deprovisionUser now revoker tenantId userId).1 = s := by simp only [deprovisionUser,stored]
      change FlagsAgree (s.deprovisionUser now revoker tenantId userId).1
      rwa [served]
    | some before => exact (patched_deprovision stored now revoker).agree agree
  | syncGroupMembers tenantId groupId memberIds roleBinding => exact sync_agree agree tenantId groupId memberIds roleBinding

/-- A creation keeps the records exactly if its id is new. -/
theorem create_contract_iff (now : UtcDateTime) (generated : String) (tenantId : TenantId) (payload : ScimPayload) :
    KeepsContract lower r (.createUser now generated tenantId payload) ↔
      MeetsContract lower r (.createUser now generated tenantId payload) := by
  constructor
  · intro keeps record done
    rcases @createUser_cases lower r.service tenantId now generated payload with
      ⟨fault,_,failed,_⟩ | ⟨built,known,served,_⟩
    · rw [failed] at done
      cases done
    · obtain rfl : built = record := Except.ok.inj (served.symm.trans done)
      exact keeps ⟨built,known⟩ built.id (newUser_id known)
  · rintro meets ⟨record,built⟩ userId own
    rcases @createUser_cases lower r.service tenantId now generated payload with
      ⟨fault,failed,_⟩ | ⟨known,again,served,_⟩
    · rw [built] at failed
      cases failed
    · obtain rfl : record = known := Except.ok.inj (built.symm.trans again)
      obtain rfl : userId = record.id := Except.ok.inj (own.symm.trans (newUser_id built))
      exact meets record served

/-- A sync leaves the role to the members alone exactly if it names every user who has it only
through the group. -/
theorem sync_contract_iff (recorded : Recorded r) (tenantId : TenantId) (groupId : String) (memberIds : List String)
    (role : String) : KeepsContract lower r (.syncGroupMembers tenantId groupId memberIds (some role)) ↔
      MeetsContract lower r (.syncGroupMembers tenantId groupId memberIds (some role)) := by
  have after (userId : String) : ∃ times : Nat,
      (r.service.syncGroupMembers tenantId groupId memberIds (some role)).1.user? tenantId userId =
        (r.service.user? tenantId userId).map (addRole role)^[times] ∧
      (0 < times ↔ role ≠ "" ∧ userId ∈ memberIds ∧ r.service.user? tenantId userId ≠ none) := by
    obtain ⟨_,times,bound,users,positive,own⟩ := @sync_cases r.service tenantId groupId memberIds (some role) tenantId userId
    obtain rfl : role = bound := own role rfl
    refine ⟨times,users,?_⟩
    simpa using positive
  constructor
  · intro keeps userId record stored only
    obtain ⟨times,users,positive⟩ := after userId
    rw [users] at stored
    obtain ⟨before,known,rfl⟩ := Option.map_eq_some_iff.mp stored
    have kept := keeps userId before known only
    rw [(addRole_iterate role times before).2,positive,known]
    by_cases empty : role = ""
    · rw [if_pos empty] at kept
      apply iff_of_false _ kept
      rintro (held | ⟨⟨filled,_⟩,_⟩)
      · obtain ⟨source,granted,named⟩ := recorded.sourced tenantId userId before role known held
        exact named groupId (only source granted) empty
      · exact filled empty
    · rw [if_neg empty] at kept
      constructor
      · rintro (held | ⟨⟨_,inside,_⟩,_⟩)
        · exact kept held
        · exact inside
      · intro inside
        exact .inr ⟨⟨empty,inside,by simp⟩,rfl⟩
  · intro meets userId record stored only
    obtain ⟨times,users,positive⟩ := after userId
    rw [stored] at users
    have met := meets userId _ users only
    rw [(addRole_iterate role times record).2,positive,stored] at met
    by_cases empty : role = ""
    · rw [if_pos empty]
      intro inside
      rcases met.mpr inside with held | ⟨⟨filled,_⟩,_⟩
      · obtain ⟨source,granted,named⟩ := recorded.sourced tenantId userId record role stored held
        exact named groupId (only source granted) empty
      · exact filled empty
    · rw [if_neg empty]
      intro held
      exact met.mp (.inl held)

theorem contract_step (recorded : Recorded r) (agrees : ActivityAgrees r) (op : ScimOp) :
    KeepsContract lower r op ↔ MeetsContract lower r op ∧ ActivityAgrees (scimStep lower r op) := by
  have agree := (agrees_iff recorded).mp agrees
  have kept : RevokedStored r.service := recorded.revoked
  have same : KeepsContract lower r op ↔ MeetsContract lower r op := by
    cases op with
    | createUser now generated tenantId payload => exact create_contract_iff now generated tenantId payload
    | updateUser now revoker tenantId userId ops => exact Iff.rfl
    | deprovisionUser now revoker tenantId userId => exact Iff.rfl
    | syncGroupMembers tenantId groupId memberIds roleBinding =>
      cases roleBinding with
      | none => exact Iff.rfl
      | some role => exact sync_contract_iff recorded tenantId groupId memberIds role
  rw [same,agrees_iff (recorded_step recorded op)]
  refine (and_iff_left_of_imp ?_).symm
  intro meets
  apply operation_agree kept agree op
  rintro now generated tenantId payload rfl record built
  exact (create_contract_iff now generated tenantId payload).mpr meets ⟨record,built⟩ record.id (newUser_id built)

/-- A run of the service meets its contract, and its flags agree in every state, exactly if each of
its operations keeps the contract. -/
theorem scim_contract_iff (ops : List ScimOp) :
    Along (scimStep lower) (MeetsContract lower) {} ops ∧ Always (scimStep lower) ActivityAgrees {} ops ↔
      Along (scimStep lower) (KeepsContract lower) {} ops := by
  have start : Recorded {} := by
    constructor
    · intro tenantId userId listed
      cases listed
    · exact nofun
    · intro tenantId userId record role stored
      cases stored
  have always : Along (scimStep lower) (fun _ _ => True) {} ops := (along_iff _ _ _ _).mpr (fun _ _ _ _ => trivial)
  symm
  apply along_safe_iff (scimStep lower) (I := Recorded) (F := fun _ _ => True)
  · intro r op recorded _
    exact recorded_step recorded op
  · intro r op recorded _ agrees
    exact contract_step recorded agrees op
  · exact start
  · refine ⟨?_,nofun⟩
    intro tenantId userId record stored
    cases stored
  · exact always

end contract

section examples

def acme : TenantId := ⟨"tnt_acme",Eq.refl true⟩

/-- A user joins a group with a role and leaves it again. -/
def joinAndLeave : List ScimOp :=
  [.createUser ⟨0⟩ "usr_scim_01" acme [(.str "userName",.str "ann@acme.test")],
    .syncGroupMembers acme "auditors" ["usr_scim_01"] (some "auditor"),
    .syncGroupMembers acme "auditors" [] (some "auditor")]

def scimRun (ops : List ScimOp) : ScimRun := run (scimStep Text.asciiCasing.lower) {} ops

theorem left_member_keeps_role : ¬ (Along (scimStep Text.asciiCasing.lower) (MeetsContract Text.asciiCasing.lower) {} joinAndLeave ∧
    Always (scimStep Text.asciiCasing.lower) ActivityAgrees {} joinAndLeave) := by
  rintro ⟨along,_⟩
  have met := @along_at _ _ (scimStep Text.asciiCasing.lower) (MeetsContract Text.asciiCasing.lower) {} joinAndLeave
    (joinAndLeave.take 2) [] (.syncGroupMembers acme "auditors" [] (some "auditor")) along rfl
  let left := ((scimRun (joinAndLeave.take 2)).service.syncGroupMembers acme "auditors" [] (some "auditor")).1
  have only : OnlyThrough (scimRun (joinAndLeave.take 2)) acme "auditors" "usr_scim_01" "auditor" := by
    have grants : (scimRun (joinAndLeave.take 2)).grants =
        [⟨acme,"usr_scim_01","auditor",.group "auditors"⟩,⟨acme,"usr_scim_01","operator",.creation⟩] := by decide +kernel
    intro source granted
    rw [grants] at granted
    simpa using granted
  cases stored : left.user? acme "usr_scim_01" with
  | none =>
    have known : (left.user? acme "usr_scim_01").isSome = true := by decide +kernel
    rw [stored] at known
    cases known
  | some record =>
    have held : ((left.user? acme "usr_scim_01").map (fun record => roleTexts record.roles)) = some ["auditor","operator"] := by
      decide +kernel
    rw [stored] at held
    have texts : roleTexts record.roles = ["auditor","operator"] := Option.some.inj held
    have role : "auditor" ∈ roleTexts record.roles := by
      rw [texts]
      exact List.mem_cons_self
    exact List.not_mem_nil ((met "usr_scim_01" record stored only).mp ((mem_roleTexts _ _).mp role))

end examples
end RevPilot.Iam
