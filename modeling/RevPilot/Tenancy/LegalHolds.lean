import RevPilot.Tenancy.Effects
import RevPilot.Library.Runs

/-! Legal holds over whole runs. One record and one status stand for all the matters
that hold a tenant; a run keeps track of the matters themselves. -/
namespace RevPilot.Tenancy
open Library Shared Program Prog Runs TenantService TenantCascadeDeletionSaga

/-- The world with the matters whose hold was applied and not released since. -/
structure HoldState where
  world : TenancyWorld
  matters : List (TenantId × String)

/-- A matter is held from an application that succeeds to a release that succeeds. -/
def noteMatters (matters : List (TenantId × String)) : TenancyOperation → Except PyError Unit → List (TenantId × String)
  | .applyLegalHold t matter _ _, .ok _ => (t,Text.strip matter) :: matters
  | .releaseLegalHold t matter _, .ok _ => matters.filter (· ≠ (t,Text.strip matter))
  | _, _ => matters

variable (sha256 : String → String)

def holdStep (s : HoldState) (op : TenancyOperation × (Nat → UtcDateTime)) : HoldState :=
  let (outcome,world) := (op.1.prog sha256 op.2).exec serve s.world
  { world := world, matters := noteMatters s.matters op.1 outcome }

def HoldState.held (s : HoldState) (t : TenantId) : Prop := ∃ matter, (t,matter) ∈ s.matters

/-- Every deletion of a held tenant raises, and the tenant is not deleted. -/
def HoldsRespected (s : HoldState) : Prop :=
  ∀ t, s.held t →
    (∀ approvers failure leak certificateId clock, ∃ error,
      ((executeCascadeDeletion sha256 t approvers failure leak certificateId clock).exec serve s.world).1 =
        .error error) ∧
    s.world.statusOf t ≠ some .deleted

/-- The record stays active when the hold of a matter is released. -/
def TenancyWorld.staysActive (w : TenancyWorld) (t : TenantId) (matter : String) : Bool :=
  (w.legalHolds.get? t).any (fun record => record.isActive && record.matterId != matter)

def statusAfter (current restore : TenantStatus) : TenantStatus :=
  if accepts current restore none then restore else current

/-- What an operation other than an application or a release asks of its tenant's record. -/
def RecordKept (w : TenancyWorld) : TenancyOperation → Prop
  | .provisionTenant o name _ _ id generated => provisions w o name → w.holdActive (id.getD generated) = true
  | .provisionTenantIdempotent request _ generated =>
    remembered w request.idempotencyKey = none → provisions w request.organizationId request.name →
      w.holdActive (request.tenantId.getD generated) = true
  | .activateTenant t | .deactivateTenant t => w.holdActive t = true
  | .suspendTenant t reason => ¬ (reason ≠ "" ∧ Text.strip reason = "") → w.holdActive t = true
  | _ => True

def TenancyOperation.target : TenancyOperation → Option TenantId
  | .createOrganization .. => none
  | .provisionTenant _ _ _ _ id generated => some (id.getD generated)
  | .provisionTenantIdempotent request _ generated => some (request.tenantId.getD generated)
  | .activateTenant t | .activateTenantWithPreconditions t _ | .suspendTenant t _ | .reactivateTenant t _
  | .applyLegalHold t _ _ _ | .releaseLegalHold t _ _ | .deactivateTenant t
  | .executeCascadeDeletion t _ _ _ _ => some t

/-- The operation leaves a tenant that is held with an active record, or under hold by its status. -/
def Careful (s : HoldState) (op : TenancyOperation) : Prop :=
  match op with
  | .releaseLegalHold t matter restore =>
    ∀ current, s.world.statusOf t = some current →
      (∃ other, (t,other) ∈ s.matters ∧ (accepts current restore none = true → other ≠ Text.strip matter)) →
        statusAfter current restore ≠ .deleted ∧
          (statusAfter current restore = .legalHold ∨ s.world.staysActive t matter = true)
  | _ => ∀ t, op.target = some t → s.held t → RecordKept s.world op

/-- The tenant is under hold and not deleted. -/
def Safe (w : TenancyWorld) (t : TenantId) : Prop := w.underHold t = true ∧ w.statusOf t ≠ some .deleted

theorem underHold_iff {w : TenancyWorld} {t : TenantId} :
    w.underHold t = true ↔ w.statusOf t = some .legalHold ∨ w.holdActive t = true := by
  simp [TenancyWorld.underHold]

theorem exec_refused {w : TenancyWorld} {t : TenantId} (held : w.underHold t = true) (approvers : List String)
    (failure : Option String) (leak : Bool) (certificateId : UUIDv7) (clock : Nat → UtcDateTime) :
    ∃ error, (executeCascadeDeletion sha256 t approvers failure leak certificateId clock).exec serve w =
      (.error error,w) := by
  unfold executeCascadeDeletion
  rw [exec_bind,exec_isUnderLegalHold,held]
  exact ⟨_,rfl⟩

theorem exec_purge (t : TenantId) (now : UtcDateTime) (steps purged : List String) (w : TenancyWorld) :
    (purge t none now steps purged).exec serve w = (.ok (purged ++ steps),w) := by
  induction steps generalizing purged with
  | nil => simp [purge]
  | cons step steps ih =>
    rw [purge,if_neg (by simp),ih]
    simp

/-- A tenant that is not under hold can be deleted. -/
theorem exec_deleted {w : TenancyWorld} {t : TenantId} {tenant : Tenant} (stored : w.tenants.get? t = some tenant)
    (unheld : w.underHold t = false) : ∃ certificate w',
      (executeCascadeDeletion sha256 t ["a","b"] none false ⟨""⟩ (fun _ => ⟨0⟩)).exec serve w =
        (.ok certificate,w') := by
  have known : w.statusOf t = some tenant.status := by simp [TenancyWorld.statusOf,stored]
  obtain ⟨_,w₁,started,moved⟩ := @exec_update_ok t _ .deleting none w known rfl ⟨0⟩
  obtain ⟨_,w₂,finished,_⟩ := @exec_update_ok t _ .deleted none w₁ moved.own rfl ⟨0⟩
  have two : ¬ (["a","b"] : List String).dedup.length < 2 := by decide
  have body : (executeCascadeDeletion sha256 t ["a","b"] none false ⟨""⟩ (fun _ => ⟨0⟩)).exec serve w =
      (do
        let _ ← getTenant t
        let _ ← updateStatus t .deleting ⟨0⟩
        let purged ← purge t none ⟨0⟩ deletionSteps []
        let _ ← updateStatus t .deleted ⟨0⟩
        let certificate : DeletionCertificate :=
          { certificateId := ⟨""⟩, tenantId := t, deletedAt := ⟨0⟩, purgedPartitions := purged
            deletionDigestSha256 := digest sha256 ⟨""⟩ t ⟨0⟩ purged ["a","b"], dualApprovers := ["a","b"] }
        Prog.call (TenancyCall.certify certificate
          { tenantId := t, certificateId := ⟨""⟩, digest := certificate.deletionDigestSha256
            purgedCount := purged.length })
        return certificate : TenancyProg DeletionCertificate).exec serve w := by
    unfold executeCascadeDeletion
    rw [exec_bind,exec_isUnderLegalHold,unheld]
    simp only [Bool.false_eq_true,if_false,if_neg two]
  rw [body,exec_getTenant,stored]
  dsimp only
  rw [exec_bind,started]
  dsimp only
  rw [exec_bind,exec_purge]
  dsimp only
  rw [exec_bind,finished]
  exact ⟨_,_,rfl⟩

/-- Every deletion of a tenant raises exactly when it is under hold. -/
theorem refused_iff {w : TenancyWorld} {t : TenantId} {status : TenantStatus} (known : w.statusOf t = some status) :
    (∀ approvers failure leak certificateId clock, ∃ error,
      ((executeCascadeDeletion sha256 t approvers failure leak certificateId clock).exec serve w).1 =
        .error error) ↔ w.underHold t = true := by
  constructor
  · intro refused
    by_contra unheld
    cases stored : w.tenants.get? t with
    | none => simp [TenancyWorld.statusOf,stored] at known
    | some tenant =>
      obtain ⟨certificate,w',done⟩ := exec_deleted sha256 stored (by simpa using unheld)
      obtain ⟨error,failed⟩ := refused ["a","b"] none false ⟨""⟩ (fun _ => ⟨0⟩)
      rw [done] at failed
      cases failed
  · intro held approvers failure leak certificateId clock
    obtain ⟨error,run⟩ := exec_refused sha256 held approvers failure leak certificateId clock
    exact ⟨error,by rw [run]⟩

/-- Held tenants are there. -/
def Known (s : HoldState) : Prop := ∀ t, s.held t → ∃ status, s.world.statusOf t = some status

theorem respected_iff {s : HoldState} (known : Known s) :
    HoldsRespected sha256 s ↔ ∀ t, s.held t → Safe s.world t := by
  refine forall_congr' fun t => forall_congr' fun held => ?_
  obtain ⟨status,there⟩ := known t held
  rw [refused_iff sha256 there]
  rfl

section frame

theorem getTenant_confined (t t' : TenantId) : (getTenant t').Calls (Confined t) :=
  ⟨trivial,fun reply => by cases reply <;> trivial⟩

theorem update_confined (t : TenantId) (asked : TenantStatus) (now : UtcDateTime) (reason : Option String) :
    (updateStatus t asked now reason).Calls (Confined t) := ⟨rfl,fun reply => calls_ofExcept reply⟩

theorem requireOrganization_confined (t : TenantId) (o : OrganizationId) :
    (requireOrganization o).Calls (Confined t) := ⟨trivial,fun reply => by cases reply <;> trivial⟩

theorem newTenant_confined {B : Type} (o : OrganizationId) (id : TenantId) (name : String) (tier : SubscriptionTier)
    (entitlement : Entitlement) (now : UtcDateTime) (rest : Tenant → TenancyProg B)
    (calls : ∀ tenant, (rest tenant).Calls (Confined id)) :
    (do
      let _ ← requireOrganization o
      let tenant ← Prog.ofExcept (newTenant id o name tier entitlement now)
      Prog.call (TenancyCall.saveTenant tenant)
      rest tenant : TenancyProg B).Calls (Confined id) := by
  refine calls_bind (requireOrganization_confined id o) fun _ => ?_
  cases made : newTenant id o name tier entitlement now with
  | error e => trivial
  | ok tenant => exact ⟨(newTenant_ok made).2.1,fun _ => calls tenant⟩

theorem provisionFresh_confined (request : TenantProvisioningRequest) (failure : Option String) (generated : TenantId)
    (clock : Nat → UtcDateTime) :
    (provisionFresh request failure generated clock).Calls (Confined (request.tenantId.getD generated)) :=
  newTenant_confined request.organizationId _ request.name request.tier _ (clock 0) _
    (fun _ => calls_mono writesOf_confined (allocateResources_calls request failure _ (clock 1)))

theorem provisionTenantIdempotent_confined (request : TenantProvisioningRequest) (failure : Option String)
    (generated : TenantId) (clock : Nat → UtcDateTime) :
    (provisionTenantIdempotent request failure generated clock).Calls
      (Confined (request.tenantId.getD generated)) := by
  have fresh := provisionFresh_confined request failure generated clock
  unfold provisionTenantIdempotent
  cases request.idempotencyKey.filter (· ≠ "") with
  | none => exact fresh
  | some key =>
    refine ⟨trivial,fun reply => ?_⟩
    cases reply with
    | none => exact fresh
    | some known =>
      refine ⟨trivial,fun reply => ?_⟩
      cases reply with
      | none => exact fresh
      | some existing => trivial

theorem deletion_confined (t : TenantId) (approvers : List String) (failure : Option String) (leak : Bool)
    (certificateId : UUIDv7) (clock : Nat → UtcDateTime) :
    (executeCascadeDeletion sha256 t approvers failure leak certificateId clock).Calls (Confined t) := by
  have question : (isUnderLegalHold t).Calls (Confined t) := by
    unfold isUnderLegalHold
    simp only [call_bind,calls_await]
    refine ⟨trivial,fun reply => ?_⟩
    cases reply with
    | none => exact ⟨trivial,fun _ => trivial⟩
    | some tenant =>
      dsimp only
      split
      · trivial
      · exact ⟨trivial,fun _ => trivial⟩
  refine calls_bind question fun held => ?_
  split
  · trivial
  split
  · trivial
  refine calls_bind (getTenant_confined t t) fun _ => ?_
  refine calls_bind (update_confined t .deleting (clock 0) none) fun _ => ?_
  refine calls_bind (calls_mono writesOf_confined (purge_calls t failure (clock 1) deletionSteps [])) fun purged => ?_
  split
  · trivial
  exact calls_bind (update_confined t .deleted (clock 2) none) fun _ => ⟨trivial,fun _ => trivial⟩

/-- An operation other than an application or a release. -/
def TenancyOperation.plain : TenancyOperation → Bool
  | .applyLegalHold .. | .releaseLegalHold .. => false
  | _ => true

theorem operation_confined (op : TenancyOperation) (plain : op.plain = true) {t : TenantId}
    (target : op.target = some t) (clock : Nat → UtcDateTime) : (op.prog sha256 clock).Calls (Confined t) := by
  cases op with
  | createOrganization => cases target
  | applyLegalHold => cases plain
  | releaseLegalHold => cases plain
  | provisionTenant o name tier entitlement id generated =>
    obtain rfl := Option.some.inj target
    exact calls_bind (newTenant_confined o _ name tier _ (clock 0) Prog.ret (fun _ => trivial)) fun _ => trivial
  | provisionTenantIdempotent request failure generated =>
    obtain rfl := Option.some.inj target
    exact calls_bind (provisionTenantIdempotent_confined request failure generated clock) fun _ => trivial
  | activateTenant t =>
    obtain rfl := Option.some.inj target
    exact calls_bind (update_confined t .active (clock 0) none) fun _ => trivial
  | activateTenantWithPreconditions t runner =>
    obtain rfl := Option.some.inj target
    refine calls_bind (calls_bind (getTenant_confined t t) fun tenant => ?_) fun _ => trivial
    split
    · split
      · trivial
      · trivial
    · cases runner with
      | none => exact update_confined t .active (clock 0) none
      | some run =>
        refine calls_bind (calls_ofExcept run) fun result => ?_
        split
        · exact update_confined t .active (clock 0) none
        · trivial
  | suspendTenant t reason =>
    obtain rfl := Option.some.inj target
    refine calls_bind (calls_bind (getTenant_confined t t) fun tenant => ?_) fun _ => trivial
    split
    · trivial
    · exact update_confined t .suspended (clock 0) (some reason)
  | reactivateTenant t resolution =>
    obtain rfl := Option.some.inj target
    refine calls_bind ?_ fun _ => trivial
    unfold reactivateTenant
    split
    · trivial
    refine calls_bind (getTenant_confined t t) fun tenant => ?_
    split
    · trivial
    split
    · trivial
    · exact update_confined t .active (clock 0) none
  | deactivateTenant t =>
    obtain rfl := Option.some.inj target
    exact calls_bind (update_confined t .deactivated (clock 0) none) fun _ => trivial
  | executeCascadeDeletion t approvers failure leak certificateId =>
    obtain rfl := Option.some.inj target
    exact calls_bind (deletion_confined sha256 t approvers failure leak certificateId clock) fun _ => trivial

theorem operation_apart (op : TenancyOperation) (plain : op.plain = true) {t : TenantId}
    (target : op.target = some t) (clock : Nat → UtcDateTime) (w : TenancyWorld) :
    Apart w ((op.prog sha256 clock).exec serve w).2 t :=
  exec_of_calls (fun c w' call => confined_keeps c w' call) (operation_confined sha256 op plain target clock)
    (apart_refl w t)

end frame

section own
variable {w : TenancyWorld} {t : TenantId}

theorem safe_apart {w' : TenancyWorld} {other : TenantId} (apart : Apart w w' other) (different : t ≠ other) :
    Safe w' t ↔ Safe w t := by
  simp only [Safe,underHold_iff,apart.others t different,holdActive_of_holds apart.holds]

/-- What a status that is written leaves of a hold. -/
theorem safe_status {w' : TenancyWorld} {asked : TenantStatus} (own : w'.statusOf t = some asked)
    (holds : w'.legalHolds = w.legalHolds) (plain : asked ≠ .legalHold) (live : asked ≠ .deleted) :
    Safe w' t ↔ w.holdActive t = true := by
  simp [Safe,underHold_iff,own,holdActive_of_holds holds,plain,live]

theorem status_of_safe (safe : Safe w t) (passive : w.holdActive t = false) : w.statusOf t = some .legalHold := by
  rcases underHold_iff.mp safe.1 with held | active
  · exact held
  · simp [passive] at active

/-- A status that the hold by status does not refuse leaves the record alone. -/
theorem safe_update (safe : Safe w t) {asked : TenantStatus} {reason : Option String} (plain : asked ≠ .legalHold)
    (live : asked ≠ .deleted) (granted : accepts .legalHold asked reason = true) (now : UtcDateTime) :
    Safe ((updateStatus t asked now reason).exec serve w).2 t ↔ w.holdActive t = true := by
  rcases exec_update_cases t asked now reason w with ⟨_,_,w',_,_,run,written⟩ | ⟨refused,error,run⟩
  · rw [run]
    exact safe_status written.own written.holds plain live
  · rw [run]
    refine iff_of_true safe ?_
    by_contra passive
    have held := status_of_safe safe (by simpa using passive)
    simp [refused _ held] at granted

theorem safe_update_active (safe : Safe w t) (active : w.holdActive t = true) {asked : TenantStatus}
    {reason : Option String} (plain : asked ≠ .legalHold) (live : asked ≠ .deleted) (now : UtcDateTime) :
    Safe ((updateStatus t asked now reason).exec serve w).2 t := by
  rcases exec_update_cases t asked now reason w with ⟨_,_,w',_,_,run,written⟩ | ⟨refused,error,run⟩
  · rw [run]
    exact (safe_status written.own written.holds plain live).mpr active
  · rw [run]
    exact safe

theorem active_of_safe (safe : Safe w t) {tenant : Tenant} (stored : w.tenants.get? t = some tenant)
    (plain : tenant.status ≠ .legalHold) : w.holdActive t = true := by
  by_contra passive
  have held := status_of_safe safe (by simpa using passive)
  simp [TenancyWorld.statusOf,stored,plain] at held

/-- Provisioning ends with an error and an unchanged world, or goes on after the saving. -/
theorem exec_newTenant {B : Type} (o : OrganizationId) (id : TenantId) (name : String) (tier : SubscriptionTier)
    (entitlement : Entitlement) (now : UtcDateTime) (rest : Tenant → TenancyProg B) (w : TenancyWorld) :
    let prog : TenancyProg B := do
      let _ ← requireOrganization o
      let tenant ← Prog.ofExcept (newTenant id o name tier entitlement now)
      Prog.call (TenancyCall.saveTenant tenant)
      rest tenant
    (¬ provisions w o name ∧ ∃ error, prog.exec serve w = (.error error,w)) ∨
    (provisions w o name ∧ ∃ tenant : Tenant, tenant.id = id ∧ tenant.status = .provisioning ∧
      prog.exec serve w = (rest tenant).exec serve (serve (.saveTenant tenant) w).2) := by
  intro prog
  unfold prog
  simp only [requireOrganization,call_bind,await_bind,exec_await,serve]
  cases found : w.organizations.get? o with
  | none => exact .inl ⟨by simp [provisions,found],_,rfl⟩
  | some org =>
    cases made : newTenant id o name tier entitlement now with
    | error e =>
      exact .inl ⟨fun may => may.2 (newTenant_error made),e,rfl⟩
    | ok tenant =>
      obtain ⟨filled,own,fresh⟩ := newTenant_ok made
      exact .inr ⟨⟨by simp [found],filled⟩,tenant,own,fresh,rfl⟩

theorem safe_provisioned {status : TenantStatus} {w' : TenancyWorld} (own : w'.statusOf t = some status)
    (kind : provisioningStatus status = true) (holds : w'.legalHolds = w.legalHolds) :
    Safe w' t ↔ w.holdActive t = true := by
  apply safe_status own holds
  · rintro rfl
    cases kind
  · rintro rfl
    cases kind

theorem safe_provisionFresh (request : TenantProvisioningRequest) (failure : Option String) (generated : TenantId)
    (clock : Nat → UtcDateTime) (own : request.tenantId.getD generated = t) (safe : Safe w t) :
    Safe ((provisionFresh request failure generated clock).exec serve w).2 t ↔
      (provisions w request.organizationId request.name → w.holdActive t = true) := by
  subst own
  generalize named : request.tenantId.getD generated = t at safe ⊢
  have body : provisionFresh request failure generated clock = (do
      let _ ← requireOrganization request.organizationId
      let tenant ← Prog.ofExcept
        (newTenant t request.organizationId request.name request.tier { tier := request.tier } (clock 0))
      Prog.call (TenancyCall.saveTenant tenant)
      allocateResources request failure t (clock 1)) := by
    rw [← named]
    rfl
  rw [body]
  rcases exec_newTenant request.organizationId t request.name request.tier { tier := request.tier } (clock 0)
      (fun _ => allocateResources request failure t (clock 1)) w with
    ⟨absent,error,run⟩ | ⟨may,tenant,filed,fresh,run⟩
  · rw [run]
    exact iff_of_true safe (fun may => absurd may absent)
  · rw [run,imp_iff_right may]
    have saved := written_save w tenant
    rw [filed] at saved
    have started : HasStatus (serve (.saveTenant tenant) w).2 t provisioningStatus :=
      ⟨tenant.status,saved.own,by rw [fresh]; rfl⟩
    have calls := allocateResources_calls request failure t (clock 1)
    obtain ⟨status,final,kind⟩ :=
      exec_of_calls (fun c w call known => (writesOf_keeps c w call known).1) calls started
    have apart := exec_of_calls (fun c w' call => confined_keeps c w' call) (calls_mono writesOf_confined calls)
      (apart_refl (serve (.saveTenant tenant) w).2 t)
    exact safe_provisioned final kind (apart.holds.trans saved.holds)

theorem safe_provisionTenantIdempotent (request : TenantProvisioningRequest) (failure : Option String)
    (generated : TenantId) (clock : Nat → UtcDateTime) (own : request.tenantId.getD generated = t) (safe : Safe w t) :
    Safe ((provisionTenantIdempotent request failure generated clock).exec serve w).2 t ↔
      (remembered w request.idempotencyKey = none → provisions w request.organizationId request.name →
        w.holdActive t = true) := by
  have fresh := safe_provisionFresh request failure generated clock own safe
  unfold provisionTenantIdempotent remembered
  cases request.idempotencyKey.filter (· ≠ "") with
  | none => simpa using fresh
  | some key =>
    simp only [call_bind,exec_await,serve,Option.bind_some]
    cases w.provisioningKeys.get? key with
    | none => simpa using fresh
    | some known =>
      simp only [exec_await,serve,Option.bind_some]
      cases w.tenants.get? known with
      | none => simpa using fresh
      | some existing => simpa using safe

theorem blank_reason (reason : String) :
    accepts .legalHold .suspended (some reason) = true ↔ ¬ (reason ≠ "" ∧ Text.strip reason = "") := by
  by_cases empty : reason = ""
  · subst empty
    decide +kernel
  · simp [accepts,TenantStatus.isTerminal,Option.filter,empty]

theorem safe_discard {B : Type} {prog : TenancyProg B} {P : Prop} (body : Safe (prog.exec serve w).2 t ↔ P) :
    Safe ((prog >>= fun _ => Prog.ret () : TenancyProg Unit).exec serve w).2 t ↔ P := by
  rw [exec_discard]
  exact body

/-- A plain operation on a tenant under hold leaves it so exactly when it finds the
record it relies on. -/
theorem safe_own (op : TenancyOperation) (plain : op.plain = true) (target : op.target = some t)
    (clock : Nat → UtcDateTime) (safe : Safe w t) :
    Safe ((op.prog sha256 clock).exec serve w).2 t ↔ RecordKept w op := by
  cases op with
  | createOrganization => cases target
  | applyLegalHold => cases plain
  | releaseLegalHold => cases plain
  | provisionTenant o name tier entitlement id generated =>
    obtain rfl := Option.some.inj target
    refine safe_discard ?_
    unfold provisionTenant
    simp only [RecordKept]
    rcases exec_newTenant o (id.getD generated) name tier (entitlement.getD { tier := tier }) (clock 0) pure w with
      ⟨absent,error,run⟩ | ⟨may,tenant,filed,fresh,run⟩
    · refine iff_of_true ?_ (fun may => absurd may absent)
      rw [run]
      exact safe
    · have saved := written_save w tenant
      rw [filed,fresh] at saved
      rw [run,imp_iff_right may]
      exact safe_provisioned saved.own rfl saved.holds
  | provisionTenantIdempotent request failure generated =>
    refine safe_discard ?_
    obtain rfl := Option.some.inj target
    exact safe_provisionTenantIdempotent request failure generated clock rfl safe
  | activateTenant t' =>
    obtain rfl := Option.some.inj target
    refine safe_discard ?_
    exact safe_update safe (by decide) (by decide) rfl (clock 0)
  | activateTenantWithPreconditions t' runner =>
    obtain rfl := Option.some.inj target
    refine safe_discard ?_
    refine iff_of_true ?_ trivial
    unfold activateTenantWithPreconditions
    rw [exec_getTenant]
    cases stored : w.tenants.get? t' with
    | none => exact safe
    | some tenant =>
      dsimp only
      by_cases early : tenant.status ≠ .activating ∧ tenant.status ≠ .provisioning
      · rw [if_pos early]
        split
        · exact safe
        · exact safe
      · rw [if_neg early]
        have other : tenant.status ≠ .legalHold := by
          intro held
          exact early (by simp [held])
        have active := active_of_safe safe stored other
        have plain : TenantStatus.active ≠ .legalHold := by decide
        have live : TenantStatus.active ≠ .deleted := by decide
        have activation := @safe_update_active _ _ safe active _ none plain live (clock 0)
        cases runner with
        | none => exact activation
        | some run =>
          cases run with
          | error e => exact safe
          | ok result =>
            dsimp only [ofExcept_ok,ret_bind]
            split
            · exact activation
            · exact safe
  | suspendTenant t' reason =>
    obtain rfl := Option.some.inj target
    refine safe_discard ?_
    unfold suspendTenant
    rw [exec_getTenant]
    cases stored : w.tenants.get? t' with
    | none =>
      have active : w.holdActive t' = true := by
        by_contra passive
        have held := status_of_safe safe (by simpa using passive)
        simp [TenancyWorld.statusOf,stored] at held
      exact iff_of_true safe (fun _ => active)
    | some tenant =>
      dsimp only
      by_cases suspended : tenant.status = .suspended
      · rw [if_pos suspended]
        have active := active_of_safe safe stored (by rw [suspended]; decide)
        exact iff_of_true safe (fun _ => active)
      · rw [if_neg suspended]
        by_cases filled : accepts .legalHold .suspended (some reason) = true
        · rw [RecordKept,imp_iff_right ((blank_reason reason).mp filled)]
          exact safe_update safe (by decide) (by decide) filled (clock 0)
        · have blank : ¬ ¬ (reason ≠ "" ∧ Text.strip reason = "") := fun other => filled ((blank_reason reason).mpr other)
          refine iff_of_true ?_ (fun filled => absurd filled blank)
          rcases exec_update_cases t' .suspended (clock 0) (some reason) w with
            ⟨current,_,_,_,accepted,_,_⟩ | ⟨_,error,run⟩
          · refine absurd ?_ filled
            simp only [accepts,Bool.and_eq_true] at accepted ⊢
            exact ⟨rfl,accepted.2⟩
          · rw [run]
            exact safe
  | reactivateTenant t' resolution =>
    obtain rfl := Option.some.inj target
    refine safe_discard ?_
    refine iff_of_true ?_ trivial
    unfold reactivateTenant
    split
    · exact safe
    rw [exec_getTenant]
    cases stored : w.tenants.get? t' with
    | none => exact safe
    | some tenant =>
      dsimp only
      split
      · exact safe
      split
      · exact safe
      next suspended =>
        have status : tenant.status = .suspended := by simpa using suspended
        have active := active_of_safe safe stored (by rw [status]; decide)
        exact safe_update_active safe active (by decide) (by decide) (clock 0)
  | deactivateTenant t' =>
    obtain rfl := Option.some.inj target
    refine safe_discard ?_
    exact safe_update safe (by decide) (by decide) rfl (clock 0)
  | executeCascadeDeletion t' approvers failure leak certificateId =>
    obtain rfl := Option.some.inj target
    refine safe_discard ?_
    obtain ⟨error,run⟩ := exec_refused sha256 safe.1 approvers failure leak certificateId clock
    rw [run]
    exact iff_of_true safe trivial

end own

section holds

/-- All other tenants are as they were. -/
structure Elsewhere (w w' : TenancyWorld) (t : TenantId) : Prop where
  status : ∀ t', t' ≠ t → w'.statusOf t' = w.statusOf t'
  hold : ∀ t', t' ≠ t → w'.holdActive t' = w.holdActive t'

theorem safe_elsewhere {w w' : TenancyWorld} {t other : TenantId} (elsewhere : Elsewhere w w' other)
    (different : t ≠ other) : Safe w' t ↔ Safe w t := by
  simp only [Safe,underHold_iff,elsewhere.status t different,elsewhere.hold t different]

/-- An application raises and changes nothing, or leaves the tenant under hold. -/
theorem exec_applyLegalHold (t : TenantId) (matter justification actor : String) (clock : Nat → UtcDateTime)
    (w : TenancyWorld) :
    (∃ error, (applyLegalHold t matter justification actor clock).exec serve w = (.error error,w)) ∨
    ∃ record w', (applyLegalHold t matter justification actor clock).exec serve w = (.ok record,w') ∧
      w'.statusOf t = some .legalHold ∧ Elsewhere w w' t := by
  unfold applyLegalHold
  rw [exec_getTenant]
  cases w.tenants.get? t with
  | none => exact .inl ⟨_,rfl⟩
  | some tenant =>
    dsimp only
    split
    next => exact .inl ⟨_,rfl⟩
    next =>
    split
    next => exact .inl ⟨_,rfl⟩
    next =>
      rcases exec_update_cases t .legalHold (clock 0) none w with ⟨_,_,w',_,_,run,written⟩ | ⟨_,error,run⟩
      · rw [exec_bind,run]
        refine .inr ⟨_,_,rfl,written.own,written.others,?_⟩
        intro t' other
        simp only [serve,TenancyWorld.holdActive,Dict.get?_set_ne _ _ other,written.holds]
      · refine .inl ⟨error,?_⟩
        rw [exec_bind,run]

/-- A release of a tenant that is there writes the status if it is accepted, and takes
the record back if it is that of the matter, in either case. -/
theorem exec_releaseLegalHold {t : TenantId} {w : TenancyWorld} {current : TenantStatus}
    (known : w.statusOf t = some current) (matter : String) (restore : TenantStatus) (clock : Nat → UtcDateTime) :
    ∃ outcome w', (releaseLegalHold t matter restore clock).exec serve w = (outcome,w') ∧
      (accepts current restore none = true ↔ ∃ tenant, outcome = .ok tenant) ∧
      w'.statusOf t = some (statusAfter current restore) ∧ w'.holdActive t = w.staysActive t matter ∧
      Elsewhere w w' t := by
  -- the status is written in a world whose record may have been taken back
  have write (w₁ : TenancyWorld) (now : UtcDateTime) (status : ∀ t', w₁.statusOf t' = w.statusOf t')
      (hold : w₁.holdActive t = w.staysActive t matter)
      (others : ∀ t', t' ≠ t → w₁.holdActive t' = w.holdActive t') :
      ∃ outcome w', (updateStatus t restore now).exec serve w₁ = (outcome,w') ∧
        (accepts current restore none = true ↔ ∃ tenant, outcome = .ok tenant) ∧
        w'.statusOf t = some (statusAfter current restore) ∧ w'.holdActive t = w.staysActive t matter ∧
        Elsewhere w w' t := by
    have there := (status t).trans known
    rcases exec_update_cases t restore now none w₁ with
      ⟨found,tenant,w',own,accepted,run,written⟩ | ⟨refused,error,run⟩
    · obtain rfl : current = found := Option.some.inj (there.symm.trans own)
      refine ⟨_,w',run,iff_of_true accepted ⟨tenant,rfl⟩,?_,?_,?_,?_⟩
      · rw [written.own,statusAfter,if_pos accepted]
      · rw [holdActive_of_holds written.holds,hold]
      · intro t' other
        rw [written.others t' other,status]
      · intro t' other
        rw [holdActive_of_holds written.holds,others t' other]
    · have closed := refused current there
      refine ⟨_,w₁,run,?_,?_,hold,fun t' _ => status t',others⟩
      · refine iff_of_false (by simp [closed]) ?_
        rintro ⟨tenant,same⟩
        cases same
      · rw [there,statusAfter,closed]
        rfl
  unfold releaseLegalHold
  rw [exec_getTenant]
  cases stored : w.tenants.get? t with
  | none => simp [TenancyWorld.statusOf,stored] at known
  | some tenant =>
    simp only [call_bind,exec_await,serve]
    cases record : w.legalHolds.get? t with
    | none =>
      apply write w (clock 0) (fun _ => rfl)
      · simp [TenancyWorld.holdActive,TenancyWorld.staysActive,record]
      · exact fun _ _ => rfl
    | some hold =>
      dsimp only
      by_cases same : hold.matterId = matter
      · rw [if_pos same]
        refine write (serve (.putLegalHold t { hold with releasedAt := some (clock 0), isActive := false }) w).2
          (clock 1) (fun _ => rfl) ?_ ?_
        · simp [TenancyWorld.holdActive,TenancyWorld.staysActive,record,same,serve]
        · intro t' other
          simp only [serve,TenancyWorld.holdActive,Dict.get?_set_ne _ _ other]
      · rw [if_neg same]
        apply write w (clock 0) (fun _ => rfl)
        · simp [TenancyWorld.holdActive,TenancyWorld.staysActive,record,same]
        · exact fun _ _ => rfl

end holds

section steps
variable {s : HoldState}

theorem isOk_discard {B : Type} {prog : TenancyProg B} {w w' : TenancyWorld} {outcome : Except PyError B}
    (run : prog.exec serve w = (outcome,w')) :
    (prog >>= fun _ => Prog.ret () : TenancyProg Unit).exec serve w = (outcome.map (fun _ => ()),w') := by
  rw [exec_bind,run]
  cases outcome <;> rfl

theorem noteMatters_plain {op : TenancyOperation} (plain : op.plain = true) (matters : List (TenantId × String))
    (outcome : Except PyError Unit) : noteMatters matters op outcome = matters := by
  cases op <;> first | rfl | cases plain

theorem holdStep_plain {op : TenancyOperation} (plain : op.plain = true) (clock : Nat → UtcDateTime) (t : TenantId) :
    (holdStep sha256 s (op,clock)).held t ↔ s.held t := by
  simp only [HoldState.held,holdStep,noteMatters_plain plain]

/-- The statuses after an operation that has no tenant. -/
theorem operation_same {op : TenancyOperation} (none : op.target = none) (clock : Nat → UtcDateTime) (w : TenancyWorld)
    (t : TenantId) : Safe ((op.prog sha256 clock).exec serve w).2 t ↔ Safe w t := by
  cases op with
  | createOrganization name orgId generated =>
    apply safe_discard
    unfold createOrganization
    split
    · exact Iff.rfl
    · exact Iff.rfl
  | _ => cases none

theorem plain_step {op : TenancyOperation} (plain : op.plain = true) (clock : Nat → UtcDateTime)
    (safe : ∀ t, s.held t → Safe s.world t) :
    (∀ t, (holdStep sha256 s (op,clock)).held t → Safe (holdStep sha256 s (op,clock)).world t) ↔ Careful s op := by
  have careful : Careful s op ↔ ∀ t, op.target = some t → s.held t → RecordKept s.world op := by
    cases op <;> first | rfl | cases plain
  rw [careful]
  simp only [holdStep_plain sha256 plain]
  cases target : op.target with
  | none =>
    refine iff_of_true ?_ (fun t same => nomatch same)
    intro t held
    exact (operation_same sha256 target clock s.world t).mpr (safe t held)
  | some t =>
    have own (held : s.held t) := safe_own sha256 op plain target clock (safe t held)
    constructor
    · rintro kept t' same held
      obtain rfl := Option.some.inj same
      exact (own held).mp (kept t held)
    · intro careful t' held
      by_cases same : t' = t
      · subst same
        exact (own held).mpr (careful t' rfl held)
      · exact (safe_apart (operation_apart sha256 op plain target clock s.world) same).mpr (safe t' held)

/-- No call removes a tenant. -/
theorem present_keeps {t : TenantId} (c : TenancyCall) (w : TenancyWorld) (present : ∃ status, w.statusOf t = some status) :
    ∃ status, (serve c w).2.statusOf t = some status := by
  have written {w' : TenancyWorld} {own : TenantId} {asked : TenantStatus} (written : Written w w' own asked) :
      ∃ status, w'.statusOf t = some status := by
    by_cases same : t = own
    · exact ⟨asked,same ▸ written.own⟩
    · rw [written.others t same]
      exact present
  cases c with
  | saveTenant tenant => exact written (written_save w tenant)
  | updateStatus t' asked reason now =>
    rcases serve_update_cases w t' asked reason now with ⟨_,_,_,_,_,moved⟩ | ⟨_,error,unchanged⟩
    · exact written moved
    · rw [unchanged]
      exact present
  | _ => exact present

theorem known_step (op : TenancyOperation) (clock : Nat → UtcDateTime) (known : Known s) :
    Known (holdStep sha256 s (op,clock)) := by
  have present {t : TenantId} (held : s.held t) :
      ∃ status, (holdStep sha256 s (op,clock)).world.statusOf t = some status :=
    exec_invariant present_keeps (op.prog sha256 clock) (known t held)
  intro t held
  cases op with
  | applyLegalHold t' matter justification actor =>
    rcases exec_applyLegalHold t' matter justification actor clock s.world with
      ⟨error,run⟩ | ⟨record,w',run,own,_⟩
    · have failed := isOk_discard run
      refine present ?_
      simpa [HoldState.held,holdStep,TenancyOperation.prog,failed,noteMatters,Except.map] using held
    · have done := isOk_discard run
      by_cases same : t = t'
      · subst same
        refine ⟨.legalHold,?_⟩
        simpa [holdStep,TenancyOperation.prog,done] using own
      · refine present ?_
        simpa [HoldState.held,holdStep,TenancyOperation.prog,done,noteMatters,Except.map,same] using held
  | releaseLegalHold t' matter restore =>
    refine present ?_
    obtain ⟨other,inside⟩ := held
    refine ⟨other,?_⟩
    simp only [holdStep,noteMatters] at inside
    split at inside
    next => contradiction
    next => exact (List.mem_filter.mp inside).1
    next => exact inside
  | _ => exact present ((holdStep_plain sha256 rfl clock t).mp held)

theorem apply_step (t : TenantId) (matter justification actor : String) (clock : Nat → UtcDateTime)
    (safe : ∀ t, s.held t → Safe s.world t) (t' : TenantId)
    (held : (holdStep sha256 s (.applyLegalHold t matter justification actor,clock)).held t') :
    Safe (holdStep sha256 s (.applyLegalHold t matter justification actor,clock)).world t' := by
  rcases exec_applyLegalHold t matter justification actor clock s.world with ⟨error,run⟩ | ⟨record,w',run,own,elsewhere⟩
  · have failed := isOk_discard run
    have before : s.held t' := by
      simpa [HoldState.held,holdStep,TenancyOperation.prog,failed,noteMatters,Except.map] using held
    simpa [holdStep,TenancyOperation.prog,failed] using safe t' before
  · have done := isOk_discard run
    have world : (holdStep sha256 s (.applyLegalHold t matter justification actor,clock)).world = w' := by
      simp [holdStep,TenancyOperation.prog,done]
    rw [world]
    by_cases same : t' = t
    · subst same
      exact ⟨underHold_iff.mpr (.inl own),by simp [own]⟩
    · have before : s.held t' := by
        simpa [HoldState.held,holdStep,TenancyOperation.prog,done,noteMatters,Except.map,same] using held
      exact (safe_elsewhere elsewhere same).mpr (safe t' before)

theorem release_missing {t : TenantId} {w : TenancyWorld} (missing : w.statusOf t = none) (matter : String)
    (restore : TenantStatus) (clock : Nat → UtcDateTime) :
    ∃ error, (releaseLegalHold t matter restore clock).exec serve w = (.error error,w) := by
  unfold releaseLegalHold
  rw [exec_getTenant]
  cases stored : w.tenants.get? t with
  | none => exact ⟨_,rfl⟩
  | some tenant => simp [TenancyWorld.statusOf,stored] at missing

theorem release_step (t : TenantId) (matter : String) (restore : TenantStatus) (clock : Nat → UtcDateTime)
    (safe : ∀ t, s.held t → Safe s.world t) :
    (∀ t', (holdStep sha256 s (.releaseLegalHold t matter restore,clock)).held t' →
      Safe (holdStep sha256 s (.releaseLegalHold t matter restore,clock)).world t') ↔
    Careful s (.releaseLegalHold t matter restore) := by
  cases there : s.world.statusOf t with
  | none =>
    obtain ⟨error,run⟩ := release_missing there matter restore clock
    have failed := isOk_discard run
    refine iff_of_true ?_ (by simp [Careful,there])
    intro t' held
    have before : s.held t' := by
      simpa [HoldState.held,holdStep,TenancyOperation.prog,failed,noteMatters,Except.map] using held
    simpa [holdStep,TenancyOperation.prog,failed] using safe t' before
  | some current =>
    obtain ⟨outcome,w',run,ok,own,hold,elsewhere⟩ := exec_releaseLegalHold there matter restore clock
    have done := isOk_discard run
    have world : (holdStep sha256 s (.releaseLegalHold t matter restore,clock)).world = w' := by
      simp [holdStep,TenancyOperation.prog,done]
    have matters (t' : TenantId) (other : String) :
        (t',other) ∈ (holdStep sha256 s (.releaseLegalHold t matter restore,clock)).matters ↔
          (t',other) ∈ s.matters ∧ (accepts current restore none = true → (t',other) ≠ (t,Text.strip matter)) := by
      rw [ok]
      cases outcome with
      | error e => simp [holdStep,TenancyOperation.prog,done,noteMatters,Except.map]
      | ok tenant =>
        simp [holdStep,TenancyOperation.prog,done,noteMatters,Except.map]
        exact fun _ => imp_iff_not_or.symm
    have after : Safe w' t ↔ statusAfter current restore ≠ .deleted ∧
        (statusAfter current restore = .legalHold ∨ s.world.staysActive t matter = true) := by
      simp only [Safe,underHold_iff,own,hold,Option.some.injEq,ne_eq]
      exact and_comm
    simp only [HoldState.held,matters,world,Careful,there,Option.some.injEq,forall_eq']
    constructor
    · rintro kept ⟨other,inside,apart⟩
      exact after.mp (kept t ⟨other,inside,fun accepted same => apart accepted (congrArg Prod.snd same)⟩)
    · rintro careful t' ⟨other,inside,apart⟩
      by_cases same : t' = t
      · subst same
        refine after.mpr (careful ⟨other,inside,?_⟩)
        intro accepted equal
        exact apart accepted (by rw [equal])
      · exact (safe_elsewhere elsewhere same).mpr (safe t' ⟨other,inside⟩)

theorem careful_step (op : TenancyOperation) (clock : Nat → UtcDateTime) (safe : ∀ t, s.held t → Safe s.world t) :
    (∀ t, (holdStep sha256 s (op,clock)).held t → Safe (holdStep sha256 s (op,clock)).world t) ↔ Careful s op := by
  cases op with
  | applyLegalHold t matter justification actor =>
    refine iff_of_true (apply_step sha256 t matter justification actor clock safe) ?_
    exact fun _ _ _ => trivial
  | releaseLegalHold t matter restore => exact release_step sha256 t matter restore clock safe
  | _ => exact plain_step sha256 rfl clock safe

end steps

/-- In every state of a run each tenant with an unreleased matter refuses every deletion
and is not deleted, exactly when every operation is careful of the one record. -/
theorem holds_respected_iff (w : TenancyWorld) (ops : List (TenancyOperation × (Nat → UtcDateTime))) :
    Always (holdStep sha256) (HoldsRespected sha256) ⟨w,[]⟩ ops ↔
      Along (holdStep sha256) (fun s op => Careful s op.1) ⟨w,[]⟩ ops := by
  have unheld (t : TenantId) : ¬ HoldState.held ⟨w,[]⟩ t := by
    rintro ⟨_,inside⟩
    cases inside
  have always := @always_iff_along _ _ (holdStep sha256) Known (fun s => ∀ t, s.held t → Safe s.world t)
    (fun _ _ => True) (fun s op => Careful s op.1)
    (fun s op known _ => known_step sha256 op.1 op.2 known)
    (fun s op _ _ safe => (careful_step sha256 op.1 op.2 safe).symm) ⟨w,[]⟩ ops
    (fun t held => absurd held (unheld t)) (fun t held => absurd held (unheld t))
    ((along_iff _ _ _ _).mpr fun _ _ _ _ => trivial)
  rw [always]
  have known := stable_run (holdStep sha256) (fun s op known => known_step sha256 op.1 op.2 known)
    (fun t held => absurd held (unheld t) : Known ⟨w,[]⟩)
  constructor
  · intro kept pre post split
    exact (respected_iff sha256 (known pre)).mp (kept pre post split)
  · intro kept pre post split
    exact (respected_iff sha256 (known pre)).mpr (kept pre post split)

/-- Releasing the second of two matters lets the deletion through while the first one
is unreleased. -/
theorem forgotten_hold_deletes :
    let final := run (holdStep id) ⟨{},[]⟩ (atEpoch (onboarding ++
      [.applyLegalHold sampleTenant "MATTER-A" "litigation" "compliance_officer",
        .applyLegalHold sampleTenant "MATTER-B" "audit" "compliance_officer",
        .releaseLegalHold sampleTenant "MATTER-B" .suspended,
        .executeCascadeDeletion sampleTenant ["alice","bob"] none false ⟨"cert"⟩]))
    final.matters = [(sampleTenant,"MATTER-A")] ∧ final.world.statusOf sampleTenant = some .deleted := by
  intro final
  constructor
  · decide +kernel
  · decide +kernel

end RevPilot.Tenancy
