import RevPilot.Library.Traces
import RevPilot.Tenancy.Service

/-! What the calls of the tenancy service do to the statuses and the holds. -/
namespace RevPilot.Tenancy
open Library Shared Program Prog

namespace TenancyWorld

def statusOf (w : TenancyWorld) (t : TenantId) : Option TenantStatus := (w.tenants.get? t).map (·.status)

/-- The tenant's hold record is there and active. -/
def holdActive (w : TenancyWorld) (t : TenantId) : Bool := (w.legalHolds.get? t).any (·.isActive)

/-- `is_under_legal_hold`, as a predicate of the world. -/
def underHold (w : TenancyWorld) (t : TenantId) : Bool :=
  w.statusOf t = some .legalHold || w.holdActive t

end TenancyWorld

/-- Whether `update_status` lets a tenant go from one status to another. -/
def accepts (current asked : TenantStatus) (reason : Option String) : Bool :=
  match asked with
  | .active => !current.isTerminal
  | .suspended =>
    !current.isTerminal && Text.strip ((reason.filter (· ≠ "")).getD "Administrative suspension") != ""
  | .legalHold => current != .deleted && current != .terminated
  | .deletionStaged => current != .legalHold
  | _ => true

theorem updateStatus_accepted {tenant : Tenant} {asked : TenantStatus} {reason : Option String}
    (accepted : accepts tenant.status asked reason = true) (now : UtcDateTime) :
    ∃ updated, tenant.updateStatus asked reason now = .ok updated := by
  unfold accepts at accepted
  cases asked with
  | active =>
    have running : tenant.status.isTerminal = false := by simpa using accepted
    simp [Tenant.updateStatus,Tenant.activate,running]
  | suspended =>
    obtain ⟨running,filled⟩ : tenant.status.isTerminal = false ∧
        Text.strip ((reason.filter (· ≠ "")).getD "Administrative suspension") ≠ "" := by
      simpa using accepted
    simp only [Tenant.updateStatus,Tenant.suspend,running,Bool.false_eq_true,if_false,if_neg filled]
    exact ⟨_,rfl⟩
  | legalHold =>
    have alive : ¬ (tenant.status = .deleted ∨ tenant.status = .terminated) := by simpa using accepted
    simp only [Tenant.updateStatus,Tenant.applyLegalHold,if_neg alive]
    exact ⟨_,rfl⟩
  | deletionStaged =>
    have free : tenant.status ≠ .legalHold := by simpa using accepted
    simp only [Tenant.updateStatus,Tenant.stageDeletion,if_neg free]
    exact ⟨_,rfl⟩
  | _ => exact ⟨_,rfl⟩

theorem updateStatus_refused {tenant : Tenant} {asked : TenantStatus} {reason : Option String}
    (refused : accepts tenant.status asked reason = false) (now : UtcDateTime) :
    ∃ error, tenant.updateStatus asked reason now = .error error := by
  unfold accepts at refused
  cases asked with
  | active =>
    have terminal : tenant.status.isTerminal = true := by simpa using refused
    simp [Tenant.updateStatus,Tenant.activate,terminal]
  | suspended =>
    simp only [Tenant.updateStatus,Tenant.suspend]
    by_cases terminal : tenant.status.isTerminal = true
    · exact ⟨_,if_pos terminal⟩
    · have blank : Text.strip ((reason.filter (· ≠ "")).getD "Administrative suspension") = "" := by
        simpa [terminal] using refused
      rw [if_neg terminal,if_pos blank]
      exact ⟨_,rfl⟩
  | legalHold =>
    have closed : tenant.status = .deleted ∨ tenant.status = .terminated := by
      by_contra other
      simp [not_or.mp other] at refused
    simp only [Tenant.updateStatus,Tenant.applyLegalHold,if_pos closed]
    exact ⟨_,rfl⟩
  | deletionStaged =>
    have held : tenant.status = .legalHold := by simpa using refused
    simp only [Tenant.updateStatus,Tenant.stageDeletion,if_pos held]
    exact ⟨_,rfl⟩
  | _ => cases refused

/-- `w'` is `w` with one tenant's status written. -/
structure Written (w w' : TenancyWorld) (t : TenantId) (asked : TenantStatus) : Prop where
  own : w'.statusOf t = some asked
  others : ∀ t', t' ≠ t → w'.statusOf t' = w.statusOf t'
  holds : w'.legalHolds = w.legalHolds
  organizations : w'.organizations = w.organizations

theorem statusOf_set (w : TenancyWorld) (t t' : TenantId) (tenant : Tenant) :
    TenancyWorld.statusOf { w with tenants := w.tenants.set t tenant } t' =
      if t' = t then some tenant.status else w.statusOf t' := by
  simp only [TenancyWorld.statusOf,Dict.get?_set]
  split <;> rfl

theorem written_save (w : TenancyWorld) (tenant : Tenant) :
    Written w (serve (.saveTenant tenant) w).2 tenant.id tenant.status := by
  refine ⟨?_,?_,rfl,rfl⟩
  · exact (statusOf_set w tenant.id tenant.id tenant).trans (if_pos rfl)
  · intro t' other
    exact (statusOf_set w tenant.id t' tenant).trans (if_neg other)

/-- A tenant whose status may be written has it written. -/
theorem serve_update_ok {w : TenancyWorld} {t : TenantId} {current asked : TenantStatus} {reason : Option String}
    (known : w.statusOf t = some current) (accepted : accepts current asked reason = true) (now : UtcDateTime) :
    ∃ tenant : Tenant, (serve (.updateStatus t asked reason now) w).1 = .ok tenant ∧
      Written w (serve (.updateStatus t asked reason now) w).2 t asked := by
  cases found : w.tenants.get? t with
  | none => simp [TenancyWorld.statusOf,found] at known
  | some tenant =>
    obtain rfl : tenant.status = current := by simpa [TenancyWorld.statusOf,found] using known
    obtain ⟨updated,ok⟩ := updateStatus_accepted accepted now
    have served : serve (.updateStatus t asked reason now) w =
        (.ok updated,{ w with tenants := w.tenants.set t updated }) := by
      simp only [serve,found,ok]
    have status := (Tenant.updateStatus_ok ok).1
    rw [served]
    refine ⟨updated,rfl,?_,?_,rfl,rfl⟩
    · rw [statusOf_set,if_pos rfl,status]
    · intro t' other
      exact (statusOf_set w t t' updated).trans (if_neg other)

/-- Any other tenant is left as it was. -/
theorem serve_update_error {w : TenancyWorld} {t : TenantId} {asked : TenantStatus} {reason : Option String}
    (refused : ∀ current, w.statusOf t = some current → accepts current asked reason = false) (now : UtcDateTime) :
    ∃ error, serve (.updateStatus t asked reason now) w = (.error error,w) := by
  cases found : w.tenants.get? t with
  | none => exact ⟨tenantNotFound t,by simp only [serve,found]⟩
  | some tenant =>
    have closed := refused tenant.status (by simp [TenancyWorld.statusOf,found])
    obtain ⟨error,failed⟩ := updateStatus_refused closed now
    exact ⟨error,by simp only [serve,found,failed]⟩

/-- A status is written, or nothing happens. -/
theorem serve_update_cases (w : TenancyWorld) (t : TenantId) (asked : TenantStatus) (reason : Option String)
    (now : UtcDateTime) :
    (∃ current tenant, w.statusOf t = some current ∧ accepts current asked reason = true ∧
      (serve (.updateStatus t asked reason now) w).1 = .ok tenant ∧
      Written w (serve (.updateStatus t asked reason now) w).2 t asked) ∨
    ((∀ current, w.statusOf t = some current → accepts current asked reason = false) ∧
      ∃ error, serve (.updateStatus t asked reason now) w = (.error error,w)) := by
  by_cases refused : ∀ current, w.statusOf t = some current → accepts current asked reason = false
  · exact .inr ⟨refused,serve_update_error refused now⟩
  · push Not at refused
    obtain ⟨current,known,accepted⟩ := refused
    have accepted : accepts current asked reason = true := by simpa using accepted
    obtain ⟨tenant,reply,written⟩ := serve_update_ok known accepted now
    exact .inl ⟨current,tenant,known,accepted,reply,written⟩

theorem holdActive_of_holds {w w' : TenancyWorld} (same : w'.legalHolds = w.legalHolds) (t : TenantId) :
    w'.holdActive t = w.holdActive t := by
  rw [TenancyWorld.holdActive,same,TenancyWorld.holdActive]

/-- Everything but the status of one tenant is as it was. -/
structure Apart (w w' : TenancyWorld) (t : TenantId) : Prop where
  others : ∀ t', t' ≠ t → w'.statusOf t' = w.statusOf t'
  holds : w'.legalHolds = w.legalHolds

theorem apart_refl (w : TenancyWorld) (t : TenantId) : Apart w w t := ⟨fun _ _ => rfl,rfl⟩

/-- Calls that touch no hold record and the status of one tenant only. -/
def Confined (t : TenantId) : TenancyCall → Prop
  | .saveTenant tenant => tenant.id = t
  | .updateStatus t' .. => t' = t
  | .putLegalHold .. => False
  | _ => True

theorem confined_keeps {w : TenancyWorld} {t : TenantId} (c : TenancyCall) (w' : TenancyWorld) (call : Confined t c)
    (apart : Apart w w' t) : Apart w (serve c w').2 t := by
  have written {asked : TenantStatus} {w'' : TenancyWorld} (written : Written w' w'' t asked) : Apart w w'' t :=
    ⟨fun t' other => (written.others t' other).trans (apart.others t' other),written.holds.trans apart.holds⟩
  cases c with
  | saveTenant tenant =>
    obtain rfl : tenant.id = t := call
    exact written (written_save w' tenant)
  | updateStatus t' asked reason now =>
    obtain rfl : t' = t := call
    rcases serve_update_cases w' t' asked reason now with ⟨_,_,_,_,_,moved⟩ | ⟨_,error,unchanged⟩
    · exact written moved
    · rw [unchanged]
      exact apart
  | putLegalHold => exact call.elim
  | _ => exact ⟨apart.others,apart.holds⟩

/-- Writes of one tenant's status with some statuses only. -/
def WritesOf (t : TenantId) (allowed : TenantStatus → Bool) : TenancyCall → Prop
  | .updateStatus t' asked _ _ => t' = t ∧ allowed asked = true
  | .putAllocated .. | .putProvisioningKey .. => True
  | _ => False

theorem writesOf_mono {t : TenantId} {allowed wider : TenantStatus → Bool}
    (grows : ∀ status, allowed status = true → wider status = true) (c : TenancyCall) (call : WritesOf t allowed c) :
    WritesOf t wider c := by
  cases c with
  | updateStatus => exact ⟨call.1,grows _ call.2⟩
  | putAllocated => trivial
  | putProvisioningKey => trivial
  | _ => exact call.elim

theorem writesOf_confined {t : TenantId} {allowed : TenantStatus → Bool} (c : TenancyCall)
    (call : WritesOf t allowed c) : Confined t c := by
  cases c with
  | updateStatus => exact call.1
  | putAllocated => trivial
  | putProvisioningKey => trivial
  | _ => exact call.elim

def HasStatus (w : TenancyWorld) (t : TenantId) (allowed : TenantStatus → Bool) : Prop :=
  ∃ status, w.statusOf t = some status ∧ allowed status = true

theorem writesOf_keeps {t : TenantId} {allowed : TenantStatus → Bool} (c : TenancyCall) (w : TenancyWorld)
    (call : WritesOf t allowed c) (known : HasStatus w t allowed) :
    HasStatus (serve c w).2 t allowed ∧ Apart w (serve c w).2 t := by
  refine ⟨?_,confined_keeps c w (writesOf_confined c call) (apart_refl w t)⟩
  cases c with
  | updateStatus t' asked reason now =>
    obtain ⟨rfl,fits⟩ := call
    rcases serve_update_cases w t' asked reason now with ⟨_,_,_,_,_,written⟩ | ⟨_,error,unchanged⟩
    · exact ⟨asked,written.own,fits⟩
    · rw [unchanged]
      exact known
  | putAllocated => exact known
  | putProvisioningKey => exact known
  | _ => exact call.elim

def provisioningStatus : TenantStatus → Bool
  | .provisioning | .activating | .provisionFailed => true
  | _ => false

def deletionStatus : TenantStatus → Bool
  | .deleting | .deletionStaged => true
  | _ => false

section programs
open TenantService TenantCascadeDeletionSaga
variable {T : TenancyWorld → TenancyWorld → Prop} {B : Type}

theorem steady_discard {prog : TenancyProg B} {w : TenancyWorld} :
    (prog >>= fun _ => Prog.ret () : TenancyProg Unit).Steady serve T w ↔ prog.Steady serve T w := by
  rw [steady_bind]
  exact and_iff_left fun _ _ _ => trivial

theorem steady_getTenant (refl : ∀ w, T w w) (t : TenantId) (next : Tenant → TenancyProg B) (w : TenancyWorld) :
    (getTenant t >>= next).Steady serve T w ↔
      ∀ tenant, w.tenants.get? t = some tenant → (next tenant).Steady serve T w := by
  simp only [getTenant,call_bind,await_bind,steady_await]
  refine (and_iff_right (refl w)).trans ?_
  simp only [serve]
  cases w.tenants.get? t with
  | none => simp
  | some tenant => simp

theorem steady_requireOrganization {w : TenancyWorld} (same : T w w) (o : OrganizationId)
    (next : Organization → TenancyProg B) :
    (requireOrganization o >>= next).Steady serve T w ↔
      ∀ org, w.organizations.get? o = some org → (next org).Steady serve T w := by
  simp only [requireOrganization,call_bind,await_bind,steady_await]
  refine (and_iff_right same).trans ?_
  simp only [serve]
  cases w.organizations.get? o with
  | none => simp
  | some org => simp

theorem steady_update (t : TenantId) (asked : TenantStatus) (now : UtcDateTime) (reason : Option String)
    (w : TenancyWorld) :
    (updateStatus t asked now reason).Steady serve T w ↔ T w (serve (.updateStatus t asked reason now) w).2 := by
  simp only [updateStatus,call_bind,steady_await]
  exact and_iff_left (steady_ofExcept _ _)

theorem exec_isUnderLegalHold (t : TenantId) (w : TenancyWorld) :
    (isUnderLegalHold t).exec serve w = (.ok (w.underHold t),w) := by
  unfold isUnderLegalHold TenancyWorld.underHold TenancyWorld.statusOf TenancyWorld.holdActive
  simp only [call_bind,exec_await,serve]
  cases w.tenants.get? t with
  | none => simp [serve]
  | some tenant =>
    by_cases held : tenant.status = .legalHold
    · simp [held]
    · simp [held,serve]

theorem steady_isUnderLegalHold (refl : ∀ w, T w w) (t : TenantId) (w : TenancyWorld) :
    (isUnderLegalHold t).Steady serve T w := by
  unfold isUnderLegalHold
  simp only [call_bind,steady_await]
  refine ⟨refl w,?_⟩
  simp only [serve]
  cases w.tenants.get? t with
  | none => exact ⟨refl w,trivial⟩
  | some tenant =>
    dsimp only
    split
    · trivial
    · exact ⟨refl w,trivial⟩

theorem exec_getTenant (t : TenantId) (next : Tenant → TenancyProg B) (w : TenancyWorld) :
    (getTenant t >>= next).exec serve w =
      match w.tenants.get? t with
      | none => (.error (tenantNotFound t),w)
      | some tenant => (next tenant).exec serve w := by
  simp only [getTenant,call_bind,await_bind,exec_await,serve]
  cases w.tenants.get? t with
  | none => rfl
  | some tenant => rfl

/-- A status is written, or the call raises and nothing happens. -/
theorem exec_update_cases (t : TenantId) (asked : TenantStatus) (now : UtcDateTime) (reason : Option String)
    (w : TenancyWorld) :
    (∃ current tenant w', w.statusOf t = some current ∧ accepts current asked reason = true ∧
      (updateStatus t asked now reason).exec serve w = (.ok tenant,w') ∧ Written w w' t asked) ∨
    ((∀ current, w.statusOf t = some current → accepts current asked reason = false) ∧
      ∃ error, (updateStatus t asked now reason).exec serve w = (.error error,w)) := by
  have run : (updateStatus t asked now reason).exec serve w =
      (Prog.ofExcept (serve (.updateStatus t asked reason now) w).1).exec serve
        (serve (.updateStatus t asked reason now) w).2 := by
    simp only [updateStatus,call_bind,exec_await]
  rcases serve_update_cases w t asked reason now with
    ⟨current,tenant,known,accepted,reply,written⟩ | ⟨refused,error,unchanged⟩
  · refine .inl ⟨current,tenant,_,known,accepted,?_,written⟩
    rw [run,reply]
    rfl
  · refine .inr ⟨refused,error,?_⟩
    rw [run,unchanged]
    rfl

theorem exec_update_ok {t : TenantId} {current asked : TenantStatus} {reason : Option String} {w : TenancyWorld}
    (known : w.statusOf t = some current) (accepted : accepts current asked reason = true) (now : UtcDateTime) :
    ∃ tenant w', (updateStatus t asked now reason).exec serve w = (.ok tenant,w') ∧ Written w w' t asked := by
  rcases exec_update_cases t asked now reason w with ⟨_,tenant,w',_,_,run,written⟩ | ⟨refused,_⟩
  · exact ⟨tenant,w',run,written⟩
  · simp [refused current known] at accepted

/-- The organization is known and the name is accepted. -/
def provisions (w : TenancyWorld) (organizationId : OrganizationId) (name : String) : Prop :=
  (w.organizations.get? organizationId).isSome = true ∧ Text.strip name ≠ ""

/-- The tenant an idempotency key is remembered for, if it is there. -/
def remembered (w : TenancyWorld) (key : Option String) : Option Tenant :=
  ((key.filter (· ≠ "")).bind w.provisioningKeys.get?).bind w.tenants.get?

theorem allocate_calls (t : TenantId) (failure : Option String) (now : UtcDateTime) (steps allocated : List String) :
    (allocate t failure now steps allocated).Calls (WritesOf t provisioningStatus) := by
  induction steps generalizing allocated with
  | nil => trivial
  | cons step steps ih =>
    unfold allocate
    split
    · exact ⟨trivial,fun _ => ⟨⟨rfl,rfl⟩,fun reply => calls_bind (calls_ofExcept reply) (fun _ => trivial)⟩⟩
    · exact ⟨trivial,fun _ => ih (allocated ++ [step])⟩

theorem allocateResources_calls (request : TenantProvisioningRequest) (failure : Option String) (t : TenantId)
    (now : UtcDateTime) : (allocateResources request failure t now).Calls (WritesOf t provisioningStatus) := by
  refine calls_bind ((calls_call _).mpr trivial) fun _ => ?_
  refine calls_bind (allocate_calls t failure now allocationSteps _) fun _ => ?_
  refine calls_bind ⟨⟨rfl,rfl⟩,fun reply => calls_ofExcept reply⟩ fun updated => ?_
  cases request.idempotencyKey.filter (· ≠ "") with
  | none => trivial
  | some key => exact ⟨trivial,fun _ => trivial⟩

/-- A new tenant is filed under the identifier it was asked for. -/
theorem newTenant_ok {id : TenantId} {o : OrganizationId} {name : String} {tier : SubscriptionTier}
    {entitlement : Entitlement} {now : UtcDateTime} {tenant : Tenant}
    (ok : newTenant id o name tier entitlement now = .ok tenant) :
    Text.strip name ≠ "" ∧ tenant.id = id ∧ tenant.status = .provisioning := by
  unfold newTenant at ok
  split at ok
  next filled =>
    cases ok
    exact ⟨filled,rfl,rfl⟩
  next => cases ok

theorem newTenant_error {id : TenantId} {o : OrganizationId} {name : String} {tier : SubscriptionTier}
    {entitlement : Entitlement} {now : UtcDateTime} {error : PyError}
    (refused : newTenant id o name tier entitlement now = .error error) : Text.strip name = "" := by
  by_contra filled
  simp [newTenant,filled] at refused

theorem purge_calls (t : TenantId) (failure : Option String) (now : UtcDateTime) (steps purged : List String) :
    (purge t failure now steps purged).Calls (WritesOf t deletionStatus) := by
  induction steps generalizing purged with
  | nil => trivial
  | cons step steps ih =>
    unfold purge
    split
    · exact ⟨⟨rfl,rfl⟩,fun reply => calls_bind (calls_ofExcept reply) (fun _ => trivial)⟩
    · exact ih (purged ++ [step])

end programs
end RevPilot.Tenancy
