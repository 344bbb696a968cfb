import RevPilot.Tenancy.Effects

/-! Two requests that meet. An idempotency key is looked up without the organization it
came from, and an identifier the client supplies is written over the tenant that has it. -/
namespace RevPilot.Tenancy
open Library Shared Program Prog Runs TenantService

def KeepsTenants (w w' : TenancyWorld) : Prop :=
  ∀ t tenant, w.tenants.get? t = some tenant → w'.tenants.get? t = some tenant

/-- A tenant whose resources are being allocated. -/
def Tenant.advanced (tenant : Tenant) (status : TenantStatus) (now : UtcDateTime) : Tenant :=
  { tenant with status := status, updatedAt := now }

section programs

theorem exec_advance {w : TenancyWorld} {t : TenantId} {tenant : Tenant} (stored : w.tenants.get? t = some tenant)
    {status : TenantStatus} (ordinary : status = .activating ∨ status = .provisionFailed) (now : UtcDateTime) :
    (updateStatus t status now).exec serve w =
      (.ok (tenant.advanced status now),{ w with tenants := w.tenants.set t (tenant.advanced status now) }) := by
  rcases ordinary with rfl | rfl
  · simp [updateStatus,serve,stored,Tenant.updateStatus,Tenant.advanced]
  · simp [updateStatus,serve,stored,Tenant.updateStatus,Tenant.advanced]

theorem exec_failed {w : TenancyWorld} {t : TenantId} {tenant : Tenant} (stored : w.tenants.get? t = some tenant)
    (now : UtcDateTime) (error : PyError) :
    (updateStatus t .provisionFailed now >>= fun _ => throw error : TenancyProg Unit).exec serve w =
      (.error error,{ w with tenants := w.tenants.set t (tenant.advanced .provisionFailed now) }) := by
  rw [exec_bind,exec_advance stored (.inr rfl)]
  rfl

/-- The allocation ends with its resources, or with a tenant that has failed. -/
theorem allocate_outcome (t : TenantId) (failure : Option String) (now : UtcDateTime) {tenant : Tenant}
    (steps allocated : List String) (w : TenancyWorld) (stored : w.tenants.get? t = some tenant) :
    ∃ outcome w', (allocate t failure now steps allocated).exec serve w = (outcome,w') ∧
      ((outcome = .ok () ∧ w'.tenants = w.tenants) ∨
        (∃ error, outcome = .error error) ∧ w'.tenants = w.tenants.set t (tenant.advanced .provisionFailed now)) := by
  induction steps generalizing allocated w with
  | nil => exact ⟨_,_,rfl,.inl ⟨rfl,rfl⟩⟩
  | cons step steps ih =>
    unfold allocate
    split
    next failed =>
      have stop := fun error => @exec_failed (serve (.putAllocated t []) w).2 t tenant stored now error
      exact ⟨_,_,stop _,.inr ⟨⟨_,rfl⟩,rfl⟩⟩
    next =>
      have later := ih (allocated ++ [step]) (serve (.putAllocated t (allocated ++ [step])) w).2 stored
      exact later

/-- What is left of a call once the resources are there. -/
def finishProvisioning (request : TenantProvisioningRequest) (t : TenantId) (now : UtcDateTime) :
    TenancyProg Tenant := do
  let updated ← updateStatus t .activating now
  match request.idempotencyKey.filter (· ≠ "") with
  | none => return updated
  | some key =>
    Prog.call (TenancyCall.putProvisioningKey key t)
    return updated

theorem allocateResources_exec (request : TenantProvisioningRequest) (failure : Option String) (t : TenantId)
    (now : UtcDateTime) (w : TenancyWorld) :
    (allocateResources request failure t now).exec serve w =
      (allocate t failure now allocationSteps ["relational_schema"] >>= fun _ => finishProvisioning request t now).exec
        serve (serve (.putAllocated t ["relational_schema"]) w).2 := rfl

theorem finishProvisioning_outcome (request : TenantProvisioningRequest) {t : TenantId} {tenant : Tenant}
    (now : UtcDateTime) {w : TenancyWorld} (stored : w.tenants.get? t = some tenant) :
    ∃ w', (finishProvisioning request t now).exec serve w = (.ok (tenant.advanced .activating now),w') ∧
      w'.tenants = w.tenants.set t (tenant.advanced .activating now) := by
  unfold finishProvisioning
  rw [exec_bind,exec_advance stored (.inl rfl)]
  dsimp only
  cases request.idempotencyKey.filter (· ≠ "") with
  | none => exact ⟨_,rfl,rfl⟩
  | some key => exact ⟨_,rfl,rfl⟩

/-- Once a tenant has been saved it goes on to another status, and only that tenant is
returned. -/
theorem allocateResources_outcome (request : TenantProvisioningRequest) (failure : Option String) (t : TenantId)
    (now : UtcDateTime) {tenant : Tenant} (w : TenancyWorld) (stored : w.tenants.get? t = some tenant) :
    ∃ outcome w' status, (allocateResources request failure t now).exec serve w = (outcome,w') ∧
      status ≠ .provisioning ∧ w'.tenants = w.tenants.set t (tenant.advanced status now) ∧
      ∀ result, outcome = .ok result → result = tenant.advanced status now := by
  rw [allocateResources_exec,exec_bind]
  obtain ⟨outcome,w',run,⟨rfl,same⟩ | ⟨⟨error,rfl⟩,failed⟩⟩ := allocate_outcome t failure now allocationSteps
    ["relational_schema"] (serve (.putAllocated t ["relational_schema"]) w).2 stored
  · have kept : w'.tenants.get? t = some tenant := by
      rw [same]
      exact stored
    obtain ⟨after,finished,written⟩ := finishProvisioning_outcome request now kept
    rw [run]
    refine ⟨_,_,.activating,finished,by decide,?_,?_⟩
    · rw [written,same]
      rfl
    · intro result returned
      exact (Except.ok.inj returned).symm
  · rw [run]
    refine ⟨_,_,.provisionFailed,rfl,by decide,failed,?_⟩
    intro result returned
    cases returned

theorem newTenant_organization {id : TenantId} {o : OrganizationId} {name : String} {tier : SubscriptionTier}
    {entitlement : Entitlement} {now : UtcDateTime} {tenant : Tenant}
    (ok : newTenant id o name tier entitlement now = .ok tenant) : tenant.organizationId = o := by
  unfold newTenant at ok
  split at ok
  · cases ok
    rfl
  · cases ok

/-- The writes of the allocation leave the other tenants alone. -/
theorem writesOf_others {t : TenantId} {allowed : TenantStatus → Bool} {tenants : Dict TenantId Tenant}
    (c : TenancyCall) (w : TenancyWorld) (call : WritesOf t allowed c)
    (same : ∀ t', t' ≠ t → w.tenants.get? t' = tenants.get? t') :
    ∀ t', t' ≠ t → (serve c w).2.tenants.get? t' = tenants.get? t' := by
  intro t' other
  cases c with
  | updateStatus asked status reason now =>
    obtain ⟨rfl,_⟩ := call
    simp only [serve]
    split
    · exact same t' other
    · split
      · exact same t' other
      · rw [Dict.get?_set_ne _ _ other]
        exact same t' other
  | putAllocated => exact same t' other
  | putProvisioningKey => exact same t' other
  | _ => exact call.elim

/-- The worlds of a provisioning: the one with the new tenant saved, and those after it. -/
theorem steady_saving {T : TenancyWorld → TenancyWorld → Prop} {w : TenancyWorld} (same : T w w)
    (o : OrganizationId) (id : TenantId) (name : String) (tier : SubscriptionTier) (entitlement : Entitlement)
    (now : UtcDateTime) (rest : Tenant → TenancyProg Tenant) :
    (do
      let _ ← requireOrganization o
      let tenant ← Prog.ofExcept (newTenant id o name tier entitlement now)
      Prog.call (TenancyCall.saveTenant tenant)
      rest tenant : TenancyProg Tenant).Steady serve T w ↔
      ∀ org, w.organizations.get? o = some org → ∀ tenant, newTenant id o name tier entitlement now = .ok tenant →
        T w (serve (.saveTenant tenant) w).2 ∧ (rest tenant).Steady serve T (serve (.saveTenant tenant) w).2 := by
  rw [steady_requireOrganization same]
  refine forall_congr' fun org => forall_congr' fun _ => ?_
  cases newTenant id o name tier entitlement now with
  | error e =>
    refine iff_of_true trivial ?_
    intro tenant made
    cases made
  | ok tenant =>
    constructor
    · intro steady _ made
      cases made
      exact steady
    · intro each
      exact each tenant rfl

theorem newTenant_accepted {id : TenantId} {o : OrganizationId} {name : String} (filled : Text.strip name ≠ "")
    (tier : SubscriptionTier) (entitlement : Entitlement) (now : UtcDateTime) :
    ∃ tenant, newTenant id o name tier entitlement now = .ok tenant := by
  unfold newTenant
  rw [dif_pos filled]
  exact ⟨_,rfl⟩

/-- A fresh provisioning leaves every tenant alone, at each of its calls, exactly when
nobody has the identifier. -/
theorem steady_keepsTenants (request : TenantProvisioningRequest) (failure : Option String) (generated : TenantId)
    (clock : Nat → UtcDateTime) (w : TenancyWorld) :
    (provisionFresh request failure generated clock).Steady serve (fun _ later => KeepsTenants w later) w ↔
      (provisions w request.organizationId request.name → w.tenants.get? (request.tenantId.getD generated) = none) := by
  have self : KeepsTenants w w := fun _ _ stored => stored
  refine (steady_saving (T := fun _ later => KeepsTenants w later) self request.organizationId
    (request.tenantId.getD generated) request.name request.tier _ (clock 0) _).trans ?_
  constructor
  · rintro steady ⟨known,filled⟩
    obtain ⟨org,found⟩ := Option.isSome_iff_exists.mp known
    obtain ⟨tenant,made⟩ := newTenant_accepted filled request.tier { tier := request.tier } (clock 0)
    obtain ⟨_,id,fresh⟩ := newTenant_ok made
    obtain ⟨first,later⟩ := steady org found tenant made
    rw [← id]
    have saved : (serve (.saveTenant tenant) w).2.tenants.get? tenant.id = some tenant := Dict.get?_set_self ..
    obtain ⟨outcome,w',status,ran,moved,written,_⟩ := allocateResources_outcome request failure tenant.id (clock 1)
      (serve (.saveTenant tenant) w).2 saved
    -- the tenant that was there would have to be both the saved one and its successor
    by_contra taken
    obtain ⟨existing,stored⟩ := Option.ne_none_iff_exists'.mp taken
    have one : existing = tenant := Option.some.inj ((first tenant.id existing stored).symm.trans saved)
    have kept := steady_exec (P := KeepsTenants w) later first tenant.id existing stored
    rw [← id,ran] at kept
    rw [show (outcome,w').2.tenants = _ from written,Dict.get?_set_self] at kept
    have both := congrArg Tenant.status (Option.some.inj kept)
    rw [one,fresh] at both
    exact moved both
  · intro free org found tenant made
    obtain ⟨filled,id,_⟩ := newTenant_ok made
    have unused := free ⟨Option.isSome_iff_exists.mpr ⟨org,found⟩,filled⟩
    have others : ∀ t, t ≠ request.tenantId.getD generated →
        (serve (.saveTenant tenant) w).2.tenants.get? t = w.tenants.get? t :=
      fun t other => Dict.get?_set_ne _ _ (id ▸ other)
    have keeps {w' : TenancyWorld}
        (same : ∀ t, t ≠ request.tenantId.getD generated → w'.tenants.get? t = w.tenants.get? t) :
        KeepsTenants w w' := by
      intro t existing stored
      have other : t ≠ request.tenantId.getD generated := by
        rintro rfl
        rw [unused] at stored
        cases stored
      rw [same t other]
      exact stored
    refine ⟨keeps others,?_⟩
    exact steady_of_calls
      (fun c w' call same => ⟨keeps (writesOf_others c w' call same),writesOf_others c w' call same⟩)
      (allocateResources_calls request failure _ (clock 1)) others

theorem exec_saving {w : TenancyWorld} {o : OrganizationId} {id : TenantId} {name : String} {tier : SubscriptionTier}
    {entitlement : Entitlement} {now : UtcDateTime} {rest : Tenant → TenancyProg Tenant} {result : Tenant}
    (returned : ((do
      let _ ← requireOrganization o
      let tenant ← Prog.ofExcept (newTenant id o name tier entitlement now)
      Prog.call (TenancyCall.saveTenant tenant)
      rest tenant : TenancyProg Tenant).exec serve w).1 = .ok result) :
    ∃ tenant, newTenant id o name tier entitlement now = .ok tenant ∧
      ((rest tenant).exec serve (serve (.saveTenant tenant) w).2).1 = .ok result := by
  simp only [requireOrganization,call_bind,await_bind,exec_await,serve] at returned
  cases known : w.organizations.get? o with
  | none => simp [known] at returned
  | some org =>
    simp only [known,pure_eq,ret_bind] at returned
    cases made : newTenant id o name tier entitlement now with
    | error e => simp [made] at returned
    | ok tenant =>
      rw [made] at returned
      exact ⟨tenant,rfl,returned⟩

theorem provisionFresh_organization {request : TenantProvisioningRequest} {failure : Option String}
    {generated : TenantId} {clock : Nat → UtcDateTime} {w : TenancyWorld} {result : Tenant}
    (returned : ((provisionFresh request failure generated clock).exec serve w).1 = .ok result) :
    result.organizationId = request.organizationId := by
  have saving := @exec_saving w request.organizationId (request.tenantId.getD generated) request.name request.tier
    { tier := request.tier } (clock 0) (fun _ => allocateResources request failure (request.tenantId.getD generated)
      (clock 1)) result
  obtain ⟨tenant,made,finished⟩ := saving returned
  have saved : (serve (.saveTenant tenant) w).2.tenants.get? (request.tenantId.getD generated) = some tenant := by
    rw [← (newTenant_ok made).2.1]
    exact Dict.get?_set_self ..
  obtain ⟨outcome,w',status,ran,_,_,own⟩ := allocateResources_outcome request failure
    (request.tenantId.getD generated) (clock 1) (serve (.saveTenant tenant) w).2 saved
  rw [ran] at finished
  rw [own result finished]
  exact (newTenant_organization made : tenant.organizationId = _)

end programs

/-- A call of `provision_tenant_idempotent`, with what it generates and reads. -/
structure ProvisioningCall where
  request : TenantProvisioningRequest
  simulateStepFailure : Option String := none
  generated : TenantId
  clock : Nat → UtcDateTime := fun _ => ⟨0⟩

def ProvisioningCall.prog (call : ProvisioningCall) : TenancyProg Tenant :=
  provisionTenantIdempotent call.request call.simulateStepFailure call.generated call.clock

/-- The tenant returned is of the organization that asked, and no tenant that was there
is another one at any moment of the call. -/
def Honoured (w : TenancyWorld) (call : ProvisioningCall) : Prop :=
  (∀ tenant, (call.prog.exec serve w).1 = .ok tenant → tenant.organizationId = call.request.organizationId) ∧
  call.prog.Steady serve (fun _ later => KeepsTenants w later) w

/-- A key that is remembered was used by the same organization; without one, the
identifier is free. -/
def Uncontested (w : TenancyWorld) (call : ProvisioningCall) : Prop :=
  match remembered w call.request.idempotencyKey with
  | some existing => existing.organizationId = call.request.organizationId
  | none => provisions w call.request.organizationId call.request.name →
      w.tenants.get? (call.request.tenantId.getD call.generated) = none

/-- A remembered tenant is returned as it is; otherwise the provisioning is a fresh one. -/
theorem honoured_iff_known {w : TenancyWorld} {call : ProvisioningCall} {existing : Tenant}
    (known : remembered w call.request.idempotencyKey = some existing) :
    Honoured w call ↔ existing.organizationId = call.request.organizationId := by
  have self : KeepsTenants w w := fun _ _ stored => stored
  unfold remembered at known
  unfold Honoured ProvisioningCall.prog provisionTenantIdempotent
  cases used : call.request.idempotencyKey.filter (· ≠ "") with
  | none =>
    rw [used] at known
    cases known
  | some key =>
    rw [used,Option.bind_some] at known
    obtain ⟨t,filed,stored⟩ := Option.bind_eq_some_iff.mp known
    simp only [call_bind,exec_await,steady_await,serve,filed,stored,exec_ret,steady_ret,pure_eq]
    constructor
    · intro both
      exact both.1 existing rfl
    · intro same
      refine ⟨?_,self,self,trivial⟩
      intro tenant returned
      cases returned
      exact same

theorem honoured_iff_fresh {w : TenancyWorld} {call : ProvisioningCall}
    (unknown : remembered w call.request.idempotencyKey = none) :
    Honoured w call ↔ (provisions w call.request.organizationId call.request.name →
      w.tenants.get? (call.request.tenantId.getD call.generated) = none) := by
  have self : KeepsTenants w w := fun _ _ stored => stored
  have fresh := steady_keepsTenants call.request call.simulateStepFailure call.generated call.clock w
  have own := @provisionFresh_organization call.request call.simulateStepFailure call.generated call.clock w
  unfold remembered at unknown
  unfold Honoured ProvisioningCall.prog provisionTenantIdempotent
  cases used : call.request.idempotencyKey.filter (· ≠ "") with
  | none => exact (and_iff_right fun tenant returned => own returned).trans fresh
  | some key =>
    rw [used,Option.bind_some] at unknown
    simp only [call_bind,exec_await,steady_await,serve]
    cases filed : w.provisioningKeys.get? key with
    | none => exact (and_iff_right fun tenant returned => own returned).trans ((and_iff_right self).trans fresh)
    | some t =>
      rw [filed,Option.bind_some] at unknown
      simp only [exec_await,steady_await,serve,unknown]
      exact (and_iff_right fun tenant returned => own returned).trans
        ((and_iff_right self).trans ((and_iff_right self).trans fresh))

theorem honoured_iff (w : TenancyWorld) (call : ProvisioningCall) : Honoured w call ↔ Uncontested w call := by
  unfold Uncontested
  cases known : remembered w call.request.idempotencyKey with
  | none => exact honoured_iff_fresh known
  | some existing => exact honoured_iff_known known

/-- Every call of a sequence returns a tenant of its own organization and spares the
tenants it finds exactly when none meets a key of another organization or an
identifier that is taken. -/
theorem provisioning_honoured_iff (w : TenancyWorld) (calls : List ProvisioningCall) :
    Along (perform serve ProvisioningCall.prog) Honoured w calls ↔
      Along (perform serve ProvisioningCall.prog) Uncontested w calls := by
  have same := fun w (call : ProvisioningCall) (_ : True) (_ : True) => honoured_iff w call
  exact along_congr _ (I := fun _ => True) (F := fun _ _ => True) (fun _ _ _ _ => trivial) same trivial
    ((along_iff _ _ w calls).mpr fun _ _ _ _ => trivial)

def rivalOrganization : OrganizationId := ⟨"org_rival",Eq.refl true⟩

def rivalTenant : TenantId := ⟨"tnt_rival",Eq.refl true⟩

/-- Two organizations and no tenant. -/
def twoOrganizations : TenancyWorld where
  organizations := (Dict.empty.set sampleOrganization
      { id := sampleOrganization, name := "Acme", createdAt := ⟨0⟩, nameAccepted := by decide +kernel }).set
    rivalOrganization { id := rivalOrganization, name := "Rival", createdAt := ⟨0⟩, nameAccepted := by decide +kernel }

/-- The first organization's call, then one of the other with the same key or the same
client identifier. -/
def acmeCall : ProvisioningCall where
  request := { organizationId := sampleOrganization, name := "Acme", tenantId := some sampleTenant
               idempotencyKey := some "onboarding-1" }
  generated := sampleTenant

def sameKeyCall : ProvisioningCall where
  request := { organizationId := rivalOrganization, name := "Rival", idempotencyKey := some "onboarding-1" }
  generated := rivalTenant

def sameIdentifierCall : ProvisioningCall where
  request := { organizationId := rivalOrganization, name := "Rival", tenantId := some sampleTenant }
  generated := rivalTenant

/-- The second organization is handed the first one's tenant, or takes its place. -/
theorem provisioning_collides :
    ¬ Along (perform serve ProvisioningCall.prog) Honoured twoOrganizations [acmeCall,sameKeyCall] ∧
    ¬ Along (perform serve ProvisioningCall.prog) Honoured twoOrganizations [acmeCall,sameIdentifierCall] := by
  let held := perform serve ProvisioningCall.prog twoOrganizations acmeCall
  have stored : ((held.tenants.get? sampleTenant).map fun tenant => tenant.organizationId.value) = some "org_acme" := by
    decide +kernel
  constructor
  · rintro ⟨_,⟨own,_⟩,_⟩
    have returned : ∃ tenant, (sameKeyCall.prog.exec serve held).1 = .ok tenant ∧
        tenant.organizationId = sampleOrganization := ⟨_,rfl,rfl⟩
    obtain ⟨tenant,answer,acme⟩ := returned
    have rival := own tenant answer
    rw [acme] at rival
    exact absurd (congrArg EntityId.value rival) (by decide +kernel)
  · rintro ⟨_,⟨_,kept⟩,_⟩
    have final := steady_exec (P := KeepsTenants held) kept (fun _ _ stored => stored)
    obtain ⟨tenant,found,acme⟩ := Option.map_eq_some_iff.mp stored
    have still := final sampleTenant tenant found
    have replaced : (((sameIdentifierCall.prog.exec serve held).2.tenants.get? sampleTenant).map
        fun tenant => tenant.organizationId.value) = some "org_rival" := by
      decide +kernel
    rw [still,Option.map_some,acme] at replaced
    exact absurd (Option.some.inj replaced) (by decide)

end RevPilot.Tenancy
