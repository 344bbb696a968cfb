import RevPilot.Tenancy.Effects

/-! Tenants with a terminal status. The transitions of the aggregate to active and to
suspended refuse them, the other ways of writing a status do not. -/
namespace RevPilot.Tenancy
open Library Shared Program Prog Runs

def KeepsTerminal (w w' : TenancyWorld) : Prop :=
  ∀ t status, w.statusOf t = some status → status.isTerminal = true → w'.statusOf t = some status

theorem keepsTerminal_refl (w : TenancyWorld) : KeepsTerminal w w := fun _ _ known _ => known

instance : IsTrans TenancyWorld KeepsTerminal where
  trans _ _ _ first second t status known terminal := second t status (first t status known terminal) terminal

/-- A terminal status that `update_status` replaces by another one. -/
def overwrites (current asked : TenantStatus) : Bool :=
  current.isTerminal && asked != current && accepts current asked none

theorem accepts_terminal {current : TenantStatus} (terminal : current.isTerminal = true) (asked : TenantStatus)
    (reason : Option String) : accepts current asked reason = accepts current asked none := by
  cases asked <;> simp [accepts,terminal]

theorem keepsTerminal_written {w w' : TenancyWorld} {t : TenantId} {asked : TenantStatus}
    (written : Written w w' t asked) :
    KeepsTerminal w w' ↔ ∀ current, w.statusOf t = some current → current.isTerminal = true → asked = current := by
  constructor
  · intro keeps current known terminal
    have kept := keeps t current known terminal
    rw [written.own] at kept
    exact Option.some.inj kept
  · intro same t' status known terminal
    by_cases here : t' = t
    · subst here
      rw [written.own,same status known terminal]
    · rw [written.others t' here]
      exact known

theorem keepsTerminal_update (w : TenancyWorld) (t : TenantId) (asked : TenantStatus) (reason : Option String)
    (now : UtcDateTime) :
    KeepsTerminal w (serve (.updateStatus t asked reason now) w).2 ↔
      ∀ current, w.statusOf t = some current → overwrites current asked = false := by
  rcases serve_update_cases w t asked reason now with
    ⟨current,_,known,accepted,_,written⟩ | ⟨refused,error,unchanged⟩
  · rw [keepsTerminal_written written]
    refine forall_congr' fun other => forall_congr' fun same => ?_
    obtain rfl : current = other := Option.some.inj (known.symm.trans same)
    by_cases terminal : current.isTerminal = true
    · rw [accepts_terminal terminal] at accepted
      simp [overwrites,terminal,accepted]
    · simp [overwrites,terminal]
  · rw [unchanged]
    refine iff_of_true (keepsTerminal_refl w) ?_
    intro current known
    by_cases terminal : current.isTerminal = true
    · have closed := refused current known
      rw [accepts_terminal terminal] at closed
      simp [overwrites,closed]
    · simp [overwrites,terminal]

/-- Neither activation nor suspension replaces a terminal status. -/
theorem overwrites_guarded (current : TenantStatus) :
    overwrites current .active = false ∧ overwrites current .suspended = false := by
  cases current <;> decide

def terminalIn (w : TenancyWorld) (t : TenantId) : Prop :=
  ∃ status, w.statusOf t = some status ∧ status.isTerminal = true

theorem keepsTerminal_live {w : TenancyWorld} {t : TenantId} (live : ¬ terminalIn w t) (asked : TenantStatus)
    (reason : Option String) (now : UtcDateTime) :
    KeepsTerminal w (serve (.updateStatus t asked reason now) w).2 := by
  rw [keepsTerminal_update]
  intro current known
  have running : current.isTerminal = false := by
    by_contra terminal
    exact live ⟨current,known,by simpa using terminal⟩
  simp [overwrites,running]

def running (status : TenantStatus) : Bool := !status.isTerminal

theorem not_terminalIn {w : TenancyWorld} {t : TenantId} (known : HasStatus w t running) : ¬ terminalIn w t := by
  obtain ⟨status,own,live⟩ := known
  rintro ⟨other,same,terminal⟩
  obtain rfl : status = other := Option.some.inj (own.symm.trans same)
  simp [running,terminal] at live

/-- Writes that leave one tenant without a terminal status keep those of all tenants. -/
theorem liveCall_keeps {t : TenantId} (c : TenancyCall) (w : TenancyWorld) (call : WritesOf t running c)
    (known : HasStatus w t running) : KeepsTerminal w (serve c w).2 ∧ HasStatus (serve c w).2 t running := by
  refine ⟨?_,(writesOf_keeps c w call known).1⟩
  cases c with
  | updateStatus t' asked reason now =>
    obtain ⟨rfl,_⟩ := call
    exact keepsTerminal_live (not_terminalIn known) asked reason now
  | putAllocated => exact fun _ _ known _ => known
  | putProvisioningKey => exact fun _ _ known _ => known
  | _ => exact call.elim

theorem provisioningStatus_live (status : TenantStatus) (known : provisioningStatus status = true) :
    running status = true := by
  cases status <;> first | rfl | cases known

theorem deletionStatus_live (status : TenantStatus) (known : deletionStatus status = true) :
    running status = true := by
  cases status <;> first | rfl | cases known

section programs
open TenantService

theorem steady_updateStatus (t : TenantId) (asked : TenantStatus) (now : UtcDateTime) (reason : Option String)
    (w : TenancyWorld) :
    (updateStatus t asked now reason).Steady serve KeepsTerminal w ↔
      ∀ current, w.statusOf t = some current → overwrites current asked = false := by
  rw [steady_update,keepsTerminal_update]

/-- Provisioning keeps the terminal statuses exactly when the identifier is not that of
a terminal tenant; what follows the saving may only touch the tenant it has saved. -/
theorem steady_provisioning {B : Type} (o : OrganizationId) (id : TenantId) (name : String) (tier : SubscriptionTier)
    (entitlement : Entitlement) (now : UtcDateTime) (rest : Tenant → TenancyProg B)
    (calls : ∀ tenant, (rest tenant).Calls (WritesOf id running)) (w : TenancyWorld) :
    (do
      let _ ← requireOrganization o
      let tenant ← Prog.ofExcept (newTenant id o name tier entitlement now)
      Prog.call (TenancyCall.saveTenant tenant)
      rest tenant : TenancyProg B).Steady serve KeepsTerminal w ↔ (provisions w o name → ¬ terminalIn w id) := by
  rw [steady_requireOrganization (keepsTerminal_refl w)]
  cases made : newTenant id o name tier entitlement now with
  | error e =>
    refine iff_of_true (fun _ _ => trivial) ?_
    intro may
    exact absurd (newTenant_error made) may.2
  | ok tenant =>
    obtain ⟨filled,rfl,fresh⟩ := newTenant_ok made
    have written := written_save w tenant
    have known : provisions w o name ↔ ∃ org, w.organizations.get? o = some org := by
      simp [provisions,filled,Option.isSome_iff_exists]
    have saved : KeepsTerminal w (serve (.saveTenant tenant) w).2 ↔ ¬ terminalIn w tenant.id := by
      rw [keepsTerminal_written written,fresh]
      constructor
      · rintro same ⟨status,stored,terminal⟩
        obtain rfl := same status stored terminal
        cases terminal
      · intro live status stored terminal
        exact absurd ⟨status,stored,terminal⟩ live
    have started : HasStatus (serve (.saveTenant tenant) w).2 tenant.id running :=
      ⟨tenant.status,written.own,by rw [fresh]; rfl⟩
    have later := steady_of_calls (fun c w => liveCall_keeps (t := tenant.id) c w) (calls tenant) started
    rw [known]
    constructor
    · rintro steady ⟨org,stored⟩
      exact saved.mp (steady org stored).1
    · intro live org stored
      exact ⟨saved.mpr (live ⟨org,stored⟩),later⟩

theorem steady_provisionFresh (request : TenantProvisioningRequest) (failure : Option String) (generated : TenantId)
    (clock : Nat → UtcDateTime) (w : TenancyWorld) :
    (provisionFresh request failure generated clock).Steady serve KeepsTerminal w ↔
      (provisions w request.organizationId request.name → ¬ terminalIn w (request.tenantId.getD generated)) :=
  steady_provisioning request.organizationId _ request.name request.tier _ (clock 0) _
    (fun _ => calls_mono (writesOf_mono provisioningStatus_live) (allocateResources_calls request failure _ (clock 1))) w

theorem steady_provisionTenantIdempotent (request : TenantProvisioningRequest) (failure : Option String)
    (generated : TenantId) (clock : Nat → UtcDateTime) (w : TenancyWorld) :
    (provisionTenantIdempotent request failure generated clock).Steady serve KeepsTerminal w ↔
      (remembered w request.idempotencyKey = none → provisions w request.organizationId request.name →
        ¬ terminalIn w (request.tenantId.getD generated)) := by
  unfold provisionTenantIdempotent remembered
  cases request.idempotencyKey.filter (· ≠ "") with
  | none => simpa using steady_provisionFresh request failure generated clock w
  | some key =>
    simp only [call_bind,steady_await]
    refine (and_iff_right (keepsTerminal_refl w)).trans ?_
    simp only [serve,Option.bind_some]
    cases w.provisioningKeys.get? key with
    | none => simpa using steady_provisionFresh request failure generated clock w
    | some t =>
      simp only [steady_await]
      refine (and_iff_right (keepsTerminal_refl w)).trans ?_
      simp only [serve,Option.bind_some]
      cases w.tenants.get? t with
      | none => simpa using steady_provisionFresh request failure generated clock w
      | some existing => simp

theorem steady_activateTenantWithPreconditions (t : TenantId) (runner : Option (Except PyError ProbeResult))
    (now : UtcDateTime) (w : TenancyWorld) :
    (activateTenantWithPreconditions t runner now).Steady serve KeepsTerminal w := by
  have activation : (updateStatus t .active now).Steady serve KeepsTerminal w := by
    rw [steady_updateStatus]
    exact fun current _ => (overwrites_guarded current).1
  unfold activateTenantWithPreconditions
  rw [steady_getTenant keepsTerminal_refl]
  intro tenant _
  split
  · split
    · trivial
    · trivial
  · cases runner with
    | none => exact activation
    | some run =>
      cases run with
      | error e => trivial
      | ok result =>
        simp only [ofExcept_ok,ret_bind]
        split
        · exact activation
        · trivial

theorem steady_suspendTenant (t : TenantId) (reason : String) (now : UtcDateTime) (w : TenancyWorld) :
    (suspendTenant t reason now).Steady serve KeepsTerminal w := by
  unfold suspendTenant
  rw [steady_getTenant keepsTerminal_refl]
  intro tenant _
  split
  · trivial
  · rw [steady_updateStatus]
    exact fun current _ => (overwrites_guarded current).2

theorem steady_reactivateTenant (t : TenantId) (resolution : String) (now : UtcDateTime) (w : TenancyWorld) :
    (reactivateTenant t resolution now).Steady serve KeepsTerminal w := by
  unfold reactivateTenant
  split
  · trivial
  rw [steady_getTenant keepsTerminal_refl]
  intro tenant _
  split
  · trivial
  split
  · trivial
  · rw [steady_updateStatus]
    exact fun current _ => (overwrites_guarded current).1

theorem steady_applyLegalHold (t : TenantId) (matter justification actor : String) (clock : Nat → UtcDateTime)
    (w : TenancyWorld) :
    (applyLegalHold t matter justification actor clock).Steady serve KeepsTerminal w ↔
      (Text.strip matter ≠ "" → Text.strip justification ≠ "" → w.statusOf t ≠ some .deactivated) := by
  have hold (current : TenantStatus) : overwrites current .legalHold = false ↔ current ≠ .deactivated := by
    cases current <;> decide
  have record (tenant : Tenant) (w' : TenancyWorld) : (do
      let record : LegalHoldRecord :=
        { matterId := Text.strip matter, tenantId := t, justification := Text.strip justification
          appliedBy := actor, appliedAt := clock 1 }
      Prog.call (TenancyCall.putLegalHold t record)
      return record : TenancyProg LegalHoldRecord).Steady serve KeepsTerminal w' := ⟨fun _ _ known _ => known,trivial⟩
  unfold applyLegalHold
  rw [steady_getTenant keepsTerminal_refl]
  by_cases filled : Text.strip matter = ""
  · simp [filled]
  by_cases justified : Text.strip justification = ""
  · simp [filled,justified]
  simp only [if_neg filled,if_neg justified,steady_bind,steady_updateStatus,hold]
  constructor
  · intro steady _ _ known
    cases stored : w.tenants.get? t with
    | none => simp [TenancyWorld.statusOf,stored] at known
    | some tenant => exact (steady tenant stored).1 .deactivated known rfl
  · intro allowed tenant stored
    refine ⟨?_,fun tenant w' _ => record tenant w'⟩
    rintro _ known rfl
    exact allowed filled justified known

theorem steady_releaseLegalHold (t : TenantId) (matter : String) (restore : TenantStatus) (clock : Nat → UtcDateTime)
    (w : TenancyWorld) :
    (releaseLegalHold t matter restore clock).Steady serve KeepsTerminal w ↔
      ∀ current, w.statusOf t = some current → overwrites current restore = false := by
  unfold releaseLegalHold
  rw [steady_getTenant keepsTerminal_refl]
  cases stored : w.tenants.get? t with
  | none => simp [TenancyWorld.statusOf,stored]
  | some tenant =>
    simp only [Option.some.injEq,forall_eq',call_bind,steady_await]
    refine (and_iff_right (keepsTerminal_refl w)).trans ?_
    simp only [serve]
    cases w.legalHolds.get? t with
    | none => exact steady_updateStatus t restore (clock 0) none w
    | some record =>
      dsimp only
      split
      · refine (and_iff_right fun _ _ known _ => known).trans ?_
        exact steady_updateStatus t restore (clock 1) none _
      · exact steady_updateStatus t restore (clock 0) none w

theorem steady_deactivateTenant (t : TenantId) (now : UtcDateTime) (w : TenancyWorld) :
    (deactivateTenant t now).Steady serve KeepsTerminal w ↔
      w.statusOf t ≠ some .deleted ∧ w.statusOf t ≠ some .terminated := by
  have replaced (current : TenantStatus) :
      overwrites current .deactivated = false ↔ current ≠ .deleted ∧ current ≠ .terminated := by
    cases current <;> decide
  rw [deactivateTenant,steady_updateStatus]
  simp only [replaced]
  constructor
  · intro each
    exact ⟨fun known => (each _ known).1 rfl,fun known => (each _ known).2 rfl⟩
  · rintro ⟨notDeleted,notTerminated⟩ current known
    constructor
    · rintro rfl
      exact notDeleted known
    · rintro rfl
      exact notTerminated known

end programs

section saga
open TenantService TenantCascadeDeletionSaga

theorem steady_executeCascadeDeletion (sha256 : String → String) (t : TenantId) (approvers : List String)
    (failure : Option String) (leak : Bool) (certificateId : UUIDv7) (clock : Nat → UtcDateTime) (w : TenancyWorld) :
    (executeCascadeDeletion sha256 t approvers failure leak certificateId clock).Steady serve KeepsTerminal w ↔
      (w.underHold t = false → 2 ≤ approvers.dedup.length → ¬ terminalIn w t) := by
  unfold executeCascadeDeletion
  rw [steady_bind_ok (exec_isUnderLegalHold t w) (steady_isUnderLegalHold keepsTerminal_refl t w)]
  cases w.underHold t with
  | true => simp
  | false =>
    by_cases few : approvers.dedup.length < 2
    · simp [few]
    have deletion (current : TenantStatus) : overwrites current .deleting = false ↔ current.isTerminal = false := by
      cases current <;> decide
    simp only [Bool.false_eq_true,if_false,if_neg few,steady_getTenant keepsTerminal_refl,steady_bind,
      steady_updateStatus,deletion]
    constructor
    · rintro steady _ _ ⟨status,known,terminal⟩
      cases stored : w.tenants.get? t with
      | none => simp [TenancyWorld.statusOf,stored] at known
      | some tenant =>
        have running := (steady tenant stored).1 status known
        simp [terminal] at running
    · intro live tenant stored
      have quiet := live trivial (not_lt.mp few)
      refine ⟨?_,?_⟩
      · intro current known
        by_contra terminal
        exact quiet ⟨current,known,by simpa using terminal⟩
      · intro _ w' started
        have after : HasStatus w' t running := by
          rcases exec_update_cases t .deleting (clock 0) none w with
            ⟨_,_,_,_,_,run,written⟩ | ⟨refused,error,run⟩
          · obtain ⟨_,rfl⟩ := Prod.mk.inj (run.symm.trans started)
            exact ⟨.deleting,written.own,rfl⟩
          · cases run.symm.trans started
        have calls : (purge t failure (clock 1) deletionSteps []).Calls (WritesOf t running) :=
          calls_mono (writesOf_mono deletionStatus_live) (purge_calls t failure (clock 1) deletionSteps [])
        refine ⟨steady_of_calls liveCall_keeps calls after,?_⟩
        intro purged w'' done
        have still : ¬ terminalIn w'' t := by
          have kept := exec_of_calls (fun c w call known => (liveCall_keeps c w call known).2) calls after
          rw [done] at kept
          exact not_terminalIn kept
        split
        · trivial
        · rw [steady_bind,steady_update]
          exact ⟨keepsTerminal_live still .deleted none (clock 2),fun _ _ _ => ⟨fun _ _ known _ => known,trivial⟩⟩

end saga

/-- The operation is none of those that replace the terminal status they find. -/
def Spares (w : TenancyWorld) : TenancyOperation → Prop
  | .provisionTenant o name _ _ id generated => provisions w o name → ¬ terminalIn w (id.getD generated)
  | .provisionTenantIdempotent request _ generated =>
    remembered w request.idempotencyKey = none → provisions w request.organizationId request.name →
      ¬ terminalIn w (request.tenantId.getD generated)
  | .applyLegalHold t matter justification _ =>
    Text.strip matter ≠ "" → Text.strip justification ≠ "" → w.statusOf t ≠ some .deactivated
  | .releaseLegalHold t _ restore => ∀ current, w.statusOf t = some current → overwrites current restore = false
  | .deactivateTenant t => w.statusOf t ≠ some .deleted ∧ w.statusOf t ≠ some .terminated
  | .executeCascadeDeletion t approvers _ _ _ =>
    w.underHold t = false → 2 ≤ approvers.dedup.length → ¬ terminalIn w t
  | _ => True

theorem steady_operation (sha256 : String → String) (clock : Nat → UtcDateTime) (op : TenancyOperation)
    (w : TenancyWorld) : (op.prog sha256 clock).Steady serve KeepsTerminal w ↔ Spares w op := by
  cases op with
  | createOrganization name orgId generated =>
    refine steady_discard.trans (iff_of_true ?_ trivial)
    unfold TenantService.createOrganization
    split
    · exact ⟨fun _ _ known _ => known,trivial⟩
    · trivial
  | provisionTenant o name tier entitlement id generated =>
    exact steady_discard.trans (steady_provisioning o _ name tier _ (clock 0) Prog.ret (fun _ => trivial) w)
  | provisionTenantIdempotent request failure generated =>
    exact steady_discard.trans (steady_provisionTenantIdempotent request failure generated clock w)
  | activateTenant t =>
    refine steady_discard.trans (iff_of_true ?_ trivial)
    rw [TenantService.activateTenant,steady_updateStatus]
    exact fun current _ => (overwrites_guarded current).1
  | activateTenantWithPreconditions t runner =>
    exact steady_discard.trans
      (iff_of_true (steady_activateTenantWithPreconditions t runner (clock 0) w) trivial)
  | suspendTenant t reason =>
    exact steady_discard.trans (iff_of_true (steady_suspendTenant t reason (clock 0) w) trivial)
  | reactivateTenant t resolution =>
    exact steady_discard.trans (iff_of_true (steady_reactivateTenant t resolution (clock 0) w) trivial)
  | applyLegalHold t matter justification actor =>
    exact steady_discard.trans (steady_applyLegalHold t matter justification actor clock w)
  | releaseLegalHold t matter restore =>
    exact steady_discard.trans (steady_releaseLegalHold t matter restore clock w)
  | deactivateTenant t => exact steady_discard.trans (steady_deactivateTenant t (clock 0) w)
  | executeCascadeDeletion t approvers failure leak certificateId =>
    exact steady_discard.trans
      (steady_executeCascadeDeletion sha256 t approvers failure leak certificateId clock w)

/-- An operation with the readings of the clock during it. -/
abbrev TimedOperation := TenancyOperation × (Nat → UtcDateTime)

def TimedOperation.prog (sha256 : String → String) (op : TimedOperation) : TenancyProg Unit := op.1.prog sha256 op.2

/-- No terminal status is replaced anywhere in a run, between two calls of one operation
included, exactly when each operation spares what it finds. -/
theorem terminal_tenants_kept_iff (sha256 : String → String) (w : TenancyWorld) (ops : List TimedOperation) :
    (w :: visits serve (TimedOperation.prog sha256) w ops).Pairwise KeepsTerminal ↔
      Along (perform serve (TimedOperation.prog sha256)) (fun w op => Spares w op.1) w ops := by
  rw [pairwise_visits]
  simp only [TimedOperation.prog,steady_operation]

/-- A deactivated tenant returns to service by way of a legal hold. -/
theorem deactivated_returns :
    (run (perform serve (TimedOperation.prog id)) {}
      (atEpoch (onboarding ++ [.deactivateTenant sampleTenant]))).statusOf sampleTenant = some .deactivated ∧
    (run (perform serve (TimedOperation.prog id)) {}
      (atEpoch (onboarding ++ [.deactivateTenant sampleTenant] ++
        [.applyLegalHold sampleTenant "MATTER-1" "audit" "compliance_officer",
          .releaseLegalHold sampleTenant "MATTER-1" .suspended,
          .reactivateTenant sampleTenant "resolved"]))).statusOf sampleTenant = some .active := by
  constructor
  · decide +kernel
  · decide +kernel

end RevPilot.Tenancy
