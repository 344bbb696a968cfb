import RevPilot.Api.TenantScope

/-! A grant that fails. The handler signs the cached record and then waits for the
repository, so whatever the repository refuses has already been signed for the handlers
that read the cache first. -/
namespace RevPilot.Api
open Library Shared Program Approval ApprovalsRouter

/-- One handler alone, where the outside may answer each call as it likes. -/
def alone (outside : ApprovalsCall → ApprovalsOutside) (c : ApprovalsCall) (w : ApprovalsWorld) :
    c.Reply × ApprovalsWorld :=
  approvalsServer.serve (outside c) c w

section grants
variable (d : ApprovalsDeployment) (outside : ApprovalsCall → ApprovalsOutside)

/-- The record of `_get_approval_record`, looked up alone. -/
def lookup (approvalId : String) (tenant : TenantContext) (w : ApprovalsWorld) :
    Except ApiError (Option (ApprovalData × Bool)) × ApprovalsWorld :=
  (asApprovals (getApprovalRecord d.toDeployment approvalId tenant)).exec (alone outside) w

/-- The status of an approval as a handler finds it. -/
def statusSeen (approvalId : String) (tenant : TenantContext) (w : ApprovalsWorld) :
    Except ApiError (Option (Option String)) :=
  (lookup d outside approvalId tenant w).1.map fun found => found.map fun record => record.1.status

/-- Every later handler finds the approval with the same status: those that look the record
up, under any tenant and with any outside, and the one that reads the cache alone. -/
structure SeenAlike (approvalId : String) (w after : ApprovalsWorld) : Prop where
  lookups : ∀ outside tenant, statusSeen d outside approvalId tenant after = statusSeen d outside approvalId tenant w
  cached : (after.router.pendingCache.get? approvalId).map (·.status) =
    (w.router.pendingCache.get? approvalId).map (·.status)

def grantRun (req : DecisionRequest) (w : ApprovalsWorld) : Except ApiError ApprovalsAnswer × ApprovalsWorld :=
  (grantApproval d req).exec (alone outside) w

/-- Whatever it raises but the expiry, the handler leaves the status as it was. -/
def GrantAtomic (req : DecisionRequest) (w : ApprovalsWorld) : Prop :=
  ∀ error, (grantRun d outside req w).1 = .error error → error ≠ expiredError →
    SeenAlike d req.approvalId w (grantRun d outside req w).2

/-- The record passes the authority of the handler and its checks 2 to 7. -/
structure Passes (req : DecisionRequest) (record : ApprovalData) : Prop where
  authority : (requireHumanApprovalAuthority d.casing "TIER_1" req.principal).isOk = true
  own : isForeign record req.tenant = false
  pending : record.status.getD "PENDING" = "PENDING"
  unexpired : isExpired d.toDeployment record req.checkedAt = false
  checked : checkGrant d req record = .ok ()

/-- The record of the pending cache passes, so that the handler signs it there. -/
def SignsCached (req : DecisionRequest) (w : ApprovalsWorld) : Prop :=
  ∃ record, w.router.pendingCache.get? req.approvalId = some record ∧ Passes d req record

/-- The repository answers, and its row is pending and runs on. -/
def RepositoryGrants (req : DecisionRequest) (w : ApprovalsWorld) : Prop :=
  (outside (.recordApproval req.tenant req.approvalId req.principal.principalId.value req.recordedAt)).database = none ∧
    ∃ row, w.rows.get? (rowKey req.tenant req.approvalId) = some row ∧ isPending row ∧ runsOn row req.recordedAt

section lookups
variable (approvalId : String) (tenant : TenantContext) {w : ApprovalsWorld}

theorem lookup_cached {record : ApprovalData} (found : w.router.pendingCache.get? approvalId = some record) :
    lookup d outside approvalId tenant w = (.ok (some (record,true)),w) := by
  have served : alone outside (.router (.readPending approvalId)) w = (some record,w) := by
    rw [← found]
    rfl
  unfold lookup getApprovalRecord asApprovals
  simp only [Prog.call_bind,Prog.embed,Prog.exec_await,served]
  rfl

/-- The world is only read, and a record found elsewhere is a fresh one. -/
def ReadsFresh (prog : RouterProg (Option (ApprovalData × Bool))) (w : ApprovalsWorld) : Prop :=
  ((asApprovals prog).exec (alone outside) w).2 = w ∧
    ∀ record cached, ((asApprovals prog).exec (alone outside) w).1 = .ok (some (record,cached)) → cached = false

theorem readsFresh_await {c : RouterCall} {resume : c.Reply → RouterProg (Option (ApprovalData × Bool))}
    (served : (alone outside (.router c) w).2 = w) (rest : ∀ reply, ReadsFresh outside (resume reply) w) :
    ReadsFresh outside (.await c resume) w := by
  have next := rest (alone outside (.router c) w).1
  unfold ReadsFresh asApprovals at next ⊢
  simp only [Prog.embed,Prog.exec_await,served]
  exact next

theorem readsFresh_none : ReadsFresh outside (.ret none) w := by
  refine ⟨rfl,?_⟩
  rintro _ _ ⟨⟩

theorem readsFresh_some (record : ApprovalData) : ReadsFresh outside (.ret (some (record,false))) w := by
  refine ⟨rfl,?_⟩
  rintro _ _ ⟨rfl⟩
  rfl

theorem requestRecord_reads : ReadsFresh outside (requestRecord d.toDeployment approvalId tenant) w := by
  unfold requestRecord
  split
  · have served : (alone outside (.router (.getRequest tenant approvalId)) w).2 = w :=
      unlessDown_keeps (P := fun after => after = w) _ rfl rfl
    refine readsFresh_await outside served fun answer => ?_
    cases answer with
    | error raised =>
      refine ⟨rfl,?_⟩
      rintro _ _ ⟨⟩
    | ok found =>
      cases found with
      | none => exact readsFresh_none outside
      | some record => exact readsFresh_some outside record
  · exact readsFresh_none outside

theorem storedRecord_reads : ReadsFresh outside (storedRecord d.toDeployment approvalId tenant) w := by
  unfold storedRecord
  split
  · refine readsFresh_await outside rfl fun stored => ?_
    cases stored with
    | none => exact requestRecord_reads d outside approvalId tenant
    | some record => exact readsFresh_some outside record
  · exact requestRecord_reads d outside approvalId tenant

theorem lookup_uncached (missing : w.router.pendingCache.get? approvalId = none) :
    (lookup d outside approvalId tenant w).2 = w ∧
      ∀ record cached, (lookup d outside approvalId tenant w).1 = .ok (some (record,cached)) → cached = false := by
  have same : lookup d outside approvalId tenant w =
      (asApprovals (storedRecord d.toDeployment approvalId tenant)).exec (alone outside) w := by
    have served : alone outside (.router (.readPending approvalId)) w = (none,w) := by
      rw [← missing]
      rfl
    unfold lookup getApprovalRecord asApprovals
    simp only [Prog.call_bind,Prog.embed,Prog.exec_await,served]
  rw [same]
  exact storedRecord_reads d outside approvalId tenant

theorem lookup_keeps (w : ApprovalsWorld) : (lookup d outside approvalId tenant w).2 = w := by
  cases found : w.router.pendingCache.get? approvalId with
  | none => exact (lookup_uncached d outside approvalId tenant found).1
  | some record => rw [lookup_cached d outside approvalId tenant found]

end lookups

section outcomes
variable {req : DecisionRequest} {w : ApprovalsWorld}

/-- The repository's answer, in terms of its rows. -/
theorem recordApproval_granted (grants : RepositoryGrants outside req w) :
    ∃ row after, alone outside (.recordApproval req.tenant req.approvalId req.principal.principalId.value req.recordedAt)
      w = (.ok row,after) := by
  obtain ⟨up,row,found,pending,runs⟩ := grants
  simp only [alone,approvalsServer,unlessDown,up,updateRow,found,pending,runs,Bool.and_self,if_true]
  exact ⟨_,_,rfl⟩

theorem recordApproval_refused (refuses : ¬ RepositoryGrants outside req w) :
    ∃ raised, alone outside (.recordApproval req.tenant req.approvalId req.principal.principalId.value req.recordedAt)
      w = (.error raised,w) := by
  simp only [alone,approvalsServer,unlessDown]
  cases up : (outside (.recordApproval req.tenant req.approvalId req.principal.principalId.value
      req.recordedAt)).database with
  | some failure => exact ⟨failure,rfl⟩
  | none =>
    simp only [updateRow]
    cases found : w.rows.get? (rowKey req.tenant req.approvalId) with
    | none => exact ⟨_,rfl⟩
    | some row =>
      have unmatched : (isPending row && runsOn row req.recordedAt) = false := by
        rw [Bool.eq_false_iff]
        intro both
        rw [Bool.and_eq_true] at both
        exact refuses ⟨up,row,found,both⟩
      simp only [unmatched,Bool.false_eq_true,if_false]
      exact ⟨_,rfl⟩

/-- A grant that fails in the repository leaves the world as it finds it. -/
theorem recordGrant_cases (w : ApprovalsWorld) :
    (∃ answer after, (recordGrant d req).exec (alone outside) w = (.ok answer,after)) ∨
      (d.approvalRepo = true ∧ ¬ RepositoryGrants outside req w ∧
        ∃ raised, (recordGrant d req).exec (alone outside) w = (.error (.raised raised),w)) := by
  unfold recordGrant
  split
  next repo =>
    simp only [Prog.call_bind,Prog.exec_await]
    by_cases grants : RepositoryGrants outside req w
    · obtain ⟨row,after,served⟩ := recordApproval_granted outside grants
      rw [served]
      exact .inl ⟨_,_,rfl⟩
    · obtain ⟨raised,served⟩ := recordApproval_refused outside grants
      rw [served]
      exact .inr ⟨repo,grants,raised,rfl⟩
  next => exact .inl ⟨_,_,rfl⟩

theorem recordGrant_refused (repo : d.approvalRepo = true) (refuses : ¬ RepositoryGrants outside req w) :
    ∃ raised, (recordGrant d req).exec (alone outside) w = (.error (.raised raised),w) := by
  unfold recordGrant
  rw [if_pos repo]
  simp only [Prog.call_bind,Prog.exec_await]
  obtain ⟨raised,served⟩ := recordApproval_refused outside refuses
  rw [served]
  exact ⟨raised,rfl⟩

/-- The world with the signed record. -/
def signed (req : DecisionRequest) (w : ApprovalsWorld) : ApprovalsWorld :=
  { w with router := w.router.sign req.approvalId req.principal.principalId.value req.signedAt }

theorem grantRecord_passes {record : ApprovalData} (passes : Passes d req record) (cached : Bool) :
    (grantRecord d req record cached).exec (alone outside) w =
      (recordGrant d req).exec (alone outside) (if cached then signed req w else w) := by
  unfold grantRecord
  simp only [passes.own,Bool.false_eq_true,if_false,passes.pending,ne_eq,not_true_eq_false,passes.unexpired,
    passes.checked,Prog.ofExcept_ok,Prog.ret_bind]
  cases cached <;> rfl

/-- A record that does not pass leaves the world as it is, but for its expiry. -/
theorem grantRecord_fails {record : ApprovalData} (cached : Bool)
    (authority : (requireHumanApprovalAuthority d.casing "TIER_1" req.principal).isOk = true)
    (fails : ¬ Passes d req record) :
    ∃ error, ((grantRecord d req record cached).exec (alone outside) w).1 = .error error ∧
      (error = expiredError ∨ ((grantRecord d req record cached).exec (alone outside) w).2 = w) := by
  unfold grantRecord
  split
  next => exact ⟨_,rfl,.inr rfl⟩
  next own =>
    split
    next => exact ⟨_,rfl,.inr rfl⟩
    next pending =>
      split
      next =>
        refine ⟨expiredError,?_,.inl rfl⟩
        cases cached <;> rfl
      next unexpired =>
        cases checked : checkGrant d req record with
        | error refused => exact ⟨refused,rfl,.inr rfl⟩
        | ok _ =>
          have passes : Passes d req record :=
            ⟨authority,Bool.eq_false_iff.mpr own,not_not.mp pending,Bool.eq_false_iff.mpr unexpired,checked⟩
          exact absurd passes fails

theorem grantRun_refused {refused : PyError}
    (authority : requireHumanApprovalAuthority d.casing "TIER_1" req.principal = .error refused) :
    grantRun d outside req w = (.error (.raised refused),w) := by
  unfold grantRun grantApproval
  rw [authority]
  rfl

theorem grantRun_authorized {principal : PrincipalContext}
    (authority : requireHumanApprovalAuthority d.casing "TIER_1" req.principal = .ok principal) :
    grantRun d outside req w =
      match (lookup d outside req.approvalId req.tenant w).1 with
      | .ok none => (.error (approvalNotFound req.approvalId),w)
      | .ok (some (record,cached)) => (grantRecord d req record cached).exec (alone outside) w
      | .error raised => (.error raised,w) := by
  have kept := lookup_keeps d outside req.approvalId req.tenant w
  unfold grantRun grantApproval
  rw [authority]
  simp only [Prog.exec_bind]
  rcases looked : lookup d outside req.approvalId req.tenant w with ⟨result,after⟩
  rw [looked] at kept
  obtain rfl := kept
  unfold lookup at looked
  rw [looked]
  cases result with
  | error raised => rfl
  | ok found =>
    cases found with
    | none => rfl
    | some found => rfl

/-- A cached record that passes is signed before the repository is asked. -/
theorem grantRun_signs (signs : SignsCached d req w) :
    grantRun d outside req w = (recordGrant d req).exec (alone outside) (signed req w) := by
  obtain ⟨record,found,passes⟩ := signs
  cases authority : requireHumanApprovalAuthority d.casing "TIER_1" req.principal with
  | error refused =>
    have refusal := passes.authority
    rw [authority] at refusal
    cases refusal
  | ok principal =>
    rw [grantRun_authorized d outside authority,lookup_cached d outside req.approvalId req.tenant found]
    exact grantRecord_passes d outside passes true

/-- Without such a record every failure but the expiry leaves the world as it was. -/
theorem grantRun_otherwise (unsigned : ¬ SignsCached d req w) {error : ApiError}
    (failed : (grantRun d outside req w).1 = .error error) (other : error ≠ expiredError) :
    (grantRun d outside req w).2 = w := by
  cases authority : requireHumanApprovalAuthority d.casing "TIER_1" req.principal with
  | error refused => rw [grantRun_refused d outside authority]
  | ok principal =>
    have allowed : (requireHumanApprovalAuthority d.casing "TIER_1" req.principal).isOk = true := by
      rw [authority]
      rfl
    rw [grantRun_authorized d outside authority] at failed ⊢
    cases looked : (lookup d outside req.approvalId req.tenant w).1 with
    | error raised => rfl
    | ok result =>
      rcases result with _ | ⟨record,cached⟩
      · rfl
      · rw [looked] at failed
        simp only at failed ⊢
        by_cases passes : Passes d req record
        · -- a record that passes is not the cached one
          have fresh : cached = false := by
            cases found : w.router.pendingCache.get? req.approvalId with
            | none => exact (lookup_uncached d outside req.approvalId req.tenant found).2 record cached looked
            | some held =>
              rw [lookup_cached d outside req.approvalId req.tenant found] at looked
              cases looked
              exact absurd ⟨_,found,passes⟩ unsigned
          subst fresh
          rw [grantRecord_passes d outside passes false] at failed ⊢
          rcases @recordGrant_cases d outside req w with ⟨answer,after,granted⟩ | ⟨_,_,raised,refused⟩
          · simp [granted] at failed
          · simp [refused]
        · obtain ⟨raised,fails,expired | kept⟩ := grantRecord_fails d outside (w := w) cached allowed passes
          · rw [fails] at failed
            cases failed
            exact absurd expired other
          · exact kept

end outcomes

theorem seenAlike_refl (approvalId : String) (w : ApprovalsWorld) : SeenAlike d approvalId w w :=
  ⟨fun _ _ => rfl,rfl⟩

/-- The handler is atomic exactly when no cached record is signed for a repository that
then refuses it. -/
theorem grant_atomic_iff (req : DecisionRequest) (w : ApprovalsWorld) :
    GrantAtomic d outside req w ↔
      (SignsCached d req w → d.approvalRepo = true → RepositoryGrants outside req w) := by
  constructor
  · intro atomic signs repo
    by_contra refuses
    have unsigned : ¬ RepositoryGrants outside req (signed req w) := refuses
    obtain ⟨raised,failed⟩ := recordGrant_refused d outside repo unsigned
    rw [← grantRun_signs d outside signs] at failed
    have alike := atomic (.raised raised) (by rw [failed]) (by simp [expiredError])
    obtain ⟨record,found,passes⟩ := signs
    have now : (signed req w).router.pendingCache.get? req.approvalId =
        some { record with status := some "APPROVED"
                           approverPrincipalId := some req.principal.principalId.value
                           signedAt := some req.signedAt } := by
      unfold signed RouterWorld.sign
      simp only [found]
      exact Dict.get?_set_self _ _ _
    have same := alike.cached
    rw [failed] at same
    simp only [now,found,Option.map_some,Option.some.injEq] at same
    have pending := passes.pending
    rw [← same] at pending
    exact absurd pending (by decide)
  · intro condition error failed other
    by_cases signs : SignsCached d req w
    · rw [grantRun_signs d outside signs] at failed
      rcases @recordGrant_cases d outside req (signed req w) with ⟨answer,after,granted⟩ | ⟨repo,refuses,_⟩
      · simp [granted] at failed
      · exact absurd (condition signs repo) refuses
    · rw [grantRun_otherwise d outside signs failed other]
      exact seenAlike_refl d req.approvalId w

end grants

section samples

/-- The repository is there, and fails on every statement. -/
def databaseDown : ApprovalsCall → ApprovalsOutside := fun _ => ⟨obliging,some (.runtime "connection lost")⟩

def withRepository : ApprovalsDeployment := { repositoryBacked with approvalRepo := true }

def failedGrant : Except ApiError ApprovalsAnswer × ApprovalsWorld :=
  grantRun withRepository databaseDown (decisionOf acmeTenant "appr_1") onePending

/-- The grant raises, the record stays approved, and a dispatch of it reaches the gateway. -/
theorem failed_grant_dispatchable :
    ¬ GrantAtomic withRepository databaseDown (decisionOf acmeTenant "appr_1") onePending ∧
      ((handler withRepository (.dispatch (dispatchOf "appr_1" "idem-1"))).exec (alone databaseDown)
        failedGrant.2).2.router.dispatched.length = 1 := by
  constructor
  · intro atomic
    have raised : failedGrant.1 = .error (.raised (.runtime "connection lost")) := by rfl
    have alike := atomic _ raised (by simp [expiredError])
    have approved : (failedGrant.2.router.pendingCache.get? "appr_1").map (·.status) = some (some "APPROVED") := by rfl
    have pending : (onePending.router.pendingCache.get? "appr_1").map (·.status) = some (some "PENDING") := by rfl
    have same := (approved.symm.trans alike.cached).trans pending
    exact absurd same (by decide)
  · rfl

end samples
end RevPilot.Api
