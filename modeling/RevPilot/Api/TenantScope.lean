import RevPilot.Api.Approvals
import RevPilot.Api.DispatchOnce

/-! What the handlers of one tenant do to the approval records of the others. The pending
cache holds the records of all tenants under their identifiers, and every handler compares
tenants in its own place: granting and dispatching before the first write, rejection never.
-/
namespace RevPilot.Api
open Library Shared Program Runs Approval ApprovalsRouter RevPilot.Action

/-- The request has nothing of its own in the cache, or holds a record that its tenant may write. -/
inductive ScopeStage : Type
  | free | held
deriving DecidableEq

def scopeAfter (tenant : TenantContext) : Option ApprovalData → ScopeStage
  | some record => if isForeign record tenant then .free else .held
  | none => .free

/-- The dispatch handler's calls: a cached status is written only while the record is held. -/
def recordScope (tenant : TenantContext) (approvalId : String) (stage : ScopeStage) :
    (c : RouterCall) → Option (c.Reply → ScopeStage)
  | .readPending found => if found = approvalId then some (scopeAfter tenant) else none
  | .setPendingStatus written _ => if stage = .held ∧ written = approvalId then some fun _ => stage else none
  | .isKillSwitchActive .. => some fun _ => stage
  | .readIntentCache _ => some fun _ => stage
  | .scanStorage _ => some fun _ => stage
  | .getRequest .. => some fun _ => stage
  | .dispatchAction .. => some fun _ => stage
  | .awaitDispatch => some fun _ => stage
  | .createIntent .. => some fun _ => stage
  | .writeIntentCache .. => some fun _ => stage

/-- The calls of all handlers: rows are written only under the tenant of the request. -/
def tenantScope (tenant : TenantContext) (approvalId : String) (stage : ScopeStage) :
    (c : ApprovalsCall) → Option (c.Reply → ScopeStage)
  | .router call => recordScope tenant approvalId stage call
  | .signPending written .. => if stage = .held ∧ written = approvalId then some fun _ => stage else none
  | .createRequest owner .. => if owner.tenantId.value = tenant.tenantId.value then some fun _ => stage else none
  | .recordApproval owner .. => if owner.tenantId.value = tenant.tenantId.value then some fun _ => stage else none
  | .recordRejection owner .. => if owner.tenantId.value = tenant.tenantId.value then some fun _ => stage else none
  | .openCache => some fun _ => stage
  | .insertPending .. => some fun _ => stage
  | .readCache => some fun _ => stage
  | .rejectPending _ => some fun _ => stage
  | .listPending .. => some fun _ => stage

section dispatch
variable (d : Deployment) (tenant : TenantContext) (approvalId : String)

/-- What was found may be written only as a held record of the tenant. -/
def MayWrite (record : ApprovalData) (cached : Bool) (stage : ScopeStage) : Prop :=
  isForeign record tenant = false → cached = true → stage = .held

def FoundRecord (found : Option (ApprovalData × Bool)) (stage : ScopeStage) : Prop :=
  ∀ record cached, found = some (record,cached) → MayWrite tenant record cached stage

theorem foundRecord_none (stage : ScopeStage) : FoundRecord tenant none stage := by
  intro record cached impossible
  cases impossible

theorem foundRecord_fresh (record : ApprovalData) (stage : ScopeStage) :
    FoundRecord tenant (some (record,false)) stage := by
  rintro _ _ ⟨rfl⟩ _ impossible
  cases impossible

theorem requestRecord_scoped (asker : TenantContext) (stage : ScopeStage) :
    Follows (recordScope tenant approvalId) (FoundRecord tenant) (requestRecord d approvalId asker) stage := by
  unfold requestRecord
  split
  · refine follows_await (fun _ => stage) rfl fun answer => ?_
    cases answer with
    | error raised => trivial
    | ok found =>
      cases found with
      | none => exact foundRecord_none tenant stage
      | some record => exact foundRecord_fresh tenant record stage
  · exact foundRecord_none tenant stage

theorem storedRecord_scoped (asker : TenantContext) (stage : ScopeStage) :
    Follows (recordScope tenant approvalId) (FoundRecord tenant) (storedRecord d approvalId asker) stage := by
  unfold storedRecord
  split
  · refine follows_await (fun _ => stage) rfl fun stored => ?_
    cases stored with
    | none => exact requestRecord_scoped d tenant approvalId asker stage
    | some record => exact foundRecord_fresh tenant record stage
  · exact requestRecord_scoped d tenant approvalId asker stage

theorem getApprovalRecord_scoped (asker : TenantContext) (stage : ScopeStage) :
    Follows (recordScope tenant approvalId) (FoundRecord tenant) (getApprovalRecord d approvalId asker) stage := by
  refine follows_await (scopeAfter tenant) (if_pos rfl) fun pending => ?_
  cases pending with
  | none => exact storedRecord_scoped d tenant approvalId asker .free
  | some record =>
    rintro _ _ ⟨rfl⟩ own _
    simp [scopeAfter,own]

/-- A handler may mark a record that is not the cached one, or is held. -/
theorem markStatus_scoped {cached : Bool} {stage : ScopeStage} (held : cached = true → stage = .held)
    (status : ApprovalState) :
    Follows (recordScope tenant approvalId) (fun _ after => after = stage) (markStatus approvalId cached status)
      stage := by
  cases cached with
  | false => rfl
  | true =>
    exact follows_await (fun _ => stage) (if_pos ⟨held rfl,rfl⟩) fun _ => rfl

end dispatch

section dispatchHandler
variable (d : Deployment) (req : DispatchRequest) {record : ApprovalData} {cached : Bool} {stage : ScopeStage}

/-- The scope of a dispatch request. -/
abbrev Scoped {A : Type} (post : A → ScopeStage → Prop) (prog : RouterProg A) (stage : ScopeStage) : Prop :=
  Follows (recordScope req.tenant req.approvalId) post prog stage

theorem verifyRecord_scoped (may : MayWrite req.tenant record cached stage) :
    Scoped req (fun _ after => after = stage ∧ (cached = true → stage = .held)) (verifyRecord d req record cached)
      stage := by
  unfold verifyRecord
  split
  · trivial
  · split
    next => trivial
    next own =>
      have held : cached = true → stage = .held := may (Bool.eq_false_iff.mpr own)
      split
      · exact follows_bind (follows_mono (fun _ _ _ => trivial) (markStatus_scoped req.tenant req.approvalId held _))
      · refine follows_bind (follows_ofExcept fun sealed _ => ?_)
        split
        · trivial
        · exact ⟨rfl,held⟩

theorem cacheResponse_scoped (ledger : ActionLedgerRecord) :
    Scoped req (fun _ _ => True) (cacheResponse req ledger) stage :=
  follows_await (fun _ => stage) rfl fun _ => trivial

theorem recordIntent_scoped (sealed : String) (ledger : ActionLedgerRecord) :
    Scoped req (fun _ _ => True) (recordIntent d req record sealed ledger) stage := by
  unfold recordIntent
  split
  · refine follows_await (fun _ => stage) rfl fun created => ?_
    cases created with
    | error raised => trivial
    | ok _ => exact cacheResponse_scoped req ledger
  · exact cacheResponse_scoped req ledger

theorem refuseProvider_scoped (held : cached = true → stage = .held) (message : String) :
    Scoped req (fun _ _ => True) (refuseProvider req cached message) stage :=
  follows_bind (follows_mono (fun _ _ _ => trivial) (markStatus_scoped req.tenant req.approvalId held _))

theorem concludeDispatch_scoped (held : cached = true → stage = .held) (sealed : String)
    (answer : Except String (Except DomainError ActionLedgerRecord)) :
    Scoped req (fun _ _ => True) (concludeDispatch d req record cached sealed answer) stage := by
  unfold concludeDispatch
  split
  next => exact refuseProvider_scoped req held _
  next => exact refuseProvider_scoped req held _
  next ledger =>
    split
    · exact refuseProvider_scoped req held _
    · split
      · apply follows_bind
        apply follows_mono _ (markStatus_scoped req.tenant req.approvalId held _)
        rintro _ _ rfl
        exact recordIntent_scoped d req sealed ledger
      · exact recordIntent_scoped d req sealed ledger

theorem dispatchRecord_scoped (held : cached = true → stage = .held) (sealed : String) :
    Scoped req (fun _ _ => True) (dispatchRecord d req record cached sealed) stage := by
  unfold dispatchRecord
  cases d.gatewayError with
  | some raised => trivial
  | none =>
    cases capabilityRequest d req record sealed with
    | error refused => trivial
    | ok request =>
      refine follows_await (fun _ => stage) rfl fun _ => ?_
      exact follows_await (fun _ => stage) rfl fun answer =>
        concludeDispatch_scoped d req held sealed answer

theorem dispatchFresh_scoped : Scoped req (fun _ _ => True) (dispatchFresh d req) stage := by
  refine follows_bind (follows_mono ?_ (getApprovalRecord_scoped d req.tenant req.approvalId req.tenant stage))
  rintro (_ | ⟨record,cached⟩) stage found
  · trivial
  · refine follows_bind (follows_mono ?_ (verifyRecord_scoped d req (found record cached rfl)))
    rintro sealed _ ⟨rfl,held⟩
    refine follows_bind (follows_mono ?_ (markStatus_scoped req.tenant req.approvalId held _))
    rintro _ _ rfl
    exact dispatchRecord_scoped d req held sealed

theorem killSwitchEngaged_scoped (tenant : TenantContext) :
    Scoped req (fun _ after => after = stage) (killSwitchEngaged d tenant) stage := by
  unfold killSwitchEngaged
  split
  · refine follows_await (fun _ => stage) rfl fun platform => ?_
    cases platform with
    | error raised => trivial
    | ok engaged =>
      cases engaged with
      | true => rfl
      | false =>
        refine follows_await (fun _ => stage) rfl fun own => ?_
        cases own with
        | error raised => trivial
        | ok engaged => rfl
  · rfl

theorem dispatchAction_scoped : Scoped req (fun _ _ => True) (dispatchAction d req) stage := by
  unfold dispatchAction
  split
  · trivial
  · refine follows_bind (follows_mono ?_ (killSwitchEngaged_scoped d req req.tenant))
    rintro engaged after _
    cases engaged with
    | true => trivial
    | false =>
      refine follows_await (fun _ => after) rfl fun entry => ?_
      cases entry with
      | none => exact dispatchFresh_scoped d req
      | some entry =>
        change Scoped req _ (if entry.approvalId ≠ req.approvalId then
          .raise (conflict "Action intent idempotency conflict") else .ret entry.response) after
        split <;> trivial

end dispatchHandler

/-- The identifier that a request gives or asks for. -/
def ApprovalsRequest.approvalId : ApprovalsRequest → String
  | .create req => req.approvalId
  | .list req => req.seedId
  | .approve req => req.approvalId
  | .reject req => req.approvalId
  | .dispatch req => req.approvalId

section handlers
variable (d : ApprovalsDeployment) {tenant : TenantContext} {approvalId : String} {stage : ScopeStage}

abbrev WithinScope {A : Type} (tenant : TenantContext) (approvalId : String) (prog : ApprovalsProg A)
    (stage : ScopeStage) : Prop :=
  Follows (tenantScope tenant approvalId) (fun _ _ => True) prog stage

theorem asApprovals_scoped {A : Type} {post : A → ScopeStage → Prop} {prog : RouterProg A}
    (follows : Follows (recordScope tenant approvalId) post prog stage) :
    Follows (tenantScope tenant approvalId) post (asApprovals prog) stage :=
  follows_embed ApprovalsCall.router (fun _ reply => reply) (fun _ _ _ allowed => allowed) follows

theorem createApprovalRequest_scoped (req : CreateRequest) :
    WithinScope req.tenant approvalId (createApprovalRequest d req) stage := by
  unfold createApprovalRequest
  split
  · trivial
  · refine follows_await (fun _ => stage) rfl fun _ => follows_await (fun _ => stage) rfl fun _ => ?_
    dsimp only
    split
    · refine follows_await (fun _ => stage) (if_pos rfl) fun created => ?_
      cases created <;> trivial
    · trivial

theorem listOwn_scoped : WithinScope tenant approvalId (listOwn tenant) stage :=
  follows_await (fun _ => stage) rfl fun _ => trivial

theorem listPendingApprovals_scoped (req : ListRequest) :
    WithinScope req.tenant approvalId (listPendingApprovals d req) stage := by
  unfold listPendingApprovals
  split
  · refine follows_await (fun _ => stage) rfl fun listed => ?_
    cases listed <;> trivial
  · refine follows_await (fun _ => stage) rfl fun made => ?_
    dsimp only [Prog.bind]
    split
    · exact follows_await (fun _ => stage) rfl fun _ => listOwn_scoped
    · exact listOwn_scoped

theorem recordGrant_scoped (req : DecisionRequest) : WithinScope req.tenant approvalId (recordGrant d req) stage := by
  unfold recordGrant
  split
  · refine follows_await (fun _ => stage) (if_pos rfl) fun recorded => ?_
    cases recorded <;> trivial
  · trivial

theorem grantRecord_scoped (req : DecisionRequest) {record : ApprovalData} {cached : Bool}
    (may : MayWrite req.tenant record cached stage) :
    WithinScope req.tenant req.approvalId (grantRecord d req record cached) stage := by
  unfold grantRecord
  split
  next => trivial
  next own =>
    have held : cached = true → stage = .held := may (Bool.eq_false_iff.mpr own)
    split
    · trivial
    · split
      · refine follows_bind ?_
        unfold expirePending
        split
        next written => exact follows_await (fun _ => stage) (if_pos ⟨held written,rfl⟩) fun _ => trivial
        next => trivial
      · refine follows_bind (follows_ofExcept fun _ _ => follows_bind ?_)
        unfold signRecord
        split
        next written =>
          exact follows_await (fun _ => stage) (if_pos ⟨held written,rfl⟩) fun _ => recordGrant_scoped d req
        next => exact recordGrant_scoped d req

theorem grantApproval_scoped (req : DecisionRequest) :
    WithinScope req.tenant req.approvalId (grantApproval d req) stage := by
  unfold grantApproval
  split
  · trivial
  · have looks := getApprovalRecord_scoped d.toDeployment req.tenant req.approvalId req.tenant stage
    refine follows_bind (follows_mono ?_ (asApprovals_scoped looks))
    rintro (_ | ⟨record,cached⟩) after found
    · trivial
    · exact grantRecord_scoped d req (found record cached rfl)

theorem recordReject_scoped (req : DecisionRequest) (reason : String) :
    WithinScope req.tenant approvalId (recordReject d req reason) stage := by
  unfold recordReject
  split
  · refine follows_await (fun _ => stage) (if_pos rfl) fun recorded => ?_
    cases recorded <;> trivial
  · trivial

theorem rejectApproval_scoped (req : DecisionRequest) :
    WithinScope req.tenant req.approvalId (rejectApproval d req) stage := by
  unfold rejectApproval
  split
  · trivial
  · refine follows_await (scopeAfter req.tenant) (if_pos rfl) fun (found : Option ApprovalData) => ?_
    dsimp only [bind,Prog.bind]
    split
    · trivial
    · split
      · exact follows_await (fun _ => scopeAfter req.tenant found) rfl fun _ => recordReject_scoped d req _
      · exact recordReject_scoped d req _

/-- Every handler keeps to the scope of its request. -/
theorem handler_scoped (request : ApprovalsRequest) :
    WithinScope request.tenant request.approvalId (handler d request) .free := by
  cases request with
  | create req => exact createApprovalRequest_scoped d req
  | list req => exact listPendingApprovals_scoped d req
  | approve req => exact grantApproval_scoped d req
  | reject req => exact rejectApproval_scoped d req
  | dispatch req =>
    have dispatches : WithinScope req.tenant req.approvalId (asApprovals (dispatchAction d.toDeployment req)) .free :=
      asApprovals_scoped (dispatchAction_scoped d.toDeployment req)
    exact follows_bind (follows_mono (fun _ _ _ => trivial) dispatches)

end handlers

/-- The identifier under which a call writes to the cache. -/
def cacheKey : ApprovalsCall → Option String
  | .router (.setPendingStatus approvalId _) => some approvalId
  | .insertPending approvalId _ => some approvalId
  | .signPending approvalId .. => some approvalId
  | .rejectPending approvalId => some approvalId
  | _ => none

/-- The tenant whose rows a call writes. -/
def rowOwner : ApprovalsCall → Option TenantContext
  | .createRequest tenant .. => some tenant
  | .recordApproval tenant .. => some tenant
  | .recordRejection tenant .. => some tenant
  | _ => none

section frames

theorem setStatus_elsewhere (w : RouterWorld) {approvalId other : String} (status : String) (apart : other ≠ approvalId) :
    (w.setStatus approvalId status).pendingCache.get? other = w.pendingCache.get? other := by
  unfold RouterWorld.setStatus
  split
  · exact Dict.get?_set_ne _ _ apart
  · rfl

theorem sign_elsewhere (w : RouterWorld) {approvalId other : String} (approver signedAt : String)
    (apart : other ≠ approvalId) :
    (w.sign approvalId approver signedAt).pendingCache.get? other = w.pendingCache.get? other := by
  unfold RouterWorld.sign
  split
  · exact Dict.get?_set_ne _ _ apart
  · rfl

theorem updateRow_router (w : ApprovalsWorld) (key : RowKey) (matching : ApprovalData → Bool)
    (change : ApprovalData → ApprovalData) (status message : String) (now : UtcDateTime) :
    (updateRow w key matching change status message now).2.router = w.router := by
  unfold updateRow
  split
  · rfl
  · split <;> rfl

theorem updateRow_elsewhere (w : ApprovalsWorld) {key other : RowKey} (matching : ApprovalData → Bool)
    (change : ApprovalData → ApprovalData) (status message : String) (now : UtcDateTime) (apart : other ≠ key) :
    (updateRow w key matching change status message now).2.rows.get? other = w.rows.get? other := by
  unfold updateRow
  split
  · rfl
  · split
    · exact Dict.get?_set_ne _ _ apart
    · rfl

/-- What a statement keeps it also keeps when the database fails. -/
theorem unlessDown_keeps {A : Type} {P : ApprovalsWorld → Prop} (o : ApprovalsOutside) {w : ApprovalsWorld}
    {statement : Except PyError A × ApprovalsWorld} (before : P w) (after : P statement.2) :
    P (unlessDown o w statement).2 := by
  unfold unlessDown
  split
  · exact before
  · exact after

variable (o : ApprovalsOutside)

theorem unlessDown_router {A : Type} {w : ApprovalsWorld} {statement : Except PyError A × ApprovalsWorld}
    (same : statement.2.router = w.router) : (unlessDown o w statement).2.router = w.router :=
  unlessDown_keeps (P := fun after => after.router = w.router) o rfl same

/-- A call that names no cached record leaves the cache as it is. -/
theorem cache_untouched (c : ApprovalsCall) (w : ApprovalsWorld) (reads : cacheKey c = none) :
    (approvalsServer.serve o c w).2.router.pendingCache = w.router.pendingCache := by
  cases c with
  | router call =>
    cases call with
    | setPendingStatus approvalId status => cases reads
    | getRequest tenant approvalId =>
      refine congrArg (·.pendingCache) (unlessDown_router o ?_)
      rfl
    | isKillSwitchActive | readIntentCache | readPending | scanStorage => rfl
    | dispatchAction | awaitDispatch | createIntent | writeIntentCache => rfl
  | openCache => rfl
  | readCache => rfl
  | insertPending approvalId record => cases reads
  | signPending approvalId approver signedAt => cases reads
  | rejectPending approvalId => cases reads
  | createRequest tenant approvalId record =>
    refine congrArg (·.pendingCache) (unlessDown_router o ?_)
    cases w.rows.get? (rowKey tenant approvalId) <;> rfl
  | listPending tenant now =>
    refine congrArg (·.pendingCache) (unlessDown_router o ?_)
    rfl
  | recordApproval tenant approvalId approver now =>
    exact congrArg (·.pendingCache) (unlessDown_router o (updateRow_router ..))
  | recordRejection tenant approvalId approver reason now =>
    exact congrArg (·.pendingCache) (unlessDown_router o (updateRow_router ..))

/-- A call changes no cached record but the one it names. -/
theorem cache_elsewhere (c : ApprovalsCall) (w : ApprovalsWorld) {other : String} (apart : cacheKey c ≠ some other) :
    (approvalsServer.serve o c w).2.router.pendingCache.get? other = w.router.pendingCache.get? other := by
  have key {approvalId : String} (written : some approvalId ≠ some other) : other ≠ approvalId :=
    fun same => written (congrArg some same.symm)
  cases named : cacheKey c with
  | none => rw [cache_untouched o c w named]
  | some approvalId =>
    rw [named] at apart
    cases c with
    | router call =>
      cases call <;> cases named
      exact setStatus_elsewhere w.router _ (key apart)
    | insertPending approvalId record =>
      cases named
      exact Dict.get?_set_ne _ _ (key apart)
    | signPending approvalId approver signedAt =>
      cases named
      exact sign_elsewhere w.router approver signedAt (key apart)
    | rejectPending approvalId =>
      cases named
      exact setStatus_elsewhere w.router "REJECTED" (key apart)
    | openCache | readCache | createRequest | listPending | recordApproval | recordRejection => cases named

/-- A call changes no row but those of the tenant it names. -/
theorem rows_elsewhere (c : ApprovalsCall) (w : ApprovalsWorld) {key : RowKey}
    (apart : ∀ tenant, rowOwner c = some tenant → key.1 ≠ tenant.tenantId.value) :
    (approvalsServer.serve o c w).2.rows.get? key = w.rows.get? key := by
  have foreign {tenant : TenantContext} (approvalId : String) (named : rowOwner c = some tenant) :
      key ≠ rowKey tenant approvalId := fun same => apart tenant named (congrArg Prod.fst same)
  let kept (after : ApprovalsWorld) : Prop := after.rows.get? key = w.rows.get? key
  cases c with
  | router call =>
    cases call with
    | getRequest tenant approvalId => exact unlessDown_keeps (P := kept) o rfl rfl
    | isKillSwitchActive | readIntentCache | readPending | scanStorage | setPendingStatus => rfl
    | dispatchAction | awaitDispatch | createIntent | writeIntentCache => rfl
  | openCache | readCache | insertPending | signPending | rejectPending => rfl
  | listPending tenant now => exact unlessDown_keeps (P := kept) o rfl rfl
  | createRequest tenant approvalId record =>
    refine unlessDown_keeps (P := kept) o rfl ?_
    cases w.rows.get? (rowKey tenant approvalId) with
    | some row => rfl
    | none => exact Dict.get?_set_ne _ _ (foreign approvalId rfl)
  | recordApproval tenant approvalId approver now =>
    exact unlessDown_keeps (P := kept) o rfl (updateRow_elsewhere _ _ _ _ _ _ (foreign approvalId rfl))
  | recordRejection tenant approvalId approver reason now =>
    exact unlessDown_keeps (P := kept) o rfl (updateRow_elsewhere _ _ _ _ _ _ (foreign approvalId rfl))

/-- The owner of every cached record is kept. -/
def OwnersKept (w after : ApprovalsWorld) : Prop :=
  ∀ approvalId record, w.router.pendingCache.get? approvalId = some record →
    ∃ same, after.router.pendingCache.get? approvalId = some same ∧ same.tenantId = record.tenantId

/-- A call that writes to the cache finds no record under a new identifier, and no record
of another tenant where it rejects. -/
def WritesOwn (tenant : TenantContext) : ApprovalsCall → ApprovalsWorld → Prop
  | .insertPending approvalId _, w => w.router.pendingCache.get? approvalId = none
  | .rejectPending approvalId, w =>
    ∀ record, w.router.pendingCache.get? approvalId = some record → isForeign record tenant = false
  | _, _ => True

theorem setStatus_owner (w : RouterWorld) (approvalId status : String) {record : ApprovalData}
    (found : w.pendingCache.get? approvalId = some record) :
    ∃ same, (w.setStatus approvalId status).pendingCache.get? approvalId = some same ∧ same.tenantId = record.tenantId := by
  unfold RouterWorld.setStatus
  rw [found]
  exact ⟨_,Dict.get?_set_self _ _ _,rfl⟩

theorem sign_owner (w : RouterWorld) (approvalId approver signedAt : String) {record : ApprovalData}
    (found : w.pendingCache.get? approvalId = some record) :
    ∃ same, (w.sign approvalId approver signedAt).pendingCache.get? approvalId = some same ∧
      same.tenantId = record.tenantId := by
  unfold RouterWorld.sign
  rw [found]
  exact ⟨_,Dict.get?_set_self _ _ _,rfl⟩

theorem call_ownersKept {tenant : TenantContext} (c : ApprovalsCall) (w : ApprovalsWorld) (own : WritesOwn tenant c w) :
    OwnersKept w (approvalsServer.serve o c w).2 := by
  intro approvalId record found
  by_cases named : cacheKey c = some approvalId
  · cases c with
    | router call =>
      cases call <;> cases named
      exact setStatus_owner w.router _ _ found
    | insertPending written new =>
      cases named
      cases own.symm.trans found
    | signPending written approver signedAt =>
      cases named
      exact sign_owner w.router _ approver signedAt found
    | rejectPending written =>
      cases named
      exact setStatus_owner w.router _ "REJECTED" found
    | openCache | readCache | createRequest | listPending | recordApproval | recordRejection => cases named
  · exact ⟨record,(cache_elsewhere o c w named).trans found,rfl⟩

end frames

/-- A change of the world that leaves the records of all other tenants as they are. -/
structure Spares (tenant : TenantContext) (w after : ApprovalsWorld) : Prop where
  cached : ∀ approvalId record, w.router.pendingCache.get? approvalId = some record → isForeign record tenant →
    after.router.pendingCache.get? approvalId = some record
  rows : ∀ key : RowKey, key.1 ≠ tenant.tenantId.value → after.rows.get? key = w.rows.get? key

theorem spares_refl (tenant : TenantContext) (w : ApprovalsWorld) : Spares tenant w w :=
  ⟨fun _ _ found _ => found,fun _ _ => rfl⟩

theorem spares_trans {tenant : TenantContext} {u v w : ApprovalsWorld} (first : Spares tenant u v)
    (second : Spares tenant v w) : Spares tenant u w where
  cached := by
    intro approvalId record found foreign
    exact second.cached approvalId record (first.cached approvalId record found foreign) foreign
  rows := by
    intro key apart
    exact (second.rows key apart).trans (first.rows key apart)

theorem isForeign_congr {record same : ApprovalData} (owner : same.tenantId = record.tenantId)
    (tenant : TenantContext) : isForeign same tenant = isForeign record tenant := by
  unfold isForeign
  rw [owner]

/-- What a request may rely on: the record it holds is in the cache and its own. -/
def Holding (tenant : TenantContext) (approvalId : String) : ScopeStage → ApprovalsWorld → Prop
  | .free, _ => True
  | .held, w => ∃ record, w.router.pendingCache.get? approvalId = some record ∧ isForeign record tenant = false

theorem holding_kept {tenant : TenantContext} {approvalId : String} {w after : ApprovalsWorld}
    (kept : OwnersKept w after) {stage : ScopeStage} (holding : Holding tenant approvalId stage w) :
    Holding tenant approvalId stage after := by
  cases stage with
  | free => trivial
  | held =>
    obtain ⟨record,found,own⟩ := holding
    obtain ⟨same,still,owner⟩ := kept approvalId record found
    exact ⟨same,still,(isForeign_congr owner tenant).trans own⟩

theorem holding_read (tenant : TenantContext) (approvalId : String) (w : ApprovalsWorld) :
    Holding tenant approvalId (scopeAfter tenant (w.router.pendingCache.get? approvalId)) w := by
  cases found : w.router.pendingCache.get? approvalId with
  | none => trivial
  | some record =>
    simp only [scopeAfter]
    split
    next => trivial
    next own => exact ⟨record,found,Bool.eq_false_iff.mpr own⟩

section steps
variable {tenant : TenantContext} {approvalId : String} {stage : ScopeStage} {c : ApprovalsCall}
  {after : c.Reply → ScopeStage} {w : ApprovalsWorld}

/-- Whatever a guarded call writes in the cache is not another tenant's. -/
theorem writes_own (allowed : tenantScope tenant approvalId stage c = some after) (own : WritesOwn tenant c w)
    (holding : Holding tenant approvalId stage w) {written : String} {record : ApprovalData}
    (named : cacheKey c = some written) (found : w.router.pendingCache.get? written = some record) :
    isForeign record tenant = false := by
  have held (at_held : stage = .held ∧ written = approvalId) : isForeign record tenant = false := by
    obtain ⟨rfl,rfl⟩ := at_held
    obtain ⟨present,there,mine⟩ := holding
    rwa [Option.some.inj (found.symm.trans there)]
  cases c with
  | router call =>
    cases call <;> cases named
    simp only [tenantScope,recordScope] at allowed
    split at allowed
    next at_held => exact held at_held
    next => cases allowed
  | insertPending key new =>
    cases named
    cases own.symm.trans found
  | signPending key approver signedAt =>
    cases named
    simp only [tenantScope] at allowed
    split at allowed
    next at_held => exact held at_held
    next => cases allowed
  | rejectPending key =>
    cases named
    exact own record found
  | openCache | readCache | createRequest | listPending | recordApproval | recordRejection => cases named

theorem rows_own (allowed : tenantScope tenant approvalId stage c = some after) {owner : TenantContext}
    (named : rowOwner c = some owner) : owner.tenantId.value = tenant.tenantId.value := by
  cases c with
  | createRequest | recordApproval | recordRejection =>
    cases named
    simp only [tenantScope] at allowed
    split at allowed
    next own => exact own
    next => cases allowed
  | router | openCache | readCache | insertPending | signPending | rejectPending | listPending => cases named

/-- One call of a request within its scope. -/
theorem call_within (o : ApprovalsOutside) (allowed : tenantScope tenant approvalId stage c = some after)
    (own : WritesOwn tenant c w) (holding : Holding tenant approvalId stage w) :
    Spares tenant w (approvalsServer.serve o c w).2 ∧
      Holding tenant approvalId (after (approvalsServer.serve o c w).1) (approvalsServer.serve o c w).2 := by
  have kept := call_ownersKept o c w own
  refine ⟨⟨?_,?_⟩,?_⟩
  · intro other record found foreign
    have apart : cacheKey c ≠ some other := by
      intro named
      rw [writes_own allowed own holding named found] at foreign
      cases foreign
    exact (cache_elsewhere o c w apart).trans found
  · intro key apart
    apply rows_elsewhere
    intro owner named
    rw [rows_own allowed named]
    exact apart
  · have same {stay : c.Reply → ScopeStage} (stays : stay = fun _ => stage) :
        Holding tenant approvalId (stay (approvalsServer.serve o c w).1) (approvalsServer.serve o c w).2 := by
      rw [stays]
      exact holding_kept kept holding
    cases c with
    | router call =>
      cases call with
      | readPending found =>
        simp only [tenantScope,recordScope] at allowed
        split at allowed
        next read =>
          cases allowed
          subst read
          exact holding_read tenant found w
        next => cases allowed
      | setPendingStatus written status =>
        simp only [tenantScope,recordScope] at allowed
        split at allowed
        next => exact same (Option.some.inj allowed).symm
        next => cases allowed
      | isKillSwitchActive | readIntentCache | scanStorage | getRequest => exact same (Option.some.inj allowed).symm
      | dispatchAction | awaitDispatch | createIntent | writeIntentCache => exact same (Option.some.inj allowed).symm
    | signPending | createRequest | recordApproval | recordRejection =>
      simp only [tenantScope] at allowed
      split at allowed
      next => exact same (Option.some.inj allowed).symm
      next => cases allowed
    | openCache | insertPending | readCache | rejectPending | listPending => exact same (Option.some.inj allowed).symm

end steps


abbrev ApprovalsPool := Pool ApprovalsWorld ApprovalsCall ApprovalsCall.Reply ApiError ApprovalsAnswer

section runs
variable (requests : List ApprovalsRequest)

def scopeOf (i : Nat) : Protocol ScopeStage ApprovalsCall ApprovalsCall.Reply := fun stage c =>
  match requests[i]? with
  | some request => tenantScope request.tenant request.approvalId stage c
  | none => none

/-- The rejected record is not another tenant's, and a new identifier is new. -/
def RejectsOwn (i : Nat) (_ : ApprovalsOutside) (c : ApprovalsCall) (w : ApprovalsWorld) : Prop :=
  ∀ request, requests[i]? = some request → WritesOwn request.tenant c w

/-- The handler of the request leaves the records of all other tenants as they are. -/
def SparesOthers (i : Nat) (w after : ApprovalsWorld) : Prop :=
  ∀ request, requests[i]? = some request → Spares request.tenant w after

def HoldingOf (i : Nat) (stage : ScopeStage) (w : ApprovalsWorld) : Prop :=
  ∀ request, requests[i]? = some request → Holding request.tenant request.approvalId stage w

/-- All requests before their first turn. -/
def received (d : ApprovalsDeployment) (start : ApprovalsWorld) : ApprovalsPool := ⟨start,requests.map (handler d)⟩

theorem received_stand (d : ApprovalsDeployment) (start : ApprovalsWorld) :
    Owned (Stands (scopeOf requests) (HoldingOf requests)) (received requests d start) := by
  intro i prog at_i
  change (requests.map (handler d))[i]? = some prog at at_i
  rw [List.getElem?_map,Option.map_eq_some_iff] at at_i
  obtain ⟨request,found,rfl⟩ := at_i
  refine ⟨.free,?_,fun _ _ => trivial⟩
  have scope : scopeOf requests i = tenantScope request.tenant request.approvalId := by
    funext stage c
    simp only [scopeOf,found]
  rw [scope]
  exact handler_scoped d request

theorem scopeOf_own (i : Nat) (o : ApprovalsOutside) (c : ApprovalsCall) (w : ApprovalsWorld) (stage : ScopeStage)
    (after : c.Reply → ScopeStage) (allowed : scopeOf requests i stage c = some after)
    (own : RejectsOwn requests i o c w) (holding : HoldingOf requests i stage w) :
    SparesOthers requests i w (approvalsServer.serve o c w).2 ∧
      HoldingOf requests i (after (approvalsServer.serve o c w).1) (approvalsServer.serve o c w).2 := by
  cases found : requests[i]? with
  | none => simp [scopeOf,found] at allowed
  | some request =>
    simp only [scopeOf,found] at allowed
    have within := call_within o allowed (own request found) (holding request found)
    constructor
    · intro same at_i
      obtain rfl := Option.some.inj (found.symm.trans at_i)
      exact within.1
    · intro same at_i
      obtain rfl := Option.some.inj (found.symm.trans at_i)
      exact within.2

theorem scopeOf_others (i j : Nat) (o : ApprovalsOutside) (c : ApprovalsCall) (w : ApprovalsWorld) (stage : ScopeStage)
    (after : c.Reply → ScopeStage) (other : ScopeStage) (allowed : scopeOf requests i stage c = some after)
    (own : RejectsOwn requests i o c w) (_ : HoldingOf requests i stage w) (holding : HoldingOf requests j other w) :
    HoldingOf requests j other (approvalsServer.serve o c w).2 := by
  cases found : requests[i]? with
  | none => simp [scopeOf,found] at allowed
  | some request =>
    have kept := call_ownersKept o c w (own request found)
    intro waiting at_j
    exact holding_kept kept (holding waiting at_j)

/-- In every run in which no rejection meets another tenant's record and no new identifier
is taken, every turn of every handler leaves the records of the other tenants as they are. -/
theorem handlers_spare_others (d : ApprovalsDeployment) (start : ApprovalsWorld)
    (schedule : List (Nat × ApprovalsOutside))
    (guarded : Along (turn approvalsServer) (Meets approvalsServer (fun _ => RejectsOwn requests))
      (received requests d start) schedule) :
    Along (turn approvalsServer)
      (fun pool choice => SparesOthers requests choice.1 pool.world (turn approvalsServer pool choice).world)
      (received requests d start) schedule := by
  apply run_stands
  · exact fun _ w _ _ => spares_refl _ w
  · exact fun _ _ _ _ first second request at_i => spares_trans (first request at_i) (second request at_i)
  · exact scopeOf_own requests
  · exact scopeOf_others requests
  · exact received_stand requests d start
  · exact guarded

end runs

section samples

/-- A tenant other than the one whose records are in the cache. -/
def betaTenant : TenantContext := ⟨⟨"tnt_beta",Eq.refl true⟩⟩

/-- The approver of either tenant. -/
def approverOf (tenant : TenantContext) : PrincipalContext where
  principalId := ⟨"usr_ops",Eq.refl true⟩
  tenantId := some tenant.tenantId
  roles := ["TIER_1"]
  tenantScoped := .inr (by simp)

def decisionOf (tenant : TenantContext) (approvalId : String) : DecisionRequest where
  approvalId := approvalId
  tenant := tenant
  principal := approverOf tenant
  checkedAt := ⟨0⟩
  signedAt := "1970-01-01T00:00:00+00:00"
  recordedAt := ⟨0⟩

def pendingRecord : ApprovalData where
  tenantId := some "tnt_acme"
  payloadDigest := some "e37dd8273481a688ae40c3e5b514c21c88b29ded6c740ddb4ca1e740940456c1"
  status := some "PENDING"
  expiryTime := some (.instant ⟨1⟩)

/-- One pending approval of tnt_acme, in the cache alone. -/
def onePending : ApprovalsWorld where
  router := { pendingCache := Dict.empty.set "appr_1" pendingRecord }
  cacheMade := true

def cacheOnly : ApprovalsDeployment := { repositoryBacked with approvalGetRequest := false, approvalRepo := false }

/-- The owner rejects its approval while the other tenant lists its own. -/
def ownRejection : List ApprovalsRequest :=
  [.reject (decisionOf acmeTenant "appr_1"),.list ⟨betaTenant,"appr_2",⟨0⟩,⟨1⟩⟩]

def foreignRejection : List ApprovalsRequest := [.reject (decisionOf betaTenant "appr_1")]

theorem ownRejection_guarded : Along (turn approvalsServer) (Meets approvalsServer (fun _ => RejectsOwn ownRejection))
    (received ownRejection cacheOnly onePending) [(0,⟨obliging,none⟩),(1,⟨obliging,none⟩)] := by
  refine ⟨⟨fun _ _ => trivial,?_⟩,⟨fun _ _ => trivial,?_⟩,trivial⟩
  · refine ⟨?_,trivial⟩
    intro request at_0 record found
    obtain rfl := Option.some.inj at_0
    obtain rfl := Option.some.inj found
    rfl
  · exact ⟨fun _ _ => trivial,trivial⟩

theorem ownRejection_spares :
    Along (turn approvalsServer)
      (fun pool choice => SparesOthers ownRejection choice.1 pool.world (turn approvalsServer pool choice).world)
      (received ownRejection cacheOnly onePending) [(0,⟨obliging,none⟩),(1,⟨obliging,none⟩)] :=
  handlers_spare_others ownRejection cacheOnly onePending _ ownRejection_guarded

/-- The other tenant rejects an approval that is not its own. -/
theorem foreign_rejection_taken :
    ¬ Along (turn approvalsServer)
      (fun pool choice => SparesOthers foreignRejection choice.1 pool.world (turn approvalsServer pool choice).world)
      (received foreignRejection cacheOnly onePending) [(0,⟨obliging,none⟩)] := by
  rintro ⟨spares,_⟩
  have kept := (spares (.reject (decisionOf betaTenant "appr_1")) rfl).cached "appr_1" pendingRecord rfl (by decide)
  have rejected : (turn approvalsServer (received foreignRejection cacheOnly onePending)
      (0,⟨obliging,none⟩)).world.router.pendingCache.get? "appr_1" =
        some { pendingRecord with status := some "REJECTED" } := by rfl
  have status := congrArg ApprovalData.status (Option.some.inj (kept.symm.trans rejected))
  exact absurd status (by decide)

end samples
end RevPilot.Api
