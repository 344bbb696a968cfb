import RevPilot.Api.Dispatch
import RevPilot.Library.Protocol
import RevPilot.Library.Runs

/-! How often approvals and idempotency keys reach the gateway. Between a request's
look at the intent cache and its entry into the gateway, and between that and the
entry it leaves in the cache, other requests run; and the status a request writes to
a fresh record is seen by no one. -/
namespace RevPilot.Api
open Library Shared Program Runs Approval ToolGateway ApprovalsRouter RevPilot.Action

/-- How far a request has come: before its look at the intent cache, then without a
record, then waiting for the repository, then with an approved record of the pending
cache, then with one that is no longer offered to others, and past the gateway or
turned away. -/
inductive DispatchStage : Type
  | before | checked | reading | holding | ready | done

def isApproved (record : ApprovalData) : Bool := record.status == some "APPROVED"

/-- The stage after a record has been read. -/
def afterRead (stage : DispatchStage) (record : ApprovalData) : DispatchStage :=
  if isApproved record then stage else .done

/-- The calls of a request, with the stages they lead to. -/
def dispatchProtocol (req : DispatchRequest) : Protocol DispatchStage RouterCall RouterCall.Reply
  | .before, .isKillSwitchActive .. => some fun _ => .before
  | .before, .readIntentCache pair =>
    if pair = req.pair then
      some fun (entry : Option CachedIntent) => if entry.isSome then .done else .checked
    else none
  | .checked, .readPending approvalId =>
    if approvalId = req.approvalId then
      some fun (found : Option ApprovalData) => match found with
        | some record => afterRead .holding record
        | none => .reading
    else none
  | .reading, .scanStorage approvalId =>
    if approvalId = req.approvalId then
      some fun (found : Option ApprovalData) => match found with
        | some record => afterRead .ready record
        | none => .reading
    else none
  | .reading, .getRequest _ approvalId =>
    if approvalId = req.approvalId then
      some fun (found : Except PyError (Option ApprovalData)) => match found with
        | .ok (some record) => afterRead .ready record
        | _ => .done
    else none
  | .holding, .setPendingStatus approvalId status =>
    if approvalId = req.approvalId ∧ status ≠ "APPROVED" then some fun _ => .ready else none
  | .ready, .dispatchAction approvalId tenant request =>
    if approvalId = req.approvalId ∧ (tenant.tenantId.value,request.idempotencyKey) = req.pair then
      some fun _ => .done
    else none
  | .done, .setPendingStatus _ status => if status ≠ "APPROVED" then some fun _ => .done else none
  | .done, .awaitDispatch => some fun _ => .done
  | .done, .createIntent .. => some fun _ => .done
  | .done, .writeIntentCache .. => some fun _ => .done
  | _, _ => none

section handler
variable (d : Deployment) (req : DispatchRequest)

/-- The stage of a request that has read a record, by where it found it. -/
def foundStage (cached : Bool) : DispatchStage := if cached then .holding else .ready

/-- What is known of a record once it has been looked for. -/
def Found (found : Option (ApprovalData × Bool)) (stage : DispatchStage) : Prop :=
  ∀ record cached, found = some (record,cached) → stage = afterRead (foundStage cached) record

theorem found_none (stage : DispatchStage) : Found none stage := by
  intro record cached impossible
  cases impossible

theorem found_some (record : ApprovalData) (cached : Bool) :
    Found (some (record,cached)) (afterRead (foundStage cached) record) := by
  rintro _ _ ⟨rfl⟩
  rfl

theorem requestRecord_follows (tenant : TenantContext) :
    Follows (dispatchProtocol req) Found (requestRecord d req.approvalId tenant) .reading := by
  unfold requestRecord
  split
  · refine follows_await _ (if_pos rfl) fun answer => ?_
    cases answer with
    | error raised => trivial
    | ok found =>
      cases found with
      | none => exact found_none _
      | some record => exact found_some record false
  · exact found_none _

theorem storedRecord_follows (tenant : TenantContext) :
    Follows (dispatchProtocol req) Found (storedRecord d req.approvalId tenant) .reading := by
  unfold storedRecord
  split
  · refine follows_await _ (if_pos rfl) fun stored => ?_
    cases stored with
    | none => exact requestRecord_follows d req tenant
    | some record => exact found_some record false
  · exact requestRecord_follows d req tenant

theorem getApprovalRecord_follows (tenant : TenantContext) :
    Follows (dispatchProtocol req) Found (getApprovalRecord d req.approvalId tenant) .checked := by
  refine follows_await _ (if_pos rfl) fun pending => ?_
  cases pending with
  | none => exact storedRecord_follows d req tenant
  | some record => exact found_some record true

/-- Marking a record leaves it unavailable, whoever holds it. -/
theorem markStatus_follows (cached : Bool) {status : ApprovalState} (other : status.value ≠ "APPROVED") :
    Follows (dispatchProtocol req) (fun _ stage => stage = .ready) (markStatus req.approvalId cached status)
      (foundStage cached) := by
  cases cached with
  | false => rfl
  | true => exact follows_await _ (if_pos ⟨rfl,other⟩) fun _ => rfl

theorem markStatus_done (cached : Bool) {status : ApprovalState} (other : status.value ≠ "APPROVED") :
    Follows (dispatchProtocol req) (fun _ stage => stage = .done) (markStatus req.approvalId cached status) .done := by
  cases cached with
  | false => rfl
  | true => exact follows_await _ (if_pos other) fun _ => rfl

theorem verifyRecord_follows (record : ApprovalData) (cached : Bool) :
    Follows (dispatchProtocol req) (fun _ stage => stage = foundStage cached) (verifyRecord d req record cached)
      (afterRead (foundStage cached) record) := by
  unfold verifyRecord
  split
  next => trivial
  next approved =>
    have held : afterRead (foundStage cached) record = foundStage cached := by
      simp [afterRead,isApproved,not_not.mp approved]
    rw [held]
    split
    · trivial
    · split
      · exact follows_bind (follows_mono (fun _ _ _ => trivial) (markStatus_follows req cached (by decide)))
      · refine follows_bind (follows_ofExcept fun sealed _ => ?_)
        split
        · trivial
        · rfl

/-- After the gateway a request only marks its record and leaves its response. -/
abbrev Concludes (prog : RouterProg DispatchResponse) : Prop :=
  Follows (dispatchProtocol req) (fun _ _ => True) prog .done

theorem cacheResponse_follows (ledger : ActionLedgerRecord) : Concludes req (cacheResponse req ledger) :=
  follows_await (fun _ => .done) rfl fun _ => trivial

theorem recordIntent_follows (record : ApprovalData) (sealed : String) (ledger : ActionLedgerRecord) :
    Concludes req (recordIntent d req record sealed ledger) := by
  unfold recordIntent
  split
  · refine follows_await (fun _ => .done) rfl fun created => ?_
    cases created with
    | error raised => trivial
    | ok _ => exact cacheResponse_follows req ledger
  · exact cacheResponse_follows req ledger

theorem refuseProvider_follows (cached : Bool) (message : String) :
    Concludes req (refuseProvider req cached message) :=
  follows_bind (follows_mono (fun _ _ _ => trivial) (markStatus_done req cached (by decide)))

theorem concludeDispatch_follows (record : ApprovalData) (cached : Bool) (sealed : String)
    (answer : Except String (Except DomainError ActionLedgerRecord)) :
    Concludes req (concludeDispatch d req record cached sealed answer) := by
  unfold concludeDispatch
  split
  next => exact refuseProvider_follows req cached _
  next => exact refuseProvider_follows req cached _
  next ledger =>
    split
    · exact refuseProvider_follows req cached _
    · split
      · apply follows_bind
        apply follows_mono _ (markStatus_done req cached (by decide))
        rintro _ _ rfl
        exact recordIntent_follows d req record sealed ledger
      · exact recordIntent_follows d req record sealed ledger

theorem capabilityRequest_key {record : ApprovalData} {sealed : String} {request : ActionCapabilityRequest}
    (made : capabilityRequest d req record sealed = .ok request) : request.idempotencyKey = req.idempotencyKey := by
  unfold capabilityRequest at made
  cases owner : gatewayTenant req.tenant with
  | none =>
    rw [owner] at made
    cases made
  | some tenantId =>
    rw [owner] at made
    simp only at made
    split at made
    next named =>
      cases made
      rfl
    next => cases made

theorem enterGateway_follows (record : ApprovalData) (cached : Bool) (sealed : String)
    {request : ActionCapabilityRequest} (own : request.idempotencyKey = req.idempotencyKey) :
    Follows (dispatchProtocol req) (fun _ _ => True) (enterGateway d req record cached sealed request) .ready := by
  have pair : (req.tenant.tenantId.value,request.idempotencyKey) = req.pair := by
    rw [own]
    rfl
  refine follows_await (fun _ => .done) (if_pos ⟨rfl,pair⟩) fun _ => ?_
  exact follows_await (fun _ => .done) rfl fun answer => concludeDispatch_follows d req record cached sealed answer

theorem dispatchRecord_follows (record : ApprovalData) (cached : Bool) (sealed : String) :
    Follows (dispatchProtocol req) (fun _ _ => True) (dispatchRecord d req record cached sealed) .ready := by
  unfold dispatchRecord
  cases d.gatewayError with
  | some raised => trivial
  | none =>
    cases made : capabilityRequest d req record sealed with
    | error refused => trivial
    | ok request => exact enterGateway_follows d req record cached sealed (capabilityRequest_key d req made)

theorem dispatchFresh_follows : Follows (dispatchProtocol req) (fun _ _ => True) (dispatchFresh d req) .checked := by
  refine follows_bind (follows_mono ?_ (getApprovalRecord_follows d req req.tenant))
  rintro (_ | ⟨record,cached⟩) stage found
  · trivial
  · rw [found record cached rfl]
    refine follows_bind (follows_mono ?_ (verifyRecord_follows d req record cached))
    rintro sealed _ rfl
    refine follows_bind (follows_mono ?_ (markStatus_follows req cached (by decide)))
    rintro _ _ rfl
    exact dispatchRecord_follows d req record cached sealed

theorem killSwitchEngaged_follows (tenant : TenantContext) :
    Follows (dispatchProtocol req) (fun _ stage => stage = .before) (killSwitchEngaged d tenant) .before := by
  unfold killSwitchEngaged
  split
  · refine follows_await (fun _ => .before) rfl fun platform => ?_
    cases platform with
    | error raised => trivial
    | ok engaged =>
      cases engaged with
      | true => rfl
      | false =>
        refine follows_await (fun _ => .before) rfl fun own => ?_
        cases own with
        | error raised => trivial
        | ok engaged => rfl
  · rfl

/-- Every request follows the protocol from its start. -/
theorem dispatchAction_follows : Follows (dispatchProtocol req) (fun _ _ => True) (dispatchAction d req) .before := by
  unfold dispatchAction
  split
  · trivial
  · refine follows_bind (follows_mono ?_ (killSwitchEngaged_follows d req req.tenant))
    rintro engaged _ rfl
    cases engaged with
    | true => trivial
    | false =>
      refine follows_await _ (if_pos rfl) fun entry => ?_
      cases entry with
      | none => exact dispatchFresh_follows d req
      | some entry =>
        change Follows (dispatchProtocol req) _
          (if entry.approvalId ≠ req.approvalId then .raise (conflict "Action intent idempotency conflict")
          else .ret entry.response) .done
        split <;> trivial

end handler

namespace RouterWorld

/-- The approvals and the pairs that have reached the gateway. -/
def approvals (w : RouterWorld) : List String := w.dispatched.map DispatchedAction.approvalId

def pairs (w : RouterWorld) : List IdempotencyPair := w.dispatched.map DispatchedAction.pair

/-- The pending cache offers no approved record of the approval. -/
def Unavailable (w : RouterWorld) (approvalId : String) : Prop :=
  ∀ record, w.pendingCache.get? approvalId = some record → isApproved record = false

/-- What every state of a guarded run has: nothing was dispatched twice, and nothing
dispatched is offered again. -/
structure Sound (w : RouterWorld) : Prop where
  approvalsOnce : w.approvals.Nodup
  pairsOnce : w.pairs.Nodup
  taken : ∀ approvalId ∈ w.approvals, w.Unavailable approvalId

end RouterWorld

/-- What a request may rely on in a stage. -/
def Fresh (req : DispatchRequest) (w : RouterWorld) : DispatchStage → Prop
  | .before => True
  | .checked => req.pair ∉ w.pairs
  | .reading => req.pair ∉ w.pairs ∧ w.Unavailable req.approvalId
  | .holding => req.pair ∉ w.pairs ∧ req.approvalId ∉ w.approvals
  | .ready => req.pair ∉ w.pairs ∧ req.approvalId ∉ w.approvals ∧ w.Unavailable req.approvalId
  | .done => True

/-- A change of the world that dispatches nothing and offers nothing anew. -/
structure Quiet (w w' : RouterWorld) : Prop where
  history : w'.dispatched = w.dispatched
  offers : ∀ approvalId, w.Unavailable approvalId → w'.Unavailable approvalId

namespace Quiet
variable {w w' : RouterWorld}

theorem refl (w : RouterWorld) : Quiet w w := ⟨rfl,fun _ unavailable => unavailable⟩

theorem approvals (quiet : Quiet w w') : w'.approvals = w.approvals :=
  congrArg (List.map DispatchedAction.approvalId) quiet.history

theorem pairs (quiet : Quiet w w') : w'.pairs = w.pairs := congrArg (List.map DispatchedAction.pair) quiet.history

theorem sound (quiet : Quiet w w') (sound : w.Sound) : w'.Sound where
  approvalsOnce := by rw [quiet.approvals]; exact sound.approvalsOnce
  pairsOnce := by rw [quiet.pairs]; exact sound.pairsOnce
  taken := by
    intro approvalId dispatched
    rw [quiet.approvals] at dispatched
    exact quiet.offers approvalId (sound.taken approvalId dispatched)

theorem fresh (quiet : Quiet w w') {req : DispatchRequest} {stage : DispatchStage} (fresh : Fresh req w stage) :
    Fresh req w' stage := by
  cases stage with
  | before => trivial
  | done => trivial
  | checked =>
    change req.pair ∉ w'.pairs
    rw [quiet.pairs]
    exact fresh
  | reading =>
    refine ⟨?_,quiet.offers _ fresh.2⟩
    rw [quiet.pairs]
    exact fresh.1
  | holding =>
    refine ⟨?_,?_⟩
    · rw [quiet.pairs]
      exact fresh.1
    · rw [quiet.approvals]
      exact fresh.2
  | ready =>
    refine ⟨?_,?_,quiet.offers _ fresh.2.2⟩
    · rw [quiet.pairs]
      exact fresh.1
    · rw [quiet.approvals]
      exact fresh.2.1

end Quiet

theorem setStatus_get? (w : RouterWorld) (approvalId other status : String) (record : ApprovalData)
    (found : (w.setStatus approvalId status).pendingCache.get? other = some record) :
    (other = approvalId ∧ record.status = some status) ∨
      (other ≠ approvalId ∧ w.pendingCache.get? other = some record) := by
  unfold RouterWorld.setStatus at found
  cases stored : w.pendingCache.get? approvalId with
  | none =>
    rw [stored] at found
    refine .inr ⟨?_,found⟩
    rintro rfl
    rw [stored] at found
    cases found
  | some held =>
    rw [stored] at found
    by_cases own : other = approvalId
    · subst own
      rw [Dict.get?_set_self] at found
      cases found
      exact .inl ⟨rfl,rfl⟩
    · rw [Dict.get?_set_ne _ _ own] at found
      exact .inr ⟨own,found⟩

theorem setStatus_unavailable (w : RouterWorld) (approvalId : String) {status : String} (other : status ≠ "APPROVED") :
    (w.setStatus approvalId status).Unavailable approvalId := by
  intro record found
  rcases setStatus_get? w approvalId approvalId status record found with ⟨_,marked⟩ | ⟨apart,_⟩
  · simp [isApproved,marked,other]
  · exact absurd rfl apart

theorem setStatus_quiet (w : RouterWorld) (approvalId : String) {status : String} (other : status ≠ "APPROVED") :
    Quiet w (w.setStatus approvalId status) where
  history := by
    unfold RouterWorld.setStatus
    split <;> rfl
  offers := by
    intro offered unavailable record found
    rcases setStatus_get? w approvalId offered status record found with ⟨_,marked⟩ | ⟨_,stored⟩
    · simp [isApproved,marked,other]
    · exact unavailable record stored

section guards
variable (requests : List DispatchRequest)

abbrev RouterPool := Pool RouterWorld RouterCall RouterCall.Reply ApiError DispatchResponse

/-- The request waits for the repository: it has found nothing in the intent cache
and has not entered the gateway. -/
def AwaitsRecord (pool : RouterPool) (i : Nat) : Prop :=
  ∃ prog tenant approvalId, pool.threads[i]? = some prog ∧ prog.pending = some (.getRequest tenant approvalId)

/-- The guards of the handler see what has happened. At a look at the intent cache a
pair that was dispatched is there; the repository answers no approved record of an
approval that was dispatched; and a request enters the gateway while no other one with
its pair waits for its record. -/
def GuardsCurrent (pool : RouterPool) (i : Nat) (o : Outside) : RouterCall → RouterWorld → Prop
  | .readIntentCache pair, w => pair ∈ w.pairs → w.intentCache.get? pair ≠ none
  | .scanStorage approvalId, w =>
    ∀ record, o.storage approvalId = some record → isApproved record = true → approvalId ∉ w.approvals
  | .getRequest tenant approvalId, w =>
    ∀ record, o.request tenant approvalId = .ok (some record) → isApproved record = true → approvalId ∉ w.approvals
  | .dispatchAction _ tenant request, _ =>
    ∀ (j : Nat) (other : DispatchRequest), j ≠ i → requests[j]? = some other → AwaitsRecord pool j →
      other.pair ≠ (tenant.tenantId.value,request.idempotencyKey)
  | _, _ => True

variable {requests} {pool : RouterPool} {i : Nat} {o : Outside} {w : RouterWorld} {req : DispatchRequest}

theorem fresh_afterRead {stage : DispatchStage} {record : ApprovalData}
    (approved : isApproved record = true → Fresh req w stage) : Fresh req w (afterRead stage record) := by
  unfold afterRead
  split
  next yes => exact approved yes
  next => trivial

theorem sound_dispatched {dispatched : DispatchedAction} (sound : w.Sound)
    (newPair : dispatched.pair ∉ w.pairs) (newApproval : dispatched.approvalId ∉ w.approvals)
    (withdrawn : w.Unavailable dispatched.approvalId) :
    RouterWorld.Sound { w with dispatched := dispatched :: w.dispatched } where
  approvalsOnce := List.nodup_cons.mpr ⟨newApproval,sound.approvalsOnce⟩
  pairsOnce := List.nodup_cons.mpr ⟨newPair,sound.pairsOnce⟩
  taken := by
    intro approvalId member
    rcases List.mem_cons.mp member with rfl | earlier
    · exact withdrawn
    · exact sound.taken approvalId earlier

/-- One call of a request whose guards are current: nothing is dispatched twice, and
the request may rely on what its next stage says. -/
theorem call_keeps {stage : DispatchStage} {c : RouterCall} {after : c.Reply → DispatchStage}
    (allowed : dispatchProtocol req stage c = some after) (current : GuardsCurrent requests pool i o c w)
    (sound : w.Sound) (fresh : Fresh req w stage) :
    (routerServer.serve o c w).2.Sound ∧
      Fresh req (routerServer.serve o c w).2 (after (routerServer.serve o c w).1) := by
  cases c with
  | isKillSwitchActive scope target =>
    cases stage <;> cases allowed
    exact ⟨sound,trivial⟩
  | readIntentCache pair =>
    cases stage <;> simp only [dispatchProtocol,reduceCtorEq] at allowed
    split at allowed
    next own =>
      cases allowed
      refine ⟨sound,?_⟩
      -- a pair that the cache does not know has not been dispatched
      change Fresh req w (if (w.intentCache.get? pair).isSome then .done else .checked)
      cases entry : w.intentCache.get? pair with
      | some found => trivial
      | none =>
        intro dispatched
        rw [← own] at dispatched
        exact current dispatched entry
    next => cases allowed
  | readPending approvalId =>
    cases stage <;> simp only [dispatchProtocol,reduceCtorEq] at allowed
    split at allowed
    next own =>
      cases allowed
      refine ⟨sound,?_⟩
      subst own
      change Fresh req w (match w.pendingCache.get? req.approvalId with
        | some record => afterRead .holding record
        | none => .reading)
      cases stored : w.pendingCache.get? req.approvalId with
      | none =>
        refine ⟨fresh,?_⟩
        intro record found
        rw [stored] at found
        cases found
      | some record =>
        apply fresh_afterRead
        intro approved
        refine ⟨fresh,?_⟩
        intro dispatched
        rw [sound.taken _ dispatched record stored] at approved
        cases approved
    next => cases allowed
  | scanStorage approvalId =>
    cases stage <;> simp only [dispatchProtocol,reduceCtorEq] at allowed
    split at allowed
    next own =>
      cases allowed
      refine ⟨sound,?_⟩
      subst own
      change Fresh req w (match o.storage req.approvalId with
        | some record => afterRead .ready record
        | none => .reading)
      cases stored : o.storage req.approvalId with
      | none => exact fresh
      | some record => exact fresh_afterRead fun approved => ⟨fresh.1,current record stored approved,fresh.2⟩
    next => cases allowed
  | getRequest tenant approvalId =>
    cases stage <;> simp only [dispatchProtocol,reduceCtorEq] at allowed
    split at allowed
    next own =>
      cases allowed
      refine ⟨sound,?_⟩
      subst own
      change Fresh req w (match o.request tenant req.approvalId with
        | .ok (some record) => afterRead .ready record
        | _ => .done)
      cases answered : o.request tenant req.approvalId with
      | error raised => trivial
      | ok found =>
        cases found with
        | none => trivial
        | some record => exact fresh_afterRead fun approved => ⟨fresh.1,current record answered approved,fresh.2⟩
    next => cases allowed
  | setPendingStatus approvalId status =>
    cases stage <;> simp only [dispatchProtocol,reduceCtorEq] at allowed
    case holding =>
      split at allowed
      next own =>
        cases allowed
        have quiet := setStatus_quiet w approvalId own.2
        have kept : Fresh req (w.setStatus approvalId status) .holding := quiet.fresh fresh
        refine ⟨quiet.sound sound,kept.1,kept.2,?_⟩
        rw [← own.1]
        exact setStatus_unavailable w approvalId own.2
      next => cases allowed
    case done =>
      split at allowed
      next other =>
        cases allowed
        exact ⟨(setStatus_quiet w approvalId other).sound sound,trivial⟩
      next => cases allowed
  | dispatchAction approvalId tenant request =>
    cases stage <;> simp only [dispatchProtocol,reduceCtorEq] at allowed
    split at allowed
    next own =>
      cases allowed
      obtain ⟨newPair,newApproval,withdrawn⟩ := fresh
      rw [← own.2] at newPair
      rw [← own.1] at newApproval withdrawn
      exact ⟨sound_dispatched sound newPair newApproval withdrawn,trivial⟩
    next => cases allowed
  | awaitDispatch =>
    cases stage <;> cases allowed
    exact ⟨sound,trivial⟩
  | createIntent tenant intent =>
    cases stage <;> cases allowed
    exact ⟨sound,trivial⟩
  | writeIntentCache pair entry =>
    cases stage <;> cases allowed
    exact ⟨⟨sound.approvalsOnce,sound.pairsOnce,sound.taken⟩,trivial⟩

theorem status_not_approved {stage : DispatchStage} {approvalId status : String} {after : Unit → DispatchStage}
    (allowed : dispatchProtocol req stage (.setPendingStatus approvalId status) = some after) :
    status ≠ "APPROVED" := by
  cases stage <;> simp only [dispatchProtocol,reduceCtorEq] at allowed
  case holding =>
    split at allowed
    next own => exact own.2
    next => cases allowed
  case done =>
    split at allowed
    next other => exact other
    next => cases allowed

/-- A call of one request disturbs no other one that waits for its record. -/
theorem call_spares {stage : DispatchStage} {c : RouterCall} {after : c.Reply → DispatchStage} {j : Nat}
    {other : DispatchRequest} (allowed : dispatchProtocol req stage c = some after)
    (current : GuardsCurrent requests pool i o c w) (apart : j ≠ i) (at_j : requests[j]? = some other)
    (waits : AwaitsRecord pool j) (fresh : Fresh other w .reading) :
    Fresh other (routerServer.serve o c w).2 .reading := by
  cases c with
  | setPendingStatus approvalId status =>
    exact (setStatus_quiet w approvalId (status_not_approved allowed)).fresh fresh
  | dispatchAction approvalId tenant request =>
    refine ⟨?_,fresh.2⟩
    intro member
    rcases List.mem_cons.mp member with own | earlier
    · exact current j other apart at_j waits own
    · exact fresh.1 earlier
  | isKillSwitchActive | readIntentCache | readPending | scanStorage | getRequest | awaitDispatch | createIntent =>
    exact fresh
  | writeIntentCache pair entry => exact fresh

variable (requests)

/-- A request on its turn. -/
def Running (i : Nat) (w : RouterWorld) (prog : RouterProg DispatchResponse) : Prop :=
  ∃ req stage, requests[i]? = some req ∧ Follows (dispatchProtocol req) (fun _ _ => True) prog stage ∧
    Fresh req w stage

/-- A request between its turns: it has not looked yet, waits for its record, or is
past the gateway. -/
def Waiting (i : Nat) (w : RouterWorld) (prog : RouterProg DispatchResponse) : Prop :=
  ∃ req, requests[i]? = some req ∧
    (Follows (dispatchProtocol req) (fun _ _ => True) prog .before ∨
      Follows (dispatchProtocol req) (fun _ _ => True) prog .done ∨
      (Follows (dispatchProtocol req) (fun _ _ => True) prog .reading ∧ Fresh req w .reading ∧
        ∃ tenant approvalId, prog.pending = some (.getRequest tenant approvalId)))

theorem running_of_waiting (i : Nat) (w : RouterWorld) (prog : RouterProg DispatchResponse)
    (waiting : Waiting requests i w prog) : Running requests i w prog := by
  obtain ⟨req,at_i,before | done | ⟨reading,fresh,_⟩⟩ := waiting
  · exact ⟨req,.before,at_i,before,trivial⟩
  · exact ⟨req,.done,at_i,done,trivial⟩
  · exact ⟨req,.reading,at_i,reading,fresh⟩

/-- A request stops only where it awaits a call. -/
theorem waiting_of_settled (i : Nat) (w : RouterWorld) (prog : RouterProg DispatchResponse)
    (settled : Settled routerServer prog) (running : Running requests i w prog) : Waiting requests i w prog := by
  obtain ⟨req,stage,at_i,follows,fresh⟩ := running
  refine ⟨req,at_i,?_⟩
  cases prog with
  | ret response => exact .inr (.inl trivial)
  | raise error => exact .inr (.inl trivial)
  | await c resume =>
    have whole := follows
    obtain ⟨after,allowed,_⟩ := follows
    have awaited : routerServer.suspends c = true := settled c rfl
    cases c with
    | isKillSwitchActive scope target =>
      cases stage <;> cases allowed
      exact .inl whole
    | getRequest tenant approvalId =>
      cases stage <;> simp only [dispatchProtocol,reduceCtorEq] at allowed
      exact .inr (.inr ⟨whole,fresh,tenant,approvalId,rfl⟩)
    | awaitDispatch =>
      cases stage <;> cases allowed
      exact .inr (.inl whole)
    | createIntent tenant intent =>
      cases stage <;> cases allowed
      exact .inr (.inl whole)
    | readIntentCache | readPending | scanStorage | setPendingStatus | dispatchAction => cases awaited
    | writeIntentCache pair entry => cases awaited

/-- One turn with current guards: no approval and no pair is dispatched twice, and
every request is where its stage says. -/
theorem turn_sound (pool : RouterPool) (choice : Nat × Outside)
    (met : Meets routerServer (GuardsCurrent requests) pool choice)
    (holds : pool.world.Sound ∧ Owned (Waiting requests) pool) :
    (turn routerServer pool choice).world.Sound ∧ Owned (Waiting requests) (turn routerServer pool choice) := by
  refine turn_keeps routerServer (T := Running requests) ?_ ?_ (running_of_waiting requests)
    (waiting_of_settled requests) pool choice met holds
  · rintro pool i o c resume w current sound ⟨req,stage,at_i,⟨after,allowed,rest⟩,fresh⟩
    have kept := call_keeps allowed current sound fresh
    exact ⟨kept.1,req,_,at_i,rest _,kept.2⟩
  · rintro pool i j o c resume w prog apart found current ⟨req,stage,at_i,⟨after,allowed,rest⟩,fresh⟩
      ⟨other,at_j,before | done | ⟨reading,known,tenant,approvalId,pending⟩⟩
    · exact ⟨other,at_j,.inl before⟩
    · exact ⟨other,at_j,.inr (.inl done)⟩
    · have waits : AwaitsRecord pool j := ⟨prog,tenant,approvalId,found,pending⟩
      exact ⟨other,at_j,.inr (.inr ⟨reading,
        call_spares allowed current (Ne.symm apart) at_j waits known,tenant,approvalId,pending⟩)⟩

/-- All requests before their first turn. -/
def arrivals (d : Deployment) (start : RouterWorld) : RouterPool := ⟨start,requests.map (dispatchAction d)⟩

theorem arrivals_waiting (d : Deployment) (start : RouterWorld) :
    Owned (Waiting requests) (arrivals requests d start) := by
  intro i prog at_i
  change (requests.map (dispatchAction d))[i]? = some prog at at_i
  rw [List.getElem?_map,Option.map_eq_some_iff] at at_i
  obtain ⟨req,found,rfl⟩ := at_i
  exact ⟨req,found,.inl (dispatchAction_follows d req)⟩

/-- Each approval reaches the gateway at most once. -/
def ApprovalsOnce (pool : RouterPool) : Prop :=
  (pool.world.dispatched.map DispatchedAction.approvalId).Nodup

/-- Each pair of tenant and idempotency key triggers at most one dispatch. -/
def PairsOnce (pool : RouterPool) : Prop := (pool.world.dispatched.map DispatchedAction.pair).Nodup

/-- In a run whose steps all find the guards current, no approval and no idempotency
key is ever dispatched twice. -/
theorem guarded_dispatches_once (d : Deployment) (start : RouterWorld) (schedule : List (Nat × Outside))
    (idle : start.dispatched = [])
    (current : Along (turn routerServer) (Meets routerServer (GuardsCurrent requests)) (arrivals requests d start)
      schedule) :
    Always (turn routerServer) (fun pool => ApprovalsOnce pool ∧ PairsOnce pool) (arrivals requests d start)
      schedule := by
  have sound : start.Sound := by
    refine ⟨?_,?_,?_⟩
    · simp [RouterWorld.approvals,idle]
    · simp [RouterWorld.pairs,idle]
    · simp [RouterWorld.approvals,idle]
  have always := invariant_always (turn routerServer)
    (I := fun pool => pool.world.Sound ∧ Owned (Waiting requests) pool)
    (fun pool choice holds met => turn_sound requests pool choice met holds)
    (s := arrivals requests d start) ⟨sound,arrivals_waiting requests d start⟩ current
  exact always_mono (turn routerServer) (fun pool holds => ⟨holds.1.approvalsOnce,holds.1.pairsOnce⟩) always

end guards
section samples

def acmeTenant : TenantContext := ⟨⟨"tnt_acme",Eq.refl true⟩⟩

def operator : PrincipalContext where
  principalId := ⟨"usr_ops",Eq.refl true⟩
  tenantId := some acmeTenant.tenantId
  roles := ["OPERATOR"]
  tenantScoped := .inr (by simp)

/-- A request of the operator for an approval under a key. -/
def dispatchOf (approvalId key : String) : DispatchRequest where
  approvalId := approvalId
  idempotencyKey := key
  tenant := acmeTenant
  principal := operator
  checkedAt := ⟨0⟩
  intentUuid := ⟨"01890a5d-ac96-774b-bcce-b302099a9001"⟩
  asOfTime := ⟨0⟩
  intentId := "intent_0123456789ab"

def approvedRecord : ApprovalData where
  tenantId := some "tnt_acme"
  payloadDigest := some "e37dd8273481a688ae40c3e5b514c21c88b29ded6c740ddb4ca1e740940456c1"
  status := some "APPROVED"
  expiryTime := some (.instant ⟨1⟩)

def providerRecord : ActionLedgerRecord where
  ledgerId := ⟨"01890a5d-ac96-774b-bcce-b302099aa001"⟩
  tenantId := acmeTenant.tenantId
  intentId := ⟨"01890a5d-ac96-774b-bcce-b302099a9001"⟩
  attemptNumber := 1
  idempotencyKey := "idem-1"
  providerName := "mock_logistics_v1"
  requestDigest := "9f86d081"
  executionStatus := .success
  startedAt := ⟨0⟩
  numberAccepted := first_attempt

/-- A repository that answers every read with a fresh approved record, and a provider
that always succeeds. -/
def obliging : Outside where
  killSwitch _ _ := .ok false
  storage _ := none
  request _ _ := .ok (some approvedRecord)
  gateway := .ok (.ok providerRecord)
  ledger := .ok ()

def repositoryBacked : Deployment where
  killswitchRepo := false
  approvalStorage := false
  approvalGetRequest := true
  actionLedgerRepo := true
  sha256 := id
  casing := Text.asciiCasing
  fromIsoformat _ := none
  uuidOf approvalId := ⟨approvalId⟩

/-- A request and its repetition, one after the other. -/
def repeated : List DispatchRequest := [dispatchOf "appr_1" "idem-1",dispatchOf "appr_1" "idem-1"]

def inTurn : List (Nat × Outside) := [(0,obliging),(0,obliging),(0,obliging),(0,obliging),(1,obliging)]

theorem repeated_current : Along (turn routerServer) (Meets routerServer (GuardsCurrent repeated))
    (arrivals repeated repositoryBacked {}) inTurn := by
  -- the five turns: the look and the wait, the record and the entry, the answer, the
  -- intent and the response, and the repeated request's look
  refine And.intro (And.intro ?_ (And.intro trivial trivial)) (And.intro (And.intro ?_ (And.intro ?_ trivial))
    (And.intro (And.intro trivial trivial) (And.intro (And.intro trivial (And.intro trivial trivial))
      (And.intro (And.intro ?_ trivial) trivial))))
  · intro dispatched
    exact absurd dispatched List.not_mem_nil
  · intro record answered approved
    exact List.not_mem_nil
  · rintro j other apart at_j ⟨prog,tenant,approvalId,found,pending⟩
    match j with
    | 0 => exact absurd rfl apart
    | 1 =>
      obtain rfl := Option.some.inj found
      have looking : (dispatchAction repositoryBacked (dispatchOf "appr_1" "idem-1")).pending =
          some (.readIntentCache ("tnt_acme","idem-1")) := rfl
      cases looking.symm.trans pending
    | j + 2 => cases at_j
  · intro dispatched missing
    cases missing

/-- A repeated request is answered from the cache and dispatches nothing. -/
theorem repeated_dispatched_once :
    (run (turn routerServer) (arrivals repeated repositoryBacked {}) inTurn).world.dispatched.length = 1 ∧
      Always (turn routerServer) (fun pool => ApprovalsOnce pool ∧ PairsOnce pool)
        (arrivals repeated repositoryBacked {}) inTurn :=
  ⟨rfl,guarded_dispatches_once repeated repositoryBacked {} inTurn rfl repeated_current⟩

/-- One approval under two keys, one request after the other. -/
def twoKeys : List DispatchRequest := [dispatchOf "appr_1" "idem-1",dispatchOf "appr_1" "idem-2"]

/-- Two approvals under one key, with both looks at the intent cache first. -/
def oneKey : List DispatchRequest := [dispatchOf "appr_1" "idem-1",dispatchOf "appr_2" "idem-1"]

def oneAfterTheOther : List (Nat × Outside) :=
  [(0,obliging),(0,obliging),(0,obliging),(0,obliging),(1,obliging),(1,obliging)]

def racing : List (Nat × Outside) := [(0,obliging),(1,obliging),(0,obliging),(1,obliging)]

theorem double_dispatches :
    ¬ Always (turn routerServer) (fun pool => ApprovalsOnce pool ∧ PairsOnce pool)
      (arrivals twoKeys repositoryBacked {}) oneAfterTheOther ∧
    ¬ Always (turn routerServer) (fun pool => ApprovalsOnce pool ∧ PairsOnce pool)
      (arrivals oneKey repositoryBacked {}) racing := by
  constructor
  · intro once
    have approvals := (once oneAfterTheOther [] rfl).1
    have twice : (run (turn routerServer) (arrivals twoKeys repositoryBacked {})
      oneAfterTheOther).world.dispatched.map DispatchedAction.approvalId = ["appr_1","appr_1"] := by rfl
    rw [ApprovalsOnce,twice] at approvals
    simp at approvals
  · intro once
    have pairs := (once racing [] rfl).2
    have twice : (run (turn routerServer) (arrivals oneKey repositoryBacked {}) racing).world.dispatched.map
      DispatchedAction.pair = [("tnt_acme","idem-1"),("tnt_acme","idem-1")] := by rfl
    rw [PairsOnce,twice] at pairs
    simp at pairs

end samples
end RevPilot.Api
