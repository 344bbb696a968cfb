import RevPilot.Action.Domain
import RevPilot.Approval.Domain
import RevPilot.Library.Program
import RevPilot.Library.RecordStore

/-! The repository ports of intents and of ledger entries: what an
implementation promises, the awaited calls of the ledger service, and the
in-memory adapters. -/
namespace RevPilot.Action
open Library Shared Program

structure ActionIntentRepository (S : Type) extends
    RecordStore S TenantId UUIDv7 ActionIntentRecord (·.tenantId) (·.intentId) where
  getByIdempotencyKey : S → TenantId → String → Option ActionIntentRecord
  byKey_empty : ∀ t k, getByIdempotencyKey empty t k = none
  byKey_save : ∀ s r t k, get s r.tenantId r.intentId = none →
    getByIdempotencyKey (save s r) t k =
      if t = r.tenantId ∧ k = r.idempotencyKey then some r else getByIdempotencyKey s t k

structure ActionLedgerRepository (S : Type) extends
    RecordStore S TenantId UUIDv7 ActionLedgerRecord (·.tenantId) (·.ledgerId) where
  listByIntent : S → TenantId → UUIDv7 → List ActionLedgerRecord
  mem_listByIntent : ∀ s t i r, r ∈ listByIntent s t i ↔ get s t r.ledgerId = some r ∧ r.intentId = i
  listByIntent_nodup : ∀ s t i, ((listByIntent s t i).map (·.ledgerId)).Nodup

inductive ActionCall : Type
  | getIntent (tenantId : TenantId) (intentId : UUIDv7)
  | getIntentByKey (tenantId : TenantId) (idempotencyKey : String)
  | saveIntent (intent : ActionIntentRecord)
  | updateIntent (intent : ActionIntentRecord)
  | getLedger (tenantId : TenantId) (ledgerId : UUIDv7)
  | listByIntent (tenantId : TenantId) (intentId : UUIDv7)
  | saveLedger (record : ActionLedgerRecord)
  | updateLedger (record : ActionLedgerRecord)

abbrev ActionCall.Reply : ActionCall → Type
  | .getIntent .. => Option ActionIntentRecord
  | .getIntentByKey .. => Option ActionIntentRecord
  | .saveIntent _ => Unit
  | .updateIntent _ => Unit
  | .getLedger .. => Option ActionLedgerRecord
  | .listByIntent .. => List ActionLedgerRecord
  | .saveLedger _ => Unit
  | .updateLedger _ => Unit

abbrev ActionProg (A : Type) := Prog ActionCall ActionCall.Reply PyError A

/-- The two stores behind the service. -/
structure ActionWorld (SI SL : Type) where
  intents : SI
  ledger : SL

section serve
variable {SI SL : Type} (intentRepo : ActionIntentRepository SI) (ledgerRepo : ActionLedgerRepository SL)

/-- One atomic call of a port. -/
def serve : (c : ActionCall) → ActionWorld SI SL → c.Reply × ActionWorld SI SL
  | .getIntent t i, w => (intentRepo.get w.intents t i,w)
  | .getIntentByKey t k, w => (intentRepo.getByIdempotencyKey w.intents t k,w)
  | .saveIntent r, w => ((),{ w with intents := intentRepo.save w.intents r })
  | .updateIntent r, w => ((),{ w with intents := intentRepo.update w.intents r })
  | .getLedger t l, w => (ledgerRepo.get w.ledger t l,w)
  | .listByIntent t i, w => (ledgerRepo.listByIntent w.ledger t i,w)
  | .saveLedger r, w => ((),{ w with ledger := ledgerRepo.save w.ledger r })
  | .updateLedger r, w => ((),{ w with ledger := ledgerRepo.update w.ledger r })

/-- The ports as the surroundings of a pool: every call is awaited. -/
def server : Server (ActionWorld SI SL) Unit ActionCall ActionCall.Reply :=
  ⟨fun _ => serve intentRepo ledgerRepo,fun _ => true⟩

end serve

abbrev LedgerShelves := Shelves TenantId UUIDv7 ActionLedgerRecord (·.tenantId) (·.ledgerId)

def InMemoryActionLedgerRepository : ActionLedgerRepository LedgerShelves where
  toRecordStore := Shelves.store
  listByIntent s t i :=
    ((s.records t).filter (fun r => r.intentId = i)).insertionSort (fun a b => a.attemptNumber ≤ b.attemptNumber)
  mem_listByIntent s t i r := by
    simp only [List.mem_insertionSort,List.mem_filter,Shelves.mem_records,decide_eq_true_eq]
    rfl
  listByIntent_nodup s t i := by
    rw [((List.perm_insertionSort _ _).map _).nodup_iff]
    exact List.Nodup.sublist (List.Sublist.map _ List.filter_sublist) (s.records_nodup t)

/-- The intents of the in-memory adapter with its index of idempotency keys,
which names stored intents only. -/
structure IntentShelves where
  storage : Shelves TenantId UUIDv7 ActionIntentRecord (·.tenantId) (·.intentId)
  index : Dict (TenantId × String) UUIDv7
  indexed : ∀ t k i, index.get? (t,k) = some i → storage.find t i ≠ none

namespace IntentShelves

def put (s : IntentShelves) (r : ActionIntentRecord) : IntentShelves :=
  ⟨s.storage.put r,s.index.set (r.tenantId,r.idempotencyKey) r.intentId,by
    intro t k i entry
    rw [Shelves.find_put]
    split
    next own => simp
    next other =>
      rw [Dict.get?_set] at entry
      split at entry
      next new =>
        cases new
        cases entry
        exact absurd ⟨rfl,rfl⟩ other
      next old => exact s.indexed t k i entry⟩

def byKey (s : IntentShelves) (t : TenantId) (k : String) : Option ActionIntentRecord :=
  (s.index.get? (t,k)).bind (s.storage.find t)

theorem byKey_put (s : IntentShelves) (r : ActionIntentRecord) (t : TenantId) (k : String)
    (absent : s.storage.find r.tenantId r.intentId = none) :
    (s.put r).byKey t k = if t = r.tenantId ∧ k = r.idempotencyKey then some r else s.byKey t k := by
  simp only [byKey,put,Dict.get?_set,Prod.mk.injEq]
  split
  next own =>
    obtain ⟨rfl,rfl⟩ := own
    simp [Shelves.find_put]
  next other =>
    cases entry : s.index.get? (t,k) with
    | none => rfl
    | some i =>
      simp only [Option.bind_some,Shelves.find_put]
      split
      next clash =>
        obtain ⟨rfl,rfl⟩ := clash
        exact absurd absent (s.indexed _ _ _ entry)
      next apart => rfl

end IntentShelves

def InMemoryActionIntentRepository : ActionIntentRepository IntentShelves where
  empty := ⟨.empty,.empty,by simp⟩
  get s := s.storage.find
  save := IntentShelves.put
  update := IntentShelves.put
  get_empty := Shelves.find_empty
  get_keyed := Shelves.find_keyed
  get_save_self s r _ := by simp [IntentShelves.put,Shelves.find_put]
  get_save_other s r t i other := by simp only [IntentShelves.put,Shelves.find_put,if_neg other]
  get_update_self s r _ := by simp [IntentShelves.put,Shelves.find_put]
  get_update_other s r t i other := by simp only [IntentShelves.put,Shelves.find_put,if_neg other]
  getByIdempotencyKey := IntentShelves.byKey
  byKey_empty t k := rfl
  byKey_save s r t k absent := IntentShelves.byKey_put s r t k absent

end RevPilot.Action

/-! The action ledger service as programs over its two ports. -/
namespace RevPilot.Action
open Library Shared Program Approval

namespace ActionLedgerService

/-- The arguments of `create_intent`. -/
structure CreateIntent where
  ctx : TenantContext
  approval : ApprovalRequestRecord
  idempotencyKey : String
  classification : ActionClassification
  isDryRun : Bool := false

def createIntent (args : CreateIntent) (intentId : UUIDv7) (now : UtcDateTime) :
    ActionProg ActionIntentRecord := do
  if args.ctx.tenantId ≠ args.approval.tenantId then
    throw (actionError "ERR_TENANT_MISMATCH" "Tenant context does not match approval request tenant")
  else
    match ← Prog.call (ActionCall.getIntentByKey args.ctx.tenantId args.idempotencyKey) with
    | some existing => return existing
    | none =>
      if args.isDryRun = false ∧ args.approval.status ≠ .approved then
        throw (actionError "ERR_APPROVAL_NOT_GRANTED"
          s!"Cannot initialize action intent for unapproved request in status {args.approval.status.text}")
      else if key : args.idempotencyKey ≠ "" then
        let intent : ActionIntentRecord := {
          intentId := intentId, tenantId := args.ctx.tenantId, approvalId := args.approval.approvalId
          idempotencyKey := args.idempotencyKey, actionType := args.approval.actionType
          classification := args.classification, targetSetCount := args.approval.targetEntityRefs.length
          payloadDigest := args.approval.payloadDigest, isDryRun := args.isDryRun
          status := .initialized, createdAt := now, keyAccepted := key }
        Prog.call (ActionCall.saveIntent intent)
        return intent
      else throw .validationError

/-- The arguments of `record_attempt_start`. -/
structure AttemptStart where
  ctx : TenantContext
  intentId : UUIDv7
  idempotencyKey : String
  providerName : String
  requestDigest : String

/-- The journal entry of an attempt that begins after `earlier` others. -/
def startedAttempt (args : AttemptStart) (earlier : Nat) (ledgerId : UUIDv7) (now : UtcDateTime) :
    ActionLedgerRecord where
  ledgerId := ledgerId
  tenantId := args.ctx.tenantId
  intentId := args.intentId
  attemptNumber := earlier + 1
  idempotencyKey := args.idempotencyKey
  providerName := args.providerName
  requestDigest := args.requestDigest
  executionStatus := .started
  startedAt := now
  numberAccepted := Nat.le_add_left 1 earlier

def recordAttemptStart (args : AttemptStart) (ledgerId : UUIDv7) (now : UtcDateTime) :
    ActionProg ActionLedgerRecord := do
  match ← Prog.call (ActionCall.getIntent args.ctx.tenantId args.intentId) with
  | none => throw (actionError "ERR_INTENT_NOT_FOUND" "Action intent not found")
  | some intent =>
    let existingAttempts ← Prog.call (ActionCall.listByIntent args.ctx.tenantId args.intentId)
    let ledgerRec := startedAttempt args existingAttempts.length ledgerId now
    Prog.call (ActionCall.saveLedger ledgerRec)
    if intent.status = .initialized then
      Prog.call (ActionCall.updateIntent { intent with status := .dispatched })
      return ledgerRec
    else return ledgerRec

/-- The arguments of `record_attempt_completion`. -/
structure AttemptCompletion where
  ctx : TenantContext
  ledgerId : UUIDv7
  status : ActionLedgerStatus
  responseDigest : Option String := none
  httpStatusCode : Option Int := none
  txId : Option String := none
  errorCode : Option String := none

/-- The status an attempt's outcome gives its intent, if any. -/
def propagated : ActionLedgerStatus → Option ActionIntentStatus
  | .success => some .completed
  | .providerError => some .failed
  | .timeoutUnknown => some .reconciling
  | _ => none

def recordAttemptCompletion (args : AttemptCompletion) (now : UtcDateTime) :
    ActionProg ActionLedgerRecord := do
  match ← Prog.call (ActionCall.getLedger args.ctx.tenantId args.ledgerId) with
  | none => throw (actionError "ERR_LEDGER_NOT_FOUND" "Action ledger record not found")
  | some ledgerRec =>
    let updated : ActionLedgerRecord := { ledgerRec with
      executionStatus := args.status
      responseDigest := args.responseDigest
      httpStatusCode := args.httpStatusCode
      providerTxId := args.txId
      errorCode := args.errorCode
      completedAt := some now }
    Prog.call (ActionCall.updateLedger updated)
    match ← Prog.call (ActionCall.getIntent args.ctx.tenantId ledgerRec.intentId) with
    | none => return updated
    | some intent =>
      match propagated args.status with
      | some status =>
        Prog.call (ActionCall.updateIntent { intent with status := status })
        return updated
      | none => return updated

end ActionLedgerService
end RevPilot.Action
