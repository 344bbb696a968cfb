import RevPilot.Action.Saga.Forward
import RevPilot.Library.Traces

/-! The inquiries of `reconcile_unknown` against a provider that keeps a state of its
own and may raise: how many there are, which of them decides, and what the ledger and
the outbox show afterwards. -/
namespace RevPilot.Action
open Library Shared Program ReconciliationManager

/-- An answer that ends the loop. -/
def ProviderInquiryResult.conclusive (answer : ProviderInquiryResult) : Bool :=
  decide (answer.status ≠ .inconclusive)

/-- The `query_fn` of a caller, asked once a turn of the loop. -/
def inquire (provider idempotencyKey : String) : SagaProg (Except String ProviderInquiryResult) :=
  Prog.call (SagaCall.inquire provider idempotencyKey)

def SagaCall.isInquiry : SagaCall → Bool
  | .inquire .. => true
  | _ => false

/-- The fields that say which dispatch attempt a record is about. -/
structure SameAttempt (ledger record : ActionLedgerRecord) : Prop where
  ledgerId : record.ledgerId = ledger.ledgerId
  tenantId : record.tenantId = ledger.tenantId
  intentId : record.intentId = ledger.intentId
  attemptNumber : record.attemptNumber = ledger.attemptNumber
  idempotencyKey : record.idempotencyKey = ledger.idempotencyKey
  providerName : record.providerName = ledger.providerName
  requestDigest : record.requestDigest = ledger.requestDigest
  responseDigest : record.responseDigest = ledger.responseDigest
  startedAt : record.startedAt = ledger.startedAt

theorem confirmedLedger_same (ledger : ActionLedgerRecord) (result : ProviderInquiryResult) (now : UtcDateTime) :
    SameAttempt ledger (confirmedLedger ledger result now) := by
  constructor <;> rfl

theorem unresolvedLedger_same (ledger : ActionLedgerRecord) (status : ActionLedgerStatus) (error : String)
    (now : UtcDateTime) : SameAttempt ledger (unresolvedLedger ledger status error now) := by
  constructor <;> rfl

section run
variable {V : Type} (env : SagaEnvironment V) (provider key : String)

/-- What the provider would answer to so many inquiries in a row, as the loop takes it:
an exception is an inconclusive answer. -/
def SagaEnvironment.answers : Nat → V → List ProviderInquiryResult
  | 0, _ => []
  | left + 1, v => settleAnswer (env.inquire v provider key).1 :: answers left (env.inquire v provider key).2

theorem SagaEnvironment.answers_length (left : Nat) (v : V) : (env.answers provider key left v).length = left := by
  induction left generalizing v with
  | zero => rfl
  | succ left ih => exact congrArg (· + 1) (ih _)

/-- What the record and the outbox show after the answers of a loop. -/
def Concluded (answers : List ProviderInquiryResult) (record : ActionLedgerRecord) (before after : List OutboxEvent) :
    Prop :=
  match answers.find? ProviderInquiryResult.conclusive with
  | some answer => States record answer.status ∧ after = before
  | none => States record .inconclusive ∧
      ∃ event : OutboxEvent, event.eventType = "action.reconciliation_required.v1" ∧ after = before ++ [event]

/-- One inquiry is made for each answer up to the first conclusive one. -/
def inquiriesMade (answers : List ProviderInquiryResult) : Nat :=
  min (answers.findIdx ProviderInquiryResult.conclusive + 1) answers.length

theorem inquiriesMade_cons (answer : ProviderInquiryResult) (rest : List ProviderInquiryResult) :
    inquiriesMade (answer :: rest) = if answer.conclusive then 1 else inquiriesMade rest + 1 := by
  unfold inquiriesMade
  rw [List.findIdx_cons]
  cases answer.conclusive with
  | true => simp
  | false => simp [Nat.succ_min_succ]

theorem concluded_cons_skip {answer : ProviderInquiryResult} {rest : List ProviderInquiryResult}
    (undecided : answer.status = .inconclusive) (record : ActionLedgerRecord) (before after : List OutboxEvent) :
    Concluded (answer :: rest) record before after ↔ Concluded rest record before after := by
  have skipped : answer.conclusive = false := by simp [ProviderInquiryResult.conclusive,undecided]
  unfold Concluded
  rw [List.find?_cons_of_neg (by simp [skipped])]

theorem concluded_cons {answer : ProviderInquiryResult} (rest : List ProviderInquiryResult)
    (decisive : answer.status ≠ .inconclusive) (record : ActionLedgerRecord) (before after : List OutboxEvent) :
    Concluded (answer :: rest) record before after ↔ States record answer.status ∧ after = before := by
  have found : answer.conclusive = true := by simpa [ProviderInquiryResult.conclusive] using decisive
  unfold Concluded
  rw [List.find?_cons_of_pos found]

/-- What one run of the loop makes, from any turn of it on: a record, and the number
of inquiries. -/
def Reconciled (ledger : ActionLedgerRecord) (prog : SagaProg ActionLedgerRecord) (left : Nat) (w : SagaWorld V) :
    Prop :=
  ∃ record after, prog.exec env.serve w = (.ok record,after) ∧
    (prog.calls env.serve w).countP SagaCall.isInquiry =
      inquiriesMade (env.answers ledger.providerName ledger.idempotencyKey left w.outside) ∧
    Concluded (env.answers ledger.providerName ledger.idempotencyKey left w.outside) record
      w.emittedOutboxEvents after.emittedOutboxEvents ∧
    SameAttempt ledger record

theorem inquiryLoop_reconciled (intent : ActionIntentRecord) (ledger : ActionLedgerRecord) (maxAttempts : Int)
    (readings : SagaReadings) (left : Nat) (last : ProviderInquiryResult) (w : SagaWorld V) :
    Reconciled env ledger (inquiryLoop intent ledger inquire maxAttempts readings left last) left w := by
  induction left generalizing last w with
  | zero =>
    exact ⟨_,_,rfl,rfl,⟨rfl,escalation intent ledger maxAttempts last readings,rfl,rfl⟩,unresolvedLedger_same ..⟩
  | succ left ih =>
    have rest := fun last w => ih last w
    unfold Reconciled at rest ⊢
    simp only [inquiryLoop,inquire,Prog.call_bind,Prog.exec_await,Prog.calls,SagaEnvironment.serve,
      SagaEnvironment.answers,List.countP_cons,SagaCall.isInquiry,Bool.false_eq_true,if_false,if_true]
    cases answered : (settleAnswer (env.inquire w.outside ledger.providerName ledger.idempotencyKey).1).status with
    | confirmed =>
      have decisive : (settleAnswer (env.inquire w.outside ledger.providerName ledger.idempotencyKey).1).status ≠
          .inconclusive := by simp [answered]
      refine ⟨_,_,rfl,?_,(concluded_cons _ decisive _ _ _).mpr ⟨?_,rfl⟩,confirmedLedger_same ..⟩
      · simp [inquiriesMade_cons,ProviderInquiryResult.conclusive,answered,Prog.calls]
      · rw [answered]
        rfl
    | noRecord =>
      have decisive : (settleAnswer (env.inquire w.outside ledger.providerName ledger.idempotencyKey).1).status ≠
          .inconclusive := by simp [answered]
      refine ⟨_,_,rfl,?_,(concluded_cons _ decisive _ _ _).mpr ⟨?_,rfl⟩,unresolvedLedger_same ..⟩
      · simp [inquiriesMade_cons,ProviderInquiryResult.conclusive,answered,Prog.calls]
      · rw [answered]
        exact ⟨rfl,rfl⟩
    | inconclusive =>
      obtain ⟨record,after,outcome,counted,concluded,same⟩ := rest
        (settleAnswer (env.inquire w.outside ledger.providerName ledger.idempotencyKey).1) _
      refine ⟨record,after,outcome,?_,(concluded_cons_skip answered _ _ _).mpr concluded,same⟩
      rw [inquiriesMade_cons]
      simp [ProviderInquiryResult.conclusive,answered,counted]

/-- However often the provider may be asked and however it answers: no more inquiries
than allowed, none after the first conclusive answer, the record and the outbox as that
answer demands, and the record still about the same attempt. -/
theorem reconcileUnknown_outcome (intent : ActionIntentRecord) (ledger : ActionLedgerRecord) (maxAttempts : Int)
    (readings : SagaReadings) (w : SagaWorld V) :
    let prog := ReconciliationManager.reconcileUnknown intent ledger inquire readings maxAttempts
    let answers := env.answers ledger.providerName ledger.idempotencyKey maxAttempts.toNat w.outside
    let asked := (prog.calls env.serve w).countP SagaCall.isInquiry
    asked ≤ maxAttempts.toNat ∧ asked = inquiriesMade answers ∧
      ∃ record after, prog.exec env.serve w = (.ok record,after) ∧
        Concluded answers record w.emittedOutboxEvents after.emittedOutboxEvents ∧ SameAttempt ledger record := by
  intro prog answers asked
  obtain ⟨record,after,outcome,counted,concluded,same⟩ := inquiryLoop_reconciled env intent ledger maxAttempts readings
    maxAttempts.toNat { status := .inconclusive, details := [(.str "message",.str "Inquiry not started")] } w
  have bounded : inquiriesMade answers ≤ maxAttempts.toNat := by
    have size := env.answers_length ledger.providerName ledger.idempotencyKey maxAttempts.toNat w.outside
    calc inquiriesMade answers ≤ answers.length := Nat.min_le_right ..
      _ = maxAttempts.toNat := size
  have made : asked = inquiriesMade answers := counted
  exact ⟨made ▸ bounded,made,record,after,outcome,concluded,same⟩

end run
end RevPilot.Action
