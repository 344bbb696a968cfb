import RevPilot.Action.Attempts

/-! Runs of `create_intent` over the ports: what one call returns and stores, and
when every intent that is returned belongs to the approval of its own call. -/
namespace RevPilot.Action
open Library Shared Program Runs Approval ActionLedgerService

/-- One call with the identifier and the instant it generates. -/
structure IntentCall where
  args : CreateIntent
  intentId : UUIDv7
  now : UtcDateTime

namespace IntentCall
variable {SI SL : Type} (intentRepo : ActionIntentRepository SI) (ledgerRepo : ActionLedgerRepository SL)

def result (w : ActionWorld SI SL) (c : IntentCall) : Except PyError ActionIntentRecord × ActionWorld SI SL :=
  (createIntent c.args c.intentId c.now).exec (serve intentRepo ledgerRepo) w

def step (w : ActionWorld SI SL) (c : IntentCall) : ActionWorld SI SL := (c.result intentRepo ledgerRepo w).2

/-- The intent that the tenant's key names already. -/
def hit (w : ActionWorld SI SL) (c : IntentCall) : Option ActionIntentRecord :=
  intentRepo.getByIdempotencyKey w.intents c.args.ctx.tenantId c.args.idempotencyKey

/-- The call gets as far as making an intent. -/
def Makes (w : ActionWorld SI SL) (c : IntentCall) : Prop :=
  c.args.ctx.tenantId = c.args.approval.tenantId ∧ c.hit intentRepo w = none ∧
    (c.args.isDryRun = true ∨ c.args.approval.status = .approved) ∧ c.args.idempotencyKey ≠ ""

/-- `intent` carries the data of the call. -/
structure Carries (c : IntentCall) (intent : ActionIntentRecord) : Prop where
  own : intent.intentId = c.intentId
  tenant : intent.tenantId = c.args.ctx.tenantId
  approval : intent.approvalId = c.args.approval.approvalId
  digest : intent.payloadDigest = c.args.approval.payloadDigest
  dryRun : intent.isDryRun = c.args.isDryRun

/-- A call returns a stored intent, makes a new one, or fails without a trace. -/
theorem result_cases (w : ActionWorld SI SL) (c : IntentCall) :
    (¬ c.Makes intentRepo w ∧ c.args.ctx.tenantId = c.args.approval.tenantId ∧ ∃ existing,
      c.hit intentRepo w = some existing ∧ c.result intentRepo ledgerRepo w = (.ok existing,w)) ∨
    (c.Makes intentRepo w ∧ ∃ intent, c.Carries intent ∧
      c.result intentRepo ledgerRepo w = (.ok intent,{ w with intents := intentRepo.save w.intents intent })) ∨
    (¬ c.Makes intentRepo w ∧ (c.args.ctx.tenantId = c.args.approval.tenantId → c.hit intentRepo w = none) ∧
      ∃ e, c.result intentRepo ledgerRepo w = (.error e,w)) := by
  unfold result createIntent
  by_cases tenant : c.args.ctx.tenantId = c.args.approval.tenantId
  · rw [if_neg (not_not.mpr tenant)]
    simp only [Prog.call_bind,Prog.exec_await,serve]
    cases found : c.hit intentRepo w with
    | some existing =>
      unfold hit at found
      rw [found]
      refine .inl ⟨?_,tenant,existing,rfl,rfl⟩
      rintro ⟨_,none,_⟩
      rw [hit,found] at none
      cases none
    | none =>
      have absent := found
      unfold hit at found
      rw [found]
      dsimp only
      by_cases granted : c.args.isDryRun = false ∧ c.args.approval.status ≠ .approved
      · rw [if_pos granted]
        refine .inr (.inr ⟨?_,fun _ => rfl,_,rfl⟩)
        rintro ⟨_,_,dry | approved,_⟩
        · rw [granted.1] at dry
          cases dry
        · exact granted.2 approved
      · rw [if_neg granted]
        have open_ : c.args.isDryRun = true ∨ c.args.approval.status = .approved := by
          by_contra closed
          rw [not_or,Bool.not_eq_true] at closed
          exact granted closed
        by_cases key : c.args.idempotencyKey ≠ ""
        · rw [dif_pos key]
          refine .inr (.inl ⟨⟨tenant,absent,open_,key⟩,_,?_,rfl⟩)
          exact ⟨rfl,rfl,rfl,rfl,rfl⟩
        · rw [dif_neg key]
          refine .inr (.inr ⟨?_,fun _ => rfl,_,rfl⟩)
          rintro ⟨_,_,_,nonempty⟩
          exact key nonempty
  · rw [if_pos tenant]
    refine .inr (.inr ⟨?_,fun same => absurd same tenant,_,rfl⟩)
    rintro ⟨same,_⟩
    exact tenant same

/-- What a call that is no dry run returns belongs to its own approval. -/
def ReturnsOwn (w : ActionWorld SI SL) (c : IntentCall) : Prop :=
  c.args.isDryRun = false → ∀ intent, (c.result intentRepo ledgerRepo w).1 = .ok intent →
    intent.approvalId = c.args.approval.approvalId ∧ intent.payloadDigest = c.args.approval.payloadDigest ∧
      c.args.approval.status = .approved ∧ intent.isDryRun = false

/-- No approval has two intents that are no dry runs. -/
def BoundOnce (w : ActionWorld SI SL) : Prop :=
  ∀ t i j r q, intentRepo.get w.intents t i = some r → intentRepo.get w.intents t j = some q →
    r.isDryRun = false → q.isDryRun = false → r.approvalId = q.approvalId → i = j

/-- A stored key was used for this very approval, and a new key is not used for
an approval that has an intent already. -/
def KeysFollowApprovals (w : ActionWorld SI SL) (c : IntentCall) : Prop :=
  c.args.isDryRun = false → c.args.ctx.tenantId = c.args.approval.tenantId →
    match c.hit intentRepo w with
    | some earlier => earlier.approvalId = c.args.approval.approvalId ∧
        earlier.payloadDigest = c.args.approval.payloadDigest ∧
        c.args.approval.status = .approved ∧ earlier.isDryRun = false
    | none => c.args.approval.status = .approved → c.args.idempotencyKey ≠ "" →
        ∀ i r, intentRepo.get w.intents c.args.ctx.tenantId i = some r → r.isDryRun = false →
          r.approvalId ≠ c.args.approval.approvalId

/-- The identifier of a new intent is not in use. -/
def Fresh (w : ActionWorld SI SL) (c : IntentCall) : Prop := ∀ t, intentRepo.get w.intents t c.intentId = none

theorem boundOnce_save {w : ActionWorld SI SL} {c : IntentCall} {intent : ActionIntentRecord}
    (fresh : c.Fresh intentRepo w) (carries : c.Carries intent) (bound : BoundOnce intentRepo w) :
    BoundOnce intentRepo { w with intents := intentRepo.save w.intents intent } ↔
      (c.args.isDryRun = false → ∀ i r, intentRepo.get w.intents c.args.ctx.tenantId i = some r →
        r.isDryRun = false → r.approvalId ≠ c.args.approval.approvalId) := by
  have absent : intentRepo.get w.intents intent.tenantId intent.intentId = none := by
    rw [carries.own]
    exact fresh _
  have new : intentRepo.get (intentRepo.save w.intents intent) intent.tenantId intent.intentId = some intent :=
    intentRepo.get_save_self w.intents intent absent
  have old (t i) (other : ¬ (t = intent.tenantId ∧ i = intent.intentId)) :
      intentRepo.get (intentRepo.save w.intents intent) t i = intentRepo.get w.intents t i :=
    intentRepo.get_save_other w.intents intent t i other
  constructor
  · intro after dry i r stored real same
    have other : ¬ (c.args.ctx.tenantId = intent.tenantId ∧ i = intent.intentId) := by
      rintro ⟨_,rfl⟩
      rw [carries.own,fresh] at stored
      cases stored
    have kept : intentRepo.get (intentRepo.save w.intents intent) intent.tenantId i = some r := by
      rw [carries.tenant,old _ _ other]
      exact stored
    have twice := after intent.tenantId i intent.intentId r intent kept new real
      (carries.dryRun.trans dry) (same.trans carries.approval.symm)
    exact other ⟨carries.tenant.symm,twice⟩
  · intro unused t i j r q left right realLeft realRight same
    have clash {k : UUIDv7} {s : ActionIntentRecord} (different : k ≠ intent.intentId)
        (stored : intentRepo.get (intentRepo.save w.intents intent) intent.tenantId k = some s)
        (real : s.isDryRun = false) (realNew : intent.isDryRun = false) :
        s.approvalId ≠ intent.approvalId := by
      rw [old _ _ (fun own => different own.2)] at stored
      rw [carries.approval]
      exact unused (carries.dryRun.symm.trans realNew) k s (carries.tenant ▸ stored) real
    by_cases here : t = intent.tenantId
    · subst here
      by_cases first : i = intent.intentId <;> by_cases second : j = intent.intentId
      · rw [first,second]
      · subst first
        obtain rfl : intent = r := Option.some.inj (new.symm.trans left)
        exact absurd same.symm (clash second right realRight realLeft)
      · subst second
        obtain rfl : intent = q := Option.some.inj (new.symm.trans right)
        exact absurd same (clash first left realLeft realRight)
      · rw [old _ _ (fun own => first own.2)] at left
        rw [old _ _ (fun own => second own.2)] at right
        exact bound _ i j r q left right realLeft realRight same
    · rw [old _ _ (fun own => here own.1)] at left right
      exact bound t i j r q left right realLeft realRight same

/-- From a state in which no approval is bound twice, one call returns its own
intent and binds no approval twice exactly under the condition on keys. -/
theorem keys_follow_iff {w : ActionWorld SI SL} {c : IntentCall} (fresh : c.Fresh intentRepo w)
    (bound : BoundOnce intentRepo w) :
    c.KeysFollowApprovals intentRepo w ↔
      c.ReturnsOwn intentRepo ledgerRepo w ∧ BoundOnce intentRepo (c.step intentRepo ledgerRepo w) := by
  unfold KeysFollowApprovals ReturnsOwn step
  rcases result_cases intentRepo ledgerRepo w c with
    ⟨_,tenant,existing,found,run⟩ | ⟨⟨tenant,found,granted,key⟩,intent,carries,run⟩ | ⟨unmade,missed,e,run⟩
  · simp only [run,found,tenant,Except.ok.injEq,true_implies,forall_eq',bound,and_true]
  · rw [run,found]
    dsimp only
    rw [boundOnce_save intentRepo fresh carries bound]
    constructor
    · intro condition
      refine ⟨?_,fun real => ?_⟩
      · rintro real _ ⟨rfl⟩
        have approved : c.args.approval.status = .approved := by
          rcases granted with dry | approved
          · rw [real] at dry
            cases dry
          · exact approved
        exact ⟨carries.approval,carries.digest,approved,carries.dryRun.trans real⟩
      · have approved : c.args.approval.status = .approved := by
          rcases granted with dry | approved
          · rw [real] at dry
            cases dry
          · exact approved
        exact condition real tenant approved key
    · rintro ⟨_,unused⟩ real _ _ _
      exact unused real
  · simp only [run,bound,and_true]
    constructor
    · intro _ _ intent impossible
      cases impossible
    · intro _ real tenant
      rw [missed tenant]
      intro approved key
      exact absurd ⟨tenant,missed tenant,.inr approved,key⟩ unmade

theorem stored_step {w : ActionWorld SI SL} {c : IntentCall} {t : TenantId} {i : UUIDv7}
    (present : intentRepo.get (c.step intentRepo ledgerRepo w).intents t i ≠ none) :
    intentRepo.get w.intents t i ≠ none ∨ c.intentId = i := by
  unfold step at present
  rcases result_cases intentRepo ledgerRepo w c with ⟨_,_,_,_,run⟩ | ⟨_,intent,carries,run⟩ | ⟨_,_,_,run⟩
  · rw [run] at present
    exact .inl present
  · rw [run] at present
    by_cases own : t = intent.tenantId ∧ i = intent.intentId
    · exact .inr (own.2.trans carries.own).symm
    · rw [intentRepo.get_save_other _ _ _ _ own] at present
      exact .inl present
  · rw [run] at present
    exact .inl present

/-- In a run from an empty repository with generated identifiers that never
repeat, every call that is no dry run returns an intent of its own approval and no
approval is ever bound twice, exactly when keys and approvals stay in step. -/
theorem intents_follow_approvals_iff (calls : List IntentCall) (distinct : (calls.map (·.intentId)).Nodup)
    (ledger : SL) :
    Along (fun w c => step intentRepo ledgerRepo w c) (fun w c => c.ReturnsOwn intentRepo ledgerRepo w)
        ⟨intentRepo.empty,ledger⟩ calls ∧
      Always (fun w c => step intentRepo ledgerRepo w c) (BoundOnce intentRepo) ⟨intentRepo.empty,ledger⟩ calls ↔
    Along (fun w c => step intentRepo ledgerRepo w c) (fun w c => c.KeysFollowApprovals intentRepo w)
        ⟨intentRepo.empty,ledger⟩ calls := by
  symm
  have fits := @fresh_along _ _ (fun w c => step intentRepo ledgerRepo w c) _
    (fun c : IntentCall => some c.intentId) (fun w i => ∃ t, intentRepo.get w.intents t i ≠ none)
    ?_ ⟨intentRepo.empty,ledger⟩ calls (by simpa [List.filterMap_eq_map'] using distinct) ?_
  · apply along_safe_iff (fun w c => step intentRepo ledgerRepo w c) (I := fun _ => True) _ _ trivial _ fits
    · intro w c _ _
      trivial
    · intro w c _ unused bound
      have fresh : c.Fresh intentRepo w := by
        intro t
        by_contra present
        exact unused c.intentId rfl ⟨t,present⟩
      exact keys_follow_iff intentRepo ledgerRepo fresh bound
    · intro t i j r q left
      rw [intentRepo.get_empty] at left
      cases left
  · rintro w c _ i ⟨t,present⟩
    rcases stored_step intentRepo ledgerRepo present with before | own
    · exact .inl ⟨t,before⟩
    · exact .inr (congrArg some own)
  · rintro i _ ⟨t,present⟩
    exact present (intentRepo.get_empty t i)

end IntentCall

section samples
open IntentCall

def approvedRefund (status : ApprovalStatus) (approvalId : UUIDv7) : ApprovalRequestRecord where
  approvalId := approvalId
  tenantId := acmeContext.tenantId
  decisionId := ⟨"01890a5d-ac96-774b-bcce-b302099a8050"⟩
  actionType := "REFUND"
  targetCustomerId := "cus_42"
  targetEntityRefs := ["inv_7"]
  actionPayload := .empty
  payloadDigest := "9f86d081"
  policyDigest := "60303ae2"
  estimatedCostUsd := .ofCents 10000
  reservedBudgetUsd := .ofCents 10000
  riskTier := .low
  requiredApprovalTier := 1
  expiryTime := ⟨86400000000⟩
  status := status
  decisionDigest := ""
  correlationId := approvalId
  causationId := approvalId
  createdAt := ⟨0⟩
  costAccepted := rfl
  budgetAccepted := rfl
  tierAccepted := by decide

def refundA : UUIDv7 := ⟨"01890a5d-ac96-774b-bcce-b302099a8057"⟩

def refundB : UUIDv7 := ⟨"01890a5d-ac96-774b-bcce-b302099a8058"⟩

def intentOne : UUIDv7 := ⟨"01890a5d-ac96-774b-bcce-b302099a9001"⟩

def intentTwo : UUIDv7 := ⟨"01890a5d-ac96-774b-bcce-b302099a9002"⟩

/-- A call for an approval in the given status. -/
def intentCall (status : ApprovalStatus) (approvalId : UUIDv7) (key : String) (dry : Bool) (intentId : UUIDv7) :
    IntentCall :=
  ⟨⟨acmeContext,approvedRefund status approvalId,key,.reversible,dry⟩,intentId,⟨0⟩⟩

/-- The same submission twice. -/
def repeatedSubmission : List IntentCall :=
  [intentCall .approved refundA "idem-1" false intentOne,intentCall .approved refundA "idem-1" false intentTwo]

abbrev intentStep : ActionWorld IntentShelves LedgerShelves → IntentCall →
    ActionWorld IntentShelves LedgerShelves :=
  fun w c => step InMemoryActionIntentRepository InMemoryActionLedgerRepository w c

abbrev intentStart : ActionWorld IntentShelves LedgerShelves :=
  ⟨InMemoryActionIntentRepository.empty,InMemoryActionLedgerRepository.empty⟩

theorem repeated_submission_follows :
    Along intentStep (fun w c => c.ReturnsOwn InMemoryActionIntentRepository InMemoryActionLedgerRepository w)
        intentStart repeatedSubmission ∧
      Always intentStep (BoundOnce InMemoryActionIntentRepository) intentStart repeatedSubmission := by
  apply (intents_follow_approvals_iff InMemoryActionIntentRepository InMemoryActionLedgerRepository
    repeatedSubmission (by decide) InMemoryActionLedgerRepository.empty).mpr
  refine ⟨?_,?_,trivial⟩
  · intro _ _ _ _ i r stored
    cases stored
  · intro _ _
    exact ⟨rfl,rfl,rfl,rfl⟩

/-- A dry run for one approval, then a real call for another one under the same key. -/
def keyTakenByDryRun : List IntentCall :=
  [intentCall .pending refundA "idem-1" true intentOne,intentCall .approved refundB "idem-1" false intentTwo]

/-- One approval under two keys. -/
def twoKeys : List IntentCall :=
  [intentCall .approved refundA "idem-1" false intentOne,intentCall .approved refundA "idem-2" false intentTwo]

/-- The real call gets the other approval's dry run, and the approval with two
keys gets two intents. -/
theorem foreign_and_double_intents :
    ¬ Along intentStep (fun w c => c.ReturnsOwn InMemoryActionIntentRepository InMemoryActionLedgerRepository w)
        intentStart keyTakenByDryRun ∧
      ¬ Always intentStep (BoundOnce InMemoryActionIntentRepository) intentStart twoKeys := by
  constructor
  · intro own
    have second := own.2.1 rfl _ rfl
    exact absurd second.1 (by decide)
  · intro always
    have final := always twoKeys [] rfl
    have same := final acmeContext.tenantId intentOne intentTwo _ _ rfl rfl rfl rfl rfl
    exact absurd same (by decide)

end samples
end RevPilot.Action
