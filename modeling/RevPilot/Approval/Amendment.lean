import RevPilot.Approval.Authority
import RevPilot.Approval.Interleaving
import RevPilot.Approval.PayloadBinding

/-! What an amendment that raises leaves behind. The original is superseded before
the request that replaces it is known to be well formed. -/
namespace RevPilot.Approval
open Library Shared Program ApprovalService

/-- `json.dumps` has a text for the payload. -/
def Writable (payload : Payload) : Prop := (payload.value.toTree PyValue.noDefault).isSome = true

instance (payload : Payload) : Decidable (Writable payload) := inferInstanceAs (Decidable (_ = true))

section digest
variable (sha256 : String → String)

/-- The canonical object has a tree when its payload has one. -/
theorem canonical_tree (actionType : String) (targets : List String) (payload : Payload) (cost : Decimal) :
    ((ApprovalDigestHasher.canonical actionType targets payload cost).toTree PyValue.noDefault).isSome = true ↔
      Writable payload := by
  rw [canonical_toTree ⟨actionType,targets,payload,cost⟩,Option.isSome_map]
  rfl

theorem computePayloadDigest_ok_iff (actionType : String) (targets : List String) (payload : Payload) (cost : Decimal) :
    (∃ digest, ApprovalDigestHasher.computePayloadDigest sha256 actionType targets payload cost = .ok digest) ↔
      Writable payload := by
  rw [← canonical_tree actionType targets payload cost]
  unfold ApprovalDigestHasher.computePayloadDigest digestOf PyValue.dumps
  cases (ApprovalDigestHasher.canonical actionType targets payload cost).toTree PyValue.noDefault with
  | none => simp
  | some tree => simp

end digest

/-- The request that is to replace the original can be built. -/
structure Replaceable (args : Amend) (now : UtcDateTime) (original : ApprovalRequestRecord) : Prop where
  writable : Writable args.newPayload
  cost : (args.newCostUsd.getD original.estimatedCostUsd).nonNegative = true
  expiry : now.plusHours 24 ≠ none

/-- The statuses that `amend_request` refuses. -/
def Closed (status : ApprovalStatus) : Prop := status = .executing ∨ status = .completed ∨ status = .superseded

section amend
variable (sha256 : String → String) (tenantId : TenantId) (approvalId : UUIDv7) (args : Amend) (now : UtcDateTime)
  (newId : UUIDv7)

theorem expiryAfter_ok_iff : (∃ expiry, expiryAfter now 24 = .ok expiry) ↔ now.plusHours 24 ≠ none := by
  unfold expiryAfter
  cases now.plusHours 24 <;> simp

theorem successor_ok_iff (original : ApprovalRequestRecord) :
    (∃ record, successor sha256 tenantId original args now newId = .ok record) ↔ Replaceable args now original := by
  have written := computePayloadDigest_ok_iff sha256 original.actionType
    (args.newTargetEntities.getD original.targetEntityRefs) args.newPayload
    (args.newCostUsd.getD original.estimatedCostUsd)
  have timely := expiryAfter_ok_iff now
  constructor
  · rintro ⟨record,built⟩
    unfold successor at built
    cases digest : ApprovalDigestHasher.computePayloadDigest sha256 original.actionType
        (args.newTargetEntities.getD original.targetEntityRefs) args.newPayload
        (args.newCostUsd.getD original.estimatedCostUsd) with
    | error e => simp [digest,bind,Except.bind] at built
    | ok payloadDigest =>
    cases tier : computeRequiredTier original.riskTier (args.newCostUsd.getD original.estimatedCostUsd) with
    | error e => simp [digest,tier,bind,Except.bind] at built
    | ok requiredTier =>
    cases expiry : expiryAfter now 24 with
    | error e => simp [digest,tier,expiry,bind,Except.bind] at built
    | ok expiryTime =>
    by_cases bounds : (args.newCostUsd.getD original.estimatedCostUsd).nonNegative = true ∧
        1 ≤ requiredTier ∧ requiredTier ≤ 3
    · exact ⟨written.mp ⟨_,digest⟩,bounds.1,timely.mp ⟨_,expiry⟩⟩
    · simp [digest,tier,expiry,bounds,bind,Except.bind,throw,throwThe,MonadExceptOf.throw] at built
  · rintro ⟨payload,cost,late⟩
    obtain ⟨payloadDigest,digest⟩ := written.mpr payload
    obtain ⟨expiryTime,expiry⟩ := timely.mpr late
    obtain ⟨v,number,_⟩ := Decimal.nonNegative_value cost
    have tier := computeRequiredTier_value original.riskTier number
    have bounds := tierOf_bounds original.riskTier v
    unfold successor
    simp [digest,tier,expiry,cost,bounds,bind,Except.bind,pure,Except.pure]

variable {S : Type} (repo : ApprovalRepository S)

/-- A call that raises leaves every record as it was. -/
def Atomic (s : S) (outcome : Except PyError (ApprovalRequestRecord × ApprovalRequestRecord) × S) : Prop :=
  ∀ error, outcome.1 = .error error → ∀ t a, repo.get outcome.2 t a = repo.get s t a

theorem exec_amendRequest (s : S) :
    (amendRequest sha256 tenantId approvalId args now newId).exec repo.serve s =
      match repo.get s tenantId approvalId with
      | none => (.error notFound,s)
      | some original => (amendRecord sha256 tenantId args now newId original).exec repo.serve s := by
  simp only [amendRequest,withRecord,Prog.call_bind,Prog.exec_await,ApprovalRepository.serve]
  cases repo.get s tenantId approvalId <;> rfl

/-- The original as `amend_request` writes it first. -/
def superseded (original : ApprovalRequestRecord) : ApprovalRequestRecord :=
  { original with
    status := .superseded
    supersededBy := some newId }

theorem exec_amendRecord_refused {original : ApprovalRequestRecord} (closed : Closed original.status) (s : S) :
    ∃ error, (amendRecord sha256 tenantId args now newId original).exec repo.serve s = (.error error,s) := by
  unfold amendRecord
  unfold Closed at closed
  rw [if_pos closed]
  exact ⟨_,rfl⟩

theorem exec_amendRecord {original : ApprovalRequestRecord} (free : ¬ Closed original.status) (s : S) :
    (amendRecord sha256 tenantId args now newId original).exec repo.serve s =
      match successor sha256 tenantId original args now newId with
      | .ok record => (.ok (superseded newId original,record),
          repo.save (repo.update s (superseded newId original)) record)
      | .error error => (.error error,repo.update s (superseded newId original)) := by
  unfold amendRecord
  unfold Closed at free
  rw [if_neg free]
  cases successor sha256 tenantId original args now newId <;> rfl

/-- The original of a replacement that cannot be built is stored as superseded, which it was not. -/
theorem not_atomic {s : S} {original : ApprovalRequestRecord} (found : repo.get s tenantId approvalId = some original)
    (free : ¬ Closed original.status) (spoiled : ¬ Replaceable args now original) :
    ¬ Atomic repo s ((amendRequest sha256 tenantId approvalId args now newId).exec repo.serve s) := by
  intro atomic
  rw [exec_amendRequest,found] at atomic
  dsimp only at atomic
  rw [exec_amendRecord sha256 tenantId args now newId repo free] at atomic
  cases built : successor sha256 tenantId original args now newId with
  | ok record => exact spoiled ((successor_ok_iff sha256 tenantId args now newId original).mp ⟨record,built⟩)
  | error error =>
    rw [built] at atomic
    have kept := atomic error rfl tenantId approvalId
    obtain ⟨rfl,rfl⟩ := repo.get_keyed found
    have stored : repo.get s (superseded newId original).tenantId (superseded newId original).approvalId ≠ none := by
      simp [superseded,found]
    have after := repo.get_update_self s (superseded newId original) stored
    have same : superseded newId original = original := Option.some.inj (after.symm.trans (kept.trans found))
    have status : original.status = .superseded := (congrArg (·.status) same).symm
    exact free (.inr (.inr status))

theorem amend_atomic_iff (s : S) :
    Atomic repo s ((amendRequest sha256 tenantId approvalId args now newId).exec repo.serve s) ↔
      ∀ original, repo.get s tenantId approvalId = some original → ¬ Closed original.status →
        Replaceable args now original := by
  constructor
  · intro atomic original found free
    by_contra spoiled
    exact not_atomic sha256 tenantId approvalId args now newId repo found free spoiled atomic
  · intro replaceable error raised t a
    rw [exec_amendRequest] at raised ⊢
    cases found : repo.get s tenantId approvalId with
    | none => rfl
    | some original =>
      rw [found] at raised
      dsimp only at raised ⊢
      by_cases closed : Closed original.status
      · obtain ⟨e,refused⟩ := exec_amendRecord_refused sha256 tenantId args now newId repo closed s
        rw [refused]
      · obtain ⟨record,built⟩ := (successor_ok_iff sha256 tenantId args now newId original).mpr
          (replaceable original found closed)
        rw [exec_amendRecord sha256 tenantId args now newId repo closed,built] at raised
        cases raised

end amend

/-- A refund whose amended cost is below zero. -/
def negativeAmend : Amend where
  modifierPrincipalId := "usr_planner"
  newPayload := .empty
  newCostUsd := some (.finite true 100 (-2))

def replacementId : UUIDv7 := ⟨"01890a5d-ac96-774b-bcce-b302099a8060"⟩

theorem refused_amend_supersedes :
    ¬ Atomic InMemoryApprovalRepository pendingRefund
      ((amendRequest id acme refundId negativeAmend ⟨1⟩ replacementId).exec InMemoryApprovalRepository.serve
        pendingRefund) := by
  have waiting : InMemoryApprovalRepository.statusOf pendingRefund acme refundId = some .pending := by
    decide +kernel
  obtain ⟨original,found,pending⟩ := Option.map_eq_some_iff.mp waiting
  apply not_atomic id acme refundId negativeAmend ⟨1⟩ replacementId _ found
  · rw [pending]
    simp [Closed]
  · intro replaceable
    cases replaceable.cost

end RevPilot.Approval
