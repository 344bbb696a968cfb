import RevPilot.Finops.Quota
import RevPilot.Library.Runs
import RevPilot.Library.Separators
import Mathlib.Data.List.Forall2

/-! Usage metering: an append-only ledger of attributed records, keyed for idempotency by tenant
and key. -/
namespace RevPilot.Finops
open Library Shared Runs

inductive MeteringUnit : Type
  | tokens
  | calls
  | seconds
  | bytes
  | actions
  deriving DecidableEq

def MeteringUnit.value : MeteringUnit → String
  | tokens => "tokens"
  | calls => "calls"
  | seconds => "seconds"
  | bytes => "bytes"
  | actions => "actions"

inductive ReconciliationStatus : Type
  | estimated
  | confirmed
  | reconciled
  | discrepancy
  deriving DecidableEq

def duplicateUsageError (idempotencyKey : String) : QuotaFailure :=
  .quota ("Duplicate usage record rejected for idempotency key '" ++ idempotencyKey ++ "'") "DUPLICATE_USAGE" 409

structure UsageRecord where
  usageId : UUIDv7
  tenantId : TenantId
  principalId : PrincipalId
  investigationId : Option UUIDv7 := none
  workflowId : Option String := none
  agentName : Option String := none
  modelOrToolName : String := "claude-3-5-sonnet"
  connectorId : Option UUIDv7 := none
  unit : MeteringUnit
  quantity : Decimal
  estimatedProviderCostUsd : Decimal
  currency : String := "USD"
  reconciliationStatus : ReconciliationStatus := .estimated
  idempotencyKey : String
  recordedAt : UtcDateTime
  recordHash : String
  quantityAccepted : quantity.value.isSome = true
  costAccepted : estimatedProviderCostUsd.value.isSome = true

structure MeteringService where
  ledger : Dict String UsageRecord := .empty
  idempotencyIndex : List String := []

/-- A call of `record_usage` with the identifier and the instant it generates. -/
structure UsageCall where
  usageId : UUIDv7
  now : UtcDateTime
  tenantId : TenantId
  principalId : PrincipalId
  dimension : MeteringUnit
  quantity : Decimal
  estimatedCost : Decimal
  idempotencyKey : String
  investigationId : Option UUIDv7 := none
  workflowId : Option String := none
  agentName : Option String := none
  modelOrToolName : String := "claude-3-5-sonnet"
  connectorId : Option UUIDv7 := none

def UsageCall.indexKey (call : UsageCall) : String := call.tenantId.value ++ ":" ++ call.idempotencyKey

def UsageCall.rawSig (call : UsageCall) : String :=
  call.usageId.value ++ ":" ++ call.tenantId.value ++ ":" ++ call.principalId.value ++ ":" ++
    (call.investigationId.map UUIDv7.value).getD "none" ++ ":" ++ call.dimension.value ++ ":" ++
    call.quantity.toText ++ ":" ++ call.estimatedCost.toText ++ ":" ++ call.idempotencyKey ++ ":" ++ call.now.isoformat

namespace MeteringService
variable (sha256 : String → String)

def recordUsage (s : MeteringService) (call : UsageCall) : Except QuotaFailure UUIDv7 × MeteringService :=
  if call.indexKey ∈ s.idempotencyIndex then (.error (duplicateUsageError call.idempotencyKey),s)
  else if accepted : call.quantity.value.isSome = true ∧ call.estimatedCost.value.isSome = true then
    let record : UsageRecord :=
      { usageId := call.usageId
        tenantId := call.tenantId
        principalId := call.principalId
        investigationId := call.investigationId
        workflowId := call.workflowId
        agentName := call.agentName
        modelOrToolName := call.modelOrToolName
        connectorId := call.connectorId
        unit := call.dimension
        quantity := call.quantity
        estimatedProviderCostUsd := call.estimatedCost
        idempotencyKey := call.idempotencyKey
        recordedAt := call.now
        recordHash := sha256 call.rawSig
        quantityAccepted := accepted.1
        costAccepted := accepted.2 }
    (.ok call.usageId,⟨s.ledger.set call.usageId.value record,call.indexKey :: s.idempotencyIndex⟩)
  else (.error .validationError,s)

def getUsageRecord (s : MeteringService) (usageId : UUIDv7) : Except QuotaFailure UsageRecord :=
  match s.ledger.get? usageId.value with
  | some record => .ok record
  | none => .error (.valueError ("Usage record '" ++ usageId.value ++ "' not found"))

def listUsageRecords (s : MeteringService) (tenantId : TenantId) (investigationId : Option UUIDv7 := none) :
    List UsageRecord :=
  s.ledger.values.filter (fun rec => rec.tenantId.value = tenantId.value ∧
    (investigationId = none ∨ ∃ own ∈ rec.investigationId, ∃ asked ∈ investigationId, own.value = asked.value))

end MeteringService

/-- The record has the attributes that the call gives. -/
structure Attributed (sha256 : String → String) (call : UsageCall) (record : UsageRecord) : Prop where
  usageId : record.usageId = call.usageId
  tenantId : record.tenantId = call.tenantId
  principalId : record.principalId = call.principalId
  investigationId : record.investigationId = call.investigationId
  workflowId : record.workflowId = call.workflowId
  agentName : record.agentName = call.agentName
  modelOrToolName : record.modelOrToolName = call.modelOrToolName
  connectorId : record.connectorId = call.connectorId
  unit : record.unit = call.dimension
  quantity : record.quantity = call.quantity
  estimatedProviderCostUsd : record.estimatedProviderCostUsd = call.estimatedCost
  currency : record.currency = "USD"
  reconciliationStatus : record.reconciliationStatus = .estimated
  idempotencyKey : record.idempotencyKey = call.idempotencyKey
  recordedAt : record.recordedAt = call.now
  recordHash : record.recordHash = sha256 call.rawSig

section runs
open MeteringService
variable (sha256 : String → String)

def meteringStep (s : MeteringService) (call : UsageCall) : MeteringService := (s.recordUsage sha256 call).2

/-- The calls of a run that return an identifier, in their order. -/
def acceptedCalls (s : MeteringService) : List UsageCall → List UsageCall
  | [] => []
  | call :: calls =>
    match (s.recordUsage sha256 call).1 with
    | .ok _ => call :: acceptedCalls (meteringStep sha256 s call) calls
    | .error _ => acceptedCalls (meteringStep sha256 s call) calls

def SamePair (a b : UsageCall) : Prop := a.tenantId = b.tenantId ∧ a.idempotencyKey = b.idempotencyKey

/-- The ledger holds one record for each of the calls, in their order, and the index their keys. -/
structure Holds (s : MeteringService) (calls : List UsageCall) : Prop where
  ledger : List.Forall₂ (fun call entry => entry.1 = call.usageId.value ∧ Attributed sha256 call entry.2) calls s.ledger.entries
  index : ∀ key, key ∈ s.idempotencyIndex ↔ ∃ call ∈ calls, call.indexKey = key

variable {sha256} {s : MeteringService} {call : UsageCall} {held : List UsageCall}

theorem tenant_ext {a b : TenantId} (same : a.value = b.value) : a = b := by
  cases a
  cases b
  congr

/-- The tenant has no colon, so the joined key determines the pair. -/
theorem indexKey_eq_iff (a b : UsageCall) : a.indexKey = b.indexKey ↔ SamePair a b := by
  constructor
  · intro same
    have texts := congrArg String.toList same
    have colon : ":".toList = [':'] := rfl
    simp only [UsageCall.indexKey,String.toList_append,colon,List.append_assoc,List.cons_append,List.nil_append] at texts
    obtain ⟨tenants,keys⟩ := Separators.head_unique (identifier_free a.tenantId) (identifier_free b.tenantId) texts
    refine ⟨?_,String.toList_injective keys⟩
    exact tenant_ext (String.toList_injective tenants)
  · rintro ⟨tenants,keys⟩
    rw [UsageCall.indexKey,tenants,keys,UsageCall.indexKey]

theorem recordUsage_cases (s : MeteringService) (call : UsageCall) :
    (call.indexKey ∈ s.idempotencyIndex ∧
      s.recordUsage sha256 call = (.error (duplicateUsageError call.idempotencyKey),s)) ∨
    (call.indexKey ∉ s.idempotencyIndex ∧ s.recordUsage sha256 call = (.error .validationError,s)) ∨
    ∃ record, call.indexKey ∉ s.idempotencyIndex ∧ Attributed sha256 call record ∧ s.recordUsage sha256 call =
      (.ok call.usageId,⟨s.ledger.set call.usageId.value record,call.indexKey :: s.idempotencyIndex⟩) := by
  unfold recordUsage
  by_cases seen : call.indexKey ∈ s.idempotencyIndex
  · exact .inl ⟨seen,if_pos seen⟩
  · rw [if_neg seen]
    by_cases accepted : call.quantity.value.isSome = true ∧ call.estimatedCost.value.isSome = true
    · rw [dif_pos accepted]
      exact .inr (.inr ⟨_,seen,⟨rfl,rfl,rfl,rfl,rfl,rfl,rfl,rfl,rfl,rfl,rfl,rfl,rfl,rfl,rfl,rfl⟩,rfl⟩)
    · rw [dif_neg accepted]
      exact .inr (.inl ⟨seen,rfl⟩)

/-- A raising call changes nothing. -/
theorem raising_unchanged {fault : QuotaFailure} (raised : (s.recordUsage sha256 call).1 = .error fault) :
    (s.recordUsage sha256 call).2 = s := by
  rcases recordUsage_cases s call with ⟨_,served⟩ | ⟨_,served⟩ | ⟨record,_,_,served⟩
  · rw [served]
  · rw [served]
  · rw [served] at raised
    cases raised

theorem raises_duplicate_iff (s : MeteringService) (call : UsageCall) :
    (s.recordUsage sha256 call).1 = .error (duplicateUsageError call.idempotencyKey) ↔
      call.indexKey ∈ s.idempotencyIndex := by
  rcases @recordUsage_cases sha256 s call with ⟨seen,served⟩ | ⟨new,served⟩ | ⟨record,new,_,served⟩
  · rw [served]
    exact iff_of_true rfl seen
  · rw [served]
    exact iff_of_false nofun new
  · rw [served]
    exact iff_of_false nofun new

theorem holds_keys (holds : Holds sha256 s held) : s.ledger.keys = held.map (fun call => call.usageId.value) := by
  have keyed := holds.ledger
  clear holds
  unfold Dict.keys
  generalize s.ledger.entries = entries at keyed
  induction keyed with
  | nil => rfl
  | cons entry rest ih => rw [List.map_cons,List.map_cons,entry.1,ih]

/-- A run adds the calls it accepts to what the service holds. -/
theorem holds_run (holds : Holds sha256 s held) (calls : List UsageCall)
    (fresh : ((held ++ calls).map UsageCall.usageId).Nodup) :
    Holds sha256 (run (meteringStep sha256) s calls) (held ++ acceptedCalls sha256 s calls) := by
  induction calls generalizing s held with
  | nil => simpa [acceptedCalls] using holds
  | cons call calls ih =>
    have skipped (unchanged : (s.recordUsage sha256 call).2 = s) :
        Holds sha256 (run (meteringStep sha256) s (call :: calls)) (held ++ acceptedCalls sha256 s calls) := by
      rw [run_cons,meteringStep,unchanged]
      apply ih holds
      have fewer : List.Sublist (held ++ calls) (held ++ call :: calls) :=
        List.Sublist.append_left (List.sublist_cons_self call calls) held
      exact (fewer.map UsageCall.usageId).nodup fresh
    rcases @recordUsage_cases sha256 s call with ⟨_,served⟩ | ⟨_,served⟩ | ⟨record,_,attributed,served⟩
    · have next : acceptedCalls sha256 s (call :: calls) = acceptedCalls sha256 s calls := by
        simp only [acceptedCalls,meteringStep,served]
      rw [next]
      exact skipped (congrArg Prod.snd served)
    · have next : acceptedCalls sha256 s (call :: calls) = acceptedCalls sha256 s calls := by
        simp only [acceptedCalls,meteringStep,served]
      rw [next]
      exact skipped (congrArg Prod.snd served)
    · have next : acceptedCalls sha256 s (call :: calls) = call :: acceptedCalls sha256 (meteringStep sha256 s call) calls := by
        simp only [acceptedCalls,served]
      have absent : call.usageId.value ∉ s.ledger.keys := by
        rw [holds_keys holds]
        intro known
        obtain ⟨earlier,inside,same⟩ := List.mem_map.mp known
        rw [List.map_append,List.map_cons] at fresh
        have apart := (List.nodup_append.mp fresh).2.2 earlier.usageId (List.mem_map.mpr ⟨earlier,inside,rfl⟩) call.usageId
          List.mem_cons_self
        exact apart (congrArg UUIDv7.mk same)
      have logged : Holds sha256 (meteringStep sha256 s call) (held ++ [call]) := by
        have step : meteringStep sha256 s call =
            ⟨s.ledger.set call.usageId.value record,call.indexKey :: s.idempotencyIndex⟩ := congrArg Prod.snd served
        rw [step]
        constructor
        · rw [Dict.entries_set_absent s.ledger absent record]
          exact List.rel_append holds.ledger (.cons ⟨rfl,attributed⟩ .nil)
        · intro key
          rw [List.mem_cons,holds.index key]
          simp only [List.mem_append,List.mem_singleton]
          constructor
          · rintro (rfl | ⟨earlier,inside,same⟩)
            · exact ⟨call,.inr rfl,rfl⟩
            · exact ⟨earlier,.inl inside,same⟩
          · rintro ⟨earlier,inside | rfl,same⟩
            · exact .inr ⟨earlier,inside,same⟩
            · exact .inl same.symm
      have rest := @ih (meteringStep sha256 s call) (held ++ [call]) logged (by simpa using fresh)
      rw [next]
      simpa using rest

theorem holds_listed (holds : Holds sha256 s held) (tenantId : TenantId) :
    List.Forall₂ (Attributed sha256) (held.filter (fun call => call.tenantId = tenantId)) (s.listUsageRecords tenantId) := by
  have records : List.Forall₂ (Attributed sha256) held s.ledger.values :=
    List.forall₂_map_right_iff.mpr (holds.ledger.imp (fun _ _ keyed => keyed.2))
  unfold listUsageRecords
  apply List.rel_filter _ records
  intro call record attributed
  simp only [attributed.tenantId,true_or,and_true,decide_eq_true_eq]
  exact ⟨congrArg EntityId.value,tenant_ext⟩

/-- In every run a call is refused as a duplicate exactly if an earlier accepted call had its tenant
and key, a raising call changes nothing, and each tenant's records are its accepted calls in order. -/
theorem usage_logged_once (calls : List UsageCall) (fresh : (calls.map UsageCall.usageId).Nodup) :
    (∀ before call after, calls = before ++ call :: after →
      (((run (meteringStep sha256) {} before).recordUsage sha256 call).1 =
          .error (duplicateUsageError call.idempotencyKey) ↔
        ∃ earlier ∈ acceptedCalls sha256 {} before, SamePair earlier call) ∧
      ∀ fault, ((run (meteringStep sha256) {} before).recordUsage sha256 call).1 = .error fault →
        ((run (meteringStep sha256) {} before).recordUsage sha256 call).2 = run (meteringStep sha256) {} before) ∧
    ∀ tenantId, List.Forall₂ (Attributed sha256)
      ((acceptedCalls sha256 {} calls).filter (fun call => call.tenantId = tenantId))
      ((run (meteringStep sha256) {} calls).listUsageRecords tenantId) := by
  have empty : Holds sha256 {} [] := ⟨.nil,fun key => by simp⟩
  constructor
  · intro before call after split
    have distinct : ((([] : List UsageCall) ++ before).map UsageCall.usageId).Nodup := by
      rw [split,List.map_append] at fresh
      exact (List.nodup_append.mp fresh).1
    have holds := holds_run empty before distinct
    refine ⟨?_,fun fault raised => raising_unchanged raised⟩
    rw [raises_duplicate_iff,holds.index]
    exact exists_congr fun earlier => and_congr_right fun _ => indexKey_eq_iff earlier call
  · intro tenantId
    exact holds_listed (holds_run empty calls fresh) tenantId

end runs

section examples

def spend (usageId tenant idempotencyKey : String) (accepted : acceptsIdentifier "tnt_" tenant = true) : UsageCall where
  usageId := ⟨usageId⟩
  now := ⟨0⟩
  tenantId := ⟨tenant,accepted⟩
  principalId := ⟨"usr_a",Eq.refl true⟩
  dimension := .tokens
  quantity := .finite false 1200 0
  estimatedCost := .ofCents 2
  idempotencyKey := idempotencyKey

def acmeAndBeta : List UsageCall :=
  [spend "01920000-0000-7000-8000-000000000001" "tnt_acme" "call:1" (by decide),
    spend "01920000-0000-7000-8000-000000000002" "tnt_beta" "call:1" (by decide),
    spend "01920000-0000-7000-8000-000000000003" "tnt_acme" "call:1" (by decide)]

theorem acme_and_beta_logged : List.Forall₂ (Attributed (fun _ => ""))
    ((acceptedCalls (fun _ => "") {} acmeAndBeta).filter (fun call => call.tenantId = ⟨"tnt_acme",Eq.refl true⟩))
    ((run (meteringStep (fun _ => "")) {} acmeAndBeta).listUsageRecords ⟨"tnt_acme",Eq.refl true⟩) :=
  (usage_logged_once acmeAndBeta (by decide)).2 _

example : (acceptedCalls (fun _ => "") {} acmeAndBeta).length = 2 := by decide +kernel

end examples
end RevPilot.Finops
