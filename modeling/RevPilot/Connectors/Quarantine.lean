import RevPilot.Connectors.Lifecycle
import RevPilot.Library.PyValue

/-! The quarantine of payloads that drifted from their schema. Diverting one takes its connector
to QUARANTINED, and reprocessing the last one brings it back to ACTIVE. -/
namespace RevPilot.Connectors
open Library Shared

inductive DriftClassification : Type
  | compatible
  | benign
  | breaking
  deriving DecidableEq

structure DriftEvaluationResult where
  classification : DriftClassification
  reasons : List String

structure QuarantineRecord where
  quarantineId : UUIDv7
  tenantId : TenantId
  connectorId : UUIDv7
  payloadHash : String
  rawPayload : List (PyKey × PyValue)
  classification : DriftClassification
  reasons : List String
  quarantinedAt : UtcDateTime
  reprocessedAt : Option UtcDateTime := none
  mappingVersion : String := "1.0.0"

namespace ConnectorInstanceRecord
variable (record : ConnectorInstanceRecord)

/-- What a diverted payload does to its connector. -/
def divert (reasons : List String) (payloadHash : String) (now : UtcDateTime) : RecordChange Unit :=
  (transitionState { record with quarantineCount := record.quarantineCount + 1 } .schemaDrift
    ("Breaking schema drift: " ++ String.intercalate "; " reasons) now).andThen fun record =>
      record.transitionState .quarantined
        ("Payload " ++ String.ofList (payloadHash.toList.take 12) ++ " stored in quarantine") now

/-- What the last reprocessed payload does to its connector. -/
def restore (newMappingVersion : String) (now : UtcDateTime) : RecordChange Unit :=
  (record.transitionState .reconciliationRequired
    s!"All quarantined events reprocessed with mapping {newMappingVersion}" now).andThen fun record =>
      record.transitionState .active "Reconciliation completed; sync restored to normal polling" now

end ConnectorInstanceRecord

structure QuarantineService where
  lifecycleService : Option ConnectorLifecycleService := none
  quarantineRecords : Dict UUIDv7 QuarantineRecord := .empty

namespace QuarantineService
variable (s : QuarantineService)

/-- A call of the lifecycle service, if there is one. -/
def withLifecycle
    (change : ConnectorLifecycleService → ConnectorLifecycleService × Except ConnectorFault Unit) :
    QuarantineService × Except ConnectorFault Unit :=
  match s.lifecycleService with
  | none => (s,.ok ())
  | some lifecycle => ({ s with lifecycleService := some (change lifecycle).1 },(change lifecycle).2)

def putRecord (record : QuarantineRecord) (quarantineId : UUIDv7) : QuarantineService :=
  { s with quarantineRecords := s.quarantineRecords.set quarantineId record }

/-- The payload is stored before its connector is looked up. -/
def divertToQuarantine (sha256 : String → String) (quarantineId : UUIDv7) (tenantId : TenantId) (connectorId : UUIDv7)
    (rawPayload : List (PyKey × PyValue)) (evaluation : DriftEvaluationResult) (now : UtcDateTime) :
    QuarantineService × Except ConnectorFault UUIDv7 :=
  match (PyValue.dict rawPayload).dumps ⟨true,true⟩ PyValue.noDefault with
  | none => (s,.error (.raised .typeError))
  | some payloadText =>
    let payloadHash := sha256 payloadText
    let record : QuarantineRecord := {
      quarantineId := quarantineId
      tenantId := tenantId
      connectorId := connectorId
      payloadHash := payloadHash
      rawPayload := rawPayload
      classification := evaluation.classification
      reasons := evaluation.reasons
      quarantinedAt := now }
    let (after,result) := (s.putRecord record quarantineId).withLifecycle fun lifecycle =>
      lifecycle.onConnector connectorId fun connector => connector.divert evaluation.reasons payloadHash now
    (after,result.map fun _ => quarantineId)

def getQuarantineRecords (connectorId : UUIDv7) : List QuarantineRecord :=
  s.quarantineRecords.values.filter (fun record => record.connectorId = connectorId)

/-- `all_cleared` of the records of one connector. -/
def Reprocessed (connectorId : UUIDv7) : Prop :=
  ∀ record ∈ s.getQuarantineRecords connectorId, record.reprocessedAt ≠ none

instance (connectorId : UUIDv7) : Decidable (s.Reprocessed connectorId) :=
  inferInstanceAs (Decidable (∀ record ∈ s.getQuarantineRecords connectorId, record.reprocessedAt ≠ none))

/-- The record with the mapping it is reprocessed with. -/
def mark (record : QuarantineRecord) (quarantineId : UUIDv7) (newMappingVersion : String) (now : UtcDateTime) :
    QuarantineService :=
  s.putRecord { record with reprocessedAt := some now, mappingVersion := newMappingVersion } quarantineId

def reprocessQuarantine (quarantineId : UUIDv7) (newMappingVersion : String) (now : UtcDateTime) :
    QuarantineService × Except ConnectorFault Unit :=
  match s.quarantineRecords.get? quarantineId with
  | none => (s,.error (.raised .valueError))
  | some record =>
    let marked := s.mark record quarantineId newMappingVersion now
    if marked.Reprocessed record.connectorId then
      marked.withLifecycle fun lifecycle =>
        lifecycle.onConnector record.connectorId fun connector => connector.restore newMappingVersion now
    else (marked,.ok ())

end QuarantineService

section transitions
variable {record : ConnectorInstanceRecord}

/-- Only an active or drifted connector takes a diverted payload. -/
theorem divert_cases (record : ConnectorInstanceRecord) (reasons : List String) (payloadHash : String) (now : UtcDateTime) :
    ((record.status = .active ∨ record.status = .schemaDrift) ∧
        (record.divert reasons payloadHash now).2 = .ok () ∧
        (record.divert reasons payloadHash now).1.status = .quarantined) ∨
      (¬ (record.status = .active ∨ record.status = .schemaDrift) ∧
        ∃ fault, (record.divert reasons payloadHash now).2 = .error fault) := by
  cases status : record.status <;>
    simp [ConnectorInstanceRecord.divert,ConnectorInstanceRecord.transitionState,RecordChange.andThen,status,
      ConnectorStatus.validTransitions]

/-- Only a quarantined connector, or one in reconciliation, is restored. -/
theorem restore_cases (record : ConnectorInstanceRecord) (newMappingVersion : String) (now : UtcDateTime) :
    ((record.status = .quarantined ∨ record.status = .reconciliationRequired) ∧
        (record.restore newMappingVersion now).2 = .ok ()) ∨
      (¬ (record.status = .quarantined ∨ record.status = .reconciliationRequired) ∧
        ∃ fault, record.restore newMappingVersion now = (record,.error fault)) := by
  cases status : record.status <;>
    simp [ConnectorInstanceRecord.restore,ConnectorInstanceRecord.transitionState,RecordChange.andThen,status,
      ConnectorStatus.validTransitions]

end transitions

section records
variable (s : QuarantineService)

theorem mem_getQuarantineRecords {connectorId : UUIDv7} {record : QuarantineRecord} :
    record ∈ s.getQuarantineRecords connectorId ↔
      (∃ quarantineId, s.quarantineRecords.get? quarantineId = some record) ∧ record.connectorId = connectorId := by
  simp only [QuarantineService.getQuarantineRecords,List.mem_filter,Dict.mem_values_iff,decide_eq_true_eq]

/-- A stored record leaves the records of the other connectors alone. -/
theorem putRecord_reprocessed {connectorId quarantineId : UUIDv7} {record : QuarantineRecord}
    (done : s.Reprocessed connectorId) (spared : record.connectorId = connectorId → record.reprocessedAt ≠ none) :
    (s.putRecord record quarantineId).Reprocessed connectorId := by
  intro found member
  obtain ⟨⟨key,stored⟩,own⟩ := (mem_getQuarantineRecords _).mp member
  change (s.quarantineRecords.set quarantineId record).get? key = some found at stored
  rw [Dict.get?_set] at stored
  split at stored
  · obtain rfl : record = found := Option.some.inj stored
    exact spared own
  · exact done found ((mem_getQuarantineRecords s).mpr ⟨⟨key,stored⟩,own⟩)

end records
end RevPilot.Connectors
