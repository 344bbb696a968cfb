import RevPilot.Connectors.Quarantine
import RevPilot.Library.Runs

/-! The quarantine and the lifecycle over one run: an active connector has nothing left in
quarantine. -/
namespace RevPilot.Connectors
open Library Shared Runs

inductive QuarantineOp : Type
  | lifecycle (op : LifecycleOp)
  | divert (quarantineId : UUIDv7) (tenantId : TenantId) (connectorId : UUIDv7) (rawPayload : List (PyKey × PyValue))
      (evaluation : DriftEvaluationResult)
  | reprocess (quarantineId : UUIDv7) (newMappingVersion : String)

structure QuarantineCall where
  op : QuarantineOp
  now : UtcDateTime

variable (sha256 : String → String)

def QuarantineService.serve (s : QuarantineService) (call : QuarantineCall) :
    QuarantineService × Except ConnectorFault Unit :=
  match call.op with
  | .lifecycle op => s.withLifecycle fun lifecycle => lifecycle.serve op call.now
  | .divert quarantineId tenantId connectorId rawPayload evaluation =>
    let (after,result) := s.divertToQuarantine sha256 quarantineId tenantId connectorId rawPayload evaluation call.now
    (after,result.map fun _ => ())
  | .reprocess quarantineId newMappingVersion => s.reprocessQuarantine quarantineId newMappingVersion call.now

def quarantineStep (s : QuarantineService) (call : QuarantineCall) : QuarantineService := (s.serve sha256 call).1

def QuarantineService.connector (s : QuarantineService) (connectorId : UUIDv7) : Option ConnectorInstanceRecord :=
  s.lifecycleService.bind fun lifecycle => lifecycle.connectors.get? connectorId

/-- Whatever an active connector had in quarantine was reprocessed. -/
def ActiveCleared (s : QuarantineService) : Prop :=
  ∀ connectorId record, s.connector connectorId = some record → record.status = .active → s.Reprocessed connectorId

/-- A diversion or a reprocessing that raises changes nothing. -/
def FailsCleanly (s : QuarantineService) (call : QuarantineCall) : Prop :=
  match call.op with
  | .lifecycle _ => True
  | _ => ∀ fault, (s.serve sha256 call).2 = .error fault → quarantineStep sha256 s call = s

/-- The method takes its connector to ACTIVE. -/
def ConnectorMethod.Activates (record : ConnectorInstanceRecord) : ConnectorMethod → Prop
  | transitionState newStatus _ => newStatus = .active ∧ .active ∈ record.status.validTransitions
  | validateConnectivity probe =>
    probe = some true ∧ (record.status = .validating ∨ .validating ∈ record.status.validTransitions)
  | recordHealthRecovery => record.status = .degraded
  | _ => False

/-- Payloads are diverted only from active or drifted connectors, the last record is reprocessed
only for a connector that waits for it, and nothing else activates a connector before. -/
def KeepsOrder (s : QuarantineService) (call : QuarantineCall) : Prop :=
  match call.op with
  | .lifecycle (.registerConnector _ _ _ _ _ _) => True
  | .lifecycle (.onConnector connectorId method) =>
    ∀ record, s.connector connectorId = some record → method.Activates record → s.Reprocessed connectorId
  | .divert _ _ connectorId rawPayload _ =>
    s.lifecycleService = none ∨ (PyValue.dict rawPayload).dumps ⟨true,true⟩ PyValue.noDefault = none ∨
      ∃ record, s.connector connectorId = some record ∧ (record.status = .active ∨ record.status = .schemaDrift)
  | .reprocess quarantineId newMappingVersion =>
    ∀ record, s.quarantineRecords.get? quarantineId = some record →
      (s.mark record quarantineId newMappingVersion call.now).Reprocessed record.connectorId →
        s.lifecycleService = none ∨ s.mark record quarantineId newMappingVersion call.now = s ∨
          ∃ connector, s.connector record.connectorId = some connector ∧
            (connector.status = .quarantined ∨ connector.status = .reconciliationRequired)

def generatedQuarantine (call : QuarantineCall) : Option UUIDv7 :=
  match call.op with
  | .divert quarantineId _ _ _ _ => some quarantineId
  | _ => none

def NewQuarantine (s : QuarantineService) (call : QuarantineCall) : Prop :=
  ∀ quarantineId, generatedQuarantine call = some quarantineId → ¬ s.quarantineRecords.get? quarantineId ≠ none

section methods
variable {record : ConnectorInstanceRecord}

theorem transition_active (newStatus : ConnectorStatus) (reason : String) (now : UtcDateTime) :
    (record.transitionState newStatus reason now).1.status = .active →
      record.status = .active ∨ (newStatus = .active ∧ .active ∈ record.status.validTransitions) := by
  rcases transitionState_cases record newStatus reason now with ⟨_,run⟩ | ⟨_,_,_,run⟩ | ⟨_,legal,run⟩
  · rw [run]
    exact .inl
  · rw [run]
    exact .inl
  · rw [run]
    intro active
    have active : newStatus = .active := active
    rw [active] at legal
    exact .inr ⟨active,legal⟩

theorem validate_active (probe : Option Bool) (now : UtcDateTime) :
    (record.validateConnectivity probe now).1.status = .active ↔
      (record.status = .active ∨ ConnectorMethod.Activates record (.validateConnectivity probe)) := by
  unfold ConnectorInstanceRecord.validateConnectivity ConnectorMethod.Activates
  cases status : record.status <;> by_cases healthy : probe = some true <;>
    simp [healthy,ConnectorInstanceRecord.transitionState,RecordChange.andThen,status,ConnectorStatus.validTransitions]

/-- A connector that a method leaves active was active before, or the method activated it. -/
theorem method_active {method : ConnectorMethod} {now : UtcDateTime}
    (active : (method.apply now record).1.status = .active) : record.status = .active ∨ method.Activates record := by
  cases method with
  | configureCredentials secretRef scopes =>
    simp only [ConnectorMethod.apply,ConnectorInstanceRecord.configureCredentials] at active
    split at active
    · exact .inl active
    · exact (transition_active _ _ _ active).imp id (fun reached => by cases reached.1)
  | validateConnectivity probe => exact (validate_active probe now).mp active
  | transitionState newStatus reason => exact transition_active _ _ _ active
  | recordSyncSuccess cursor lagSeconds => exact .inl active
  | recordAuthFailure => exact (transition_active _ _ _ active).imp id (fun reached => by cases reached.1)
  | recordRateLimit =>
    simp only [ConnectorMethod.apply,ConnectorInstanceRecord.recordRateLimit] at active
    split at active
    · exact (transition_active _ _ _ active).imp id (fun reached => by cases reached.1)
    · exact .inl active
  | recordHealthRecovery =>
    simp only [ConnectorMethod.apply,ConnectorInstanceRecord.recordHealthRecovery] at active
    split at active
    · rename_i degraded
      exact .inr degraded
    · exact .inl active
  | deleteConnector =>
    apply Or.inl
    rcases transitionState_cases record .deleting "Connector teardown initiated" now with
      ⟨_,run⟩ | ⟨_,_,_,run⟩ | ⟨_,_,run⟩ <;>
    simp_all [ConnectorMethod.apply,ConnectorInstanceRecord.deleteConnector,RecordChange.andThen,
      ConnectorInstanceRecord.transitionState,ConnectorStatus.validTransitions]

theorem activates_active {method : ConnectorMethod} (activates : method.Activates record) (now : UtcDateTime) :
    (method.apply now record).1.status = .active := by
  cases method with
  | transitionState newStatus reason =>
    obtain ⟨rfl,legal⟩ := activates
    rcases transitionState_cases record .active reason now with ⟨same,run⟩ | ⟨_,illegal,_⟩ | ⟨_,_,run⟩
    · exact (congrArg (fun change => change.1.status) run).trans same
    · exact absurd legal illegal
    · exact congrArg (fun change => change.1.status) run
  | validateConnectivity probe => exact (validate_active probe now).mpr (.inr activates)
  | recordHealthRecovery =>
    have degraded : record.status = .degraded := activates
    simp [ConnectorMethod.apply,ConnectorInstanceRecord.recordHealthRecovery,ConnectorInstanceRecord.transitionState,
      degraded,ConnectorStatus.validTransitions]
  | _ => exact activates.elim

end methods

section steps
variable {s : QuarantineService} {call : QuarantineCall}

theorem reprocessed_congr {after : QuarantineService} (same : after.quarantineRecords = s.quarantineRecords)
    (connectorId : UUIDv7) : after.Reprocessed connectorId ↔ s.Reprocessed connectorId := by
  unfold QuarantineService.Reprocessed QuarantineService.getQuarantineRecords
  rw [same]

/-- All that a call on one connector does to the two services. -/
theorem withLifecycle_cases (s : QuarantineService) (connectorId : UUIDv7)
    (method : ConnectorInstanceRecord → RecordChange Unit) :
    (s.lifecycleService = none ∧
        s.withLifecycle (fun lifecycle => lifecycle.onConnector connectorId method) = (s,.ok ())) ∨
      (s.lifecycleService ≠ none ∧ s.connector connectorId = none ∧
        ∃ fault, s.withLifecycle (fun lifecycle => lifecycle.onConnector connectorId method) = (s,.error fault)) ∨
      ∃ record after, s.lifecycleService ≠ none ∧ s.connector connectorId = some record ∧
        s.withLifecycle (fun lifecycle => lifecycle.onConnector connectorId method) = (after,(method record).2) ∧
        after.quarantineRecords = s.quarantineRecords ∧
        (∀ other, after.connector other = if other = connectorId then some (method record).1 else s.connector other) ∧
        ((method record).1 = record → after = s) := by
  obtain ⟨service,records⟩ := s
  cases service with
  | none => exact .inl ⟨rfl,rfl⟩
  | some lifecycle =>
    right
    rcases onConnector_cases lifecycle connectorId method with ⟨fault,absent,run⟩ | ⟨record,stored,run⟩
    · refine .inl ⟨by simp,absent,fault,?_⟩
      simp only [QuarantineService.withLifecycle,run]
    · refine .inr ⟨record,⟨some ⟨lifecycle.connectors.set connectorId (method record).1⟩,records⟩,by simp,stored,?_,rfl,?_,?_⟩
      · simp only [QuarantineService.withLifecycle,run]
      · intro other
        exact Dict.get?_set lifecycle.connectors connectorId other (method record).1
      · intro unchanged
        rw [unchanged,Dict.set_same stored]

/-- After a call on one connector it is the only one to look at. -/
theorem cleared_after {after : QuarantineService} {connectorId : UUIDv7} {changed : ConnectorInstanceRecord}
    (cleared : ActiveCleared s)
    (connectors : ∀ other, after.connector other = if other = connectorId then some changed else s.connector other)
    (others : ∀ other, other ≠ connectorId → s.Reprocessed other → after.Reprocessed other) :
    ActiveCleared after ↔ (changed.status = .active → after.Reprocessed connectorId) := by
  constructor
  · intro kept active
    exact kept connectorId changed (by rw [connectors,if_pos rfl]) active
  · intro own other record stored active
    rw [connectors] at stored
    split at stored
    · rename_i same
      obtain rfl : changed = record := Option.some.inj stored
      rw [same]
      exact own active
    · rename_i apart
      exact others other apart (cleared other record stored active)

theorem lifecycle_step (op : LifecycleOp) (now : UtcDateTime) (cleared : ActiveCleared s) :
    KeepsOrder s ⟨.lifecycle op,now⟩ ↔ ActiveCleared (quarantineStep sha256 s ⟨.lifecycle op,now⟩) := by
  cases op with
  | registerConnector connectorId tenantId provider capability providerVersion authMethod =>
    refine iff_of_true trivial ?_
    obtain ⟨service,records⟩ := s
    cases service with
    | none => exact cleared
    | some lifecycle =>
      intro other record stored active
      change (lifecycle.connectors.set connectorId _).get? other = some record at stored
      rw [Dict.get?_set] at stored
      split at stored
      · cases stored
        cases active
      · exact cleared other record stored active
  | onConnector connectorId method =>
    change (∀ record, s.connector connectorId = some record → method.Activates record → s.Reprocessed connectorId) ↔ _
    have run : quarantineStep sha256 s ⟨.lifecycle (.onConnector connectorId method),now⟩ =
        (s.withLifecycle fun lifecycle => lifecycle.onConnector connectorId fun record => method.apply now record).1 := rfl
    rcases withLifecycle_cases s connectorId (fun record => method.apply now record) with
      ⟨absent,same⟩ | ⟨_,absent,fault,same⟩ | ⟨record,after,_,stored,same,records,connectors,_⟩
    · rw [run,same]
      refine iff_of_true ?_ cleared
      intro record stored
      rw [QuarantineService.connector,absent] at stored
      cases stored
    · rw [run,same]
      refine iff_of_true ?_ cleared
      intro record stored
      rw [absent] at stored
      cases stored
    · rw [run,same,cleared_after cleared connectors fun other _ => (reprocessed_congr records other).mpr,
        reprocessed_congr records]
      constructor
      · intro ordered active
        rcases method_active active with before | activates
        · exact cleared connectorId record stored before
        · exact ordered record stored activates
      · intro kept found known activates
        obtain rfl : record = found := Option.some.inj (stored.symm.trans known)
        exact kept (activates_active activates now)

theorem putRecord_changes {quarantineId : UUIDv7} {record : QuarantineRecord}
    (unused : s.quarantineRecords.get? quarantineId = none) :
    (s.putRecord record quarantineId).quarantineRecords ≠ s.quarantineRecords := by
  intro same
  have stored : (s.putRecord record quarantineId).quarantineRecords.get? quarantineId = some record :=
    Dict.get?_set_self s.quarantineRecords quarantineId record
  rw [same,unused] at stored
  cases stored

/-- What is stored before a call on a connector stays if the call raises. -/
theorem served_step {stored : QuarantineService} {connectorId : UUIDv7}
    {method : ConnectorInstanceRecord → RecordChange Unit} {Ready : ConnectorInstanceRecord → Prop}
    (attached : stored.lifecycleService = s.lifecycleService)
    (accepts : ∀ record,
      (Ready record ∧ (method record).2 = .ok () ∧ ((method record).1.status = .active → stored.Reprocessed connectorId)) ∨
        (¬ Ready record ∧ ∃ fault, (method record).2 = .error fault ∧ (stored = s → (method record).1 = record)))
    (others : ∀ other, other ≠ connectorId → s.Reprocessed other → stored.Reprocessed other) (cleared : ActiveCleared s) :
    (s.lifecycleService = none ∨ stored = s ∨ ∃ record, s.connector connectorId = some record ∧ Ready record) ↔
      (∀ fault, (stored.withLifecycle fun lifecycle => lifecycle.onConnector connectorId method).2 = .error fault →
          (stored.withLifecycle fun lifecycle => lifecycle.onConnector connectorId method).1 = s) ∧
        ActiveCleared (stored.withLifecycle fun lifecycle => lifecycle.onConnector connectorId method).1 := by
  have connector_eq : stored.connector = s.connector := by
    funext other
    rw [QuarantineService.connector,QuarantineService.connector,attached]
  rcases withLifecycle_cases stored connectorId method with
    ⟨absent,same⟩ | ⟨present,absent,fault,same⟩ | ⟨record,after,present,known,same,records,connectors,unchanged⟩
  · rw [same]
    refine iff_of_true (.inl (attached.symm.trans absent)) ⟨?_,?_⟩
    · intro fault raised
      cases raised
    · intro other found known
      rw [QuarantineService.connector,absent] at known
      cases known
  · rw [same]
    rw [connector_eq] at absent
    rw [attached] at present
    constructor
    · rintro (detached | kept | ⟨record,known,_⟩)
      · exact absurd detached present
      · exact ⟨fun _ _ => kept,kept.symm ▸ cleared⟩
      · rw [absent] at known
        cases known
    · intro clean
      exact .inr (.inl (clean.1 fault rfl))
  · rw [connector_eq] at known
    rw [attached] at present
    rw [same]
    rcases accepts record with ⟨ready,done,restored⟩ | ⟨unready,fault,failed,untouched⟩
    · refine iff_of_true (.inr (.inr ⟨record,known,ready⟩)) ⟨?_,?_⟩
      · intro fault raised
        rw [done] at raised
        cases raised
      · rw [connector_eq] at connectors
        refine (cleared_after cleared connectors ?_).mpr ?_
        · intro other apart done
          exact (reprocessed_congr records other).mpr (others other apart done)
        · intro active
          exact (reprocessed_congr records connectorId).mpr (restored active)
    · constructor
      · rintro (detached | kept | ⟨other,found,ready⟩)
        · exact absurd detached present
        · have all := (unchanged (untouched kept)).trans kept
          exact ⟨fun _ _ => all,all.symm ▸ cleared⟩
        · obtain rfl : record = other := Option.some.inj (known.symm.trans found)
          exact absurd ready unready
      · intro clean
        have all := clean.1 fault failed
        have kept : stored.quarantineRecords = s.quarantineRecords :=
          records.symm.trans (congrArg QuarantineService.quarantineRecords all)
        apply Or.inr
        apply Or.inl
        cases stored
        cases s
        cases attached
        cases kept
        rfl

theorem divert_step (quarantineId : UUIDv7) (tenantId : TenantId) (connectorId : UUIDv7)
    (rawPayload : List (PyKey × PyValue)) (evaluation : DriftEvaluationResult) (now : UtcDateTime)
    (unused : s.quarantineRecords.get? quarantineId = none) (cleared : ActiveCleared s) :
    KeepsOrder s ⟨.divert quarantineId tenantId connectorId rawPayload evaluation,now⟩ ↔
      FailsCleanly sha256 s ⟨.divert quarantineId tenantId connectorId rawPayload evaluation,now⟩ ∧
        ActiveCleared (quarantineStep sha256 s ⟨.divert quarantineId tenantId connectorId rawPayload evaluation,now⟩) := by
  cases dumped : (PyValue.dict rawPayload).dumps ⟨true,true⟩ PyValue.noDefault with
  | none =>
    have run : s.serve sha256 ⟨.divert quarantineId tenantId connectorId rawPayload evaluation,now⟩ =
        (s,.error (.raised .typeError)) := by
      simp only [QuarantineService.serve,QuarantineService.divertToQuarantine,dumped]
      rfl
    have same := congrArg Prod.fst run
    exact iff_of_true (.inr (.inl dumped)) ⟨fun _ _ => same,(congrArg ActiveCleared same).mpr cleared⟩
  | some payloadText =>
    let record : QuarantineRecord :=
      ⟨quarantineId,tenantId,connectorId,sha256 payloadText,rawPayload,evaluation.classification,evaluation.reasons,now,
        none,"1.0.0"⟩
    have run : s.serve sha256 ⟨.divert quarantineId tenantId connectorId rawPayload evaluation,now⟩ =
        (s.putRecord record quarantineId).withLifecycle fun lifecycle => lifecycle.onConnector connectorId
          fun connector => connector.divert evaluation.reasons (sha256 payloadText) now := by
      simp only [QuarantineService.serve,QuarantineService.divertToQuarantine,dumped]
      generalize QuarantineService.withLifecycle _ _ = outcome
      obtain ⟨after,result⟩ := outcome
      cases result with
      | error fault => rfl
      | ok _ => rfl
    have changes : s.putRecord record quarantineId ≠ s :=
      fun same => putRecord_changes unused (congrArg QuarantineService.quarantineRecords same)
    have step := @served_step s (s.putRecord record quarantineId) connectorId
      (fun connector => connector.divert evaluation.reasons (sha256 payloadText) now)
      (fun connector => connector.status = .active ∨ connector.status = .schemaDrift) rfl
      (by
        intro connector
        rcases divert_cases connector evaluation.reasons (sha256 payloadText) now with
          ⟨ready,done,quarantined⟩ | ⟨unready,fault,failed⟩
        · refine .inl ⟨ready,done,?_⟩
          intro active
          rw [quarantined] at active
          cases active
        · exact .inr ⟨unready,fault,failed,fun same => absurd same changes⟩)
      (fun other apart done => putRecord_reprocessed s done (fun own => absurd own.symm apart)) cleared
    unfold KeepsOrder FailsCleanly quarantineStep
    rw [run,← step]
    simp only [dumped,changes,false_or,reduceCtorEq]

theorem reprocess_step (quarantineId : UUIDv7) (newMappingVersion : String) (now : UtcDateTime) (cleared : ActiveCleared s) :
    KeepsOrder s ⟨.reprocess quarantineId newMappingVersion,now⟩ ↔
      FailsCleanly sha256 s ⟨.reprocess quarantineId newMappingVersion,now⟩ ∧
        ActiveCleared (quarantineStep sha256 s ⟨.reprocess quarantineId newMappingVersion,now⟩) := by
  unfold KeepsOrder FailsCleanly quarantineStep
  cases found : s.quarantineRecords.get? quarantineId with
  | none =>
    have run : s.serve sha256 ⟨.reprocess quarantineId newMappingVersion,now⟩ = (s,.error (.raised .valueError)) := by
      simp only [QuarantineService.serve,QuarantineService.reprocessQuarantine,found]
    rw [run]
    refine iff_of_true ?_ ⟨fun _ _ => rfl,cleared⟩
    intro record known
    rw [found] at known
    cases known
  | some record =>
    have others (other : UUIDv7) (done : s.Reprocessed other) :
        (s.mark record quarantineId newMappingVersion now).Reprocessed other :=
      putRecord_reprocessed s done (fun _ => by simp)
    by_cases all : (s.mark record quarantineId newMappingVersion now).Reprocessed record.connectorId
    · have step := @served_step s (s.mark record quarantineId newMappingVersion now) record.connectorId
        (fun connector => connector.restore newMappingVersion now)
        (fun connector => connector.status = .quarantined ∨ connector.status = .reconciliationRequired) rfl
        (by
          intro connector
          rcases restore_cases connector newMappingVersion now with ⟨ready,done⟩ | ⟨unready,fault,failed⟩
          · exact .inl ⟨ready,done,fun _ => all⟩
          · exact .inr ⟨unready,fault,by rw [failed],fun _ => by rw [failed]⟩)
        (fun other _ => others other) cleared
      have run : s.serve sha256 ⟨.reprocess quarantineId newMappingVersion,now⟩ =
          (s.mark record quarantineId newMappingVersion now).withLifecycle fun lifecycle =>
            lifecycle.onConnector record.connectorId fun connector => connector.restore newMappingVersion now := by
        simp only [QuarantineService.serve,QuarantineService.reprocessQuarantine,found,if_pos all]
      rw [run,← step]
      constructor
      · intro ordered
        exact ordered record found all
      · intro ordered other known _
        obtain rfl : record = other := Option.some.inj (found.symm.trans known)
        exact ordered
    · have run : s.serve sha256 ⟨.reprocess quarantineId newMappingVersion,now⟩ =
          (s.mark record quarantineId newMappingVersion now,.ok ()) := by
        simp only [QuarantineService.serve,QuarantineService.reprocessQuarantine,found,if_neg all]
      rw [run]
      refine iff_of_true ?_ ⟨?_,?_⟩
      · intro other known done
        obtain rfl : record = other := Option.some.inj (found.symm.trans known)
        exact absurd done all
      · intro fault raised
        cases raised
      · intro other connector known active
        exact others other (cleared other connector known active)

theorem reconciliation_step (fresh : NewQuarantine s call) (cleared : ActiveCleared s) :
    KeepsOrder s call ↔ FailsCleanly sha256 s call ∧ ActiveCleared (quarantineStep sha256 s call) := by
  obtain ⟨op,now⟩ := call
  cases op with
  | lifecycle op => exact (lifecycle_step sha256 op now cleared).trans (and_iff_right trivial).symm
  | divert quarantineId tenantId connectorId rawPayload evaluation =>
    exact divert_step sha256 quarantineId tenantId connectorId rawPayload evaluation now
      (not_not.mp (fresh quarantineId rfl)) cleared
  | reprocess quarantineId newMappingVersion => exact reprocess_step sha256 quarantineId newMappingVersion now cleared

@[simp] theorem withLifecycle_records
    (change : ConnectorLifecycleService → ConnectorLifecycleService × Except ConnectorFault Unit) :
    (s.withLifecycle change).1.quarantineRecords = s.quarantineRecords := by
  unfold QuarantineService.withLifecycle
  cases s.lifecycleService with
  | none => rfl
  | some lifecycle => rfl

theorem putRecord_grows {quarantineId other : UUIDv7} {record : QuarantineRecord}
    (present : (s.putRecord record quarantineId).quarantineRecords.get? other ≠ none) :
    s.quarantineRecords.get? other ≠ none ∨ other = quarantineId := by
  by_cases own : other = quarantineId
  · exact .inr own
  · left
    intro absent
    exact present ((Dict.get?_set_ne s.quarantineRecords record own).trans absent)

/-- A call stores nothing but a diverted payload, under the identifier it generates. -/
theorem records_grow {quarantineId : UUIDv7}
    (present : (quarantineStep sha256 s call).quarantineRecords.get? quarantineId ≠ none) :
    s.quarantineRecords.get? quarantineId ≠ none ∨ generatedQuarantine call = some quarantineId := by
  obtain ⟨op,now⟩ := call
  unfold quarantineStep QuarantineService.serve at present
  cases op with
  | lifecycle op =>
    rw [withLifecycle_records] at present
    exact .inl present
  | divert made tenantId connectorId rawPayload evaluation =>
    simp only [QuarantineService.divertToQuarantine] at present
    cases dumped : (PyValue.dict rawPayload).dumps ⟨true,true⟩ PyValue.noDefault with
    | none =>
      simp only [dumped] at present
      exact .inl present
    | some payloadText =>
      simp only [dumped,withLifecycle_records] at present
      exact (putRecord_grows present).imp id (fun own => congrArg some own.symm)
  | reprocess asked newMappingVersion =>
    simp only [QuarantineService.reprocessQuarantine] at present
    cases found : s.quarantineRecords.get? asked with
    | none =>
      simp only [found] at present
      exact .inl present
    | some record =>
      have kept : (s.mark record asked newMappingVersion now).quarantineRecords.get? quarantineId ≠ none := by
        simp only [found] at present
        split at present
        · rwa [withLifecycle_records] at present
        · exact present
      rcases putRecord_grows kept with before | own
      · exact .inl before
      · left
        rw [own,found]
        simp

theorem new_quarantines {calls : List QuarantineCall} (distinct : (calls.filterMap generatedQuarantine).Nodup)
    (emptied : s.quarantineRecords = .empty) : Along (quarantineStep sha256) NewQuarantine s calls := by
  apply fresh_along (quarantineStep sha256) generatedQuarantine (fun s quarantineId => s.quarantineRecords.get? quarantineId ≠ none)
  · intro s call _ quarantineId present
    exact records_grow sha256 present
  · exact distinct
  · intro quarantineId _ present
    rw [emptied] at present
    exact present rfl

/-- From an empty quarantine, active connectors have nothing in quarantine and failed diversions
and reprocessings change nothing exactly if all calls of the run keep the order. -/
theorem active_cleared_iff {calls : List QuarantineCall} (distinct : (calls.filterMap generatedQuarantine).Nodup)
    (emptied : s.quarantineRecords = .empty) :
    Along (quarantineStep sha256) (FailsCleanly sha256) s calls ∧ Always (quarantineStep sha256) ActiveCleared s calls ↔
      Along (quarantineStep sha256) KeepsOrder s calls := by
  symm
  apply along_safe_iff (quarantineStep sha256) (I := fun _ => True) (F := NewQuarantine)
  · intro s call _ _
    trivial
  · intro s call _ fresh cleared
    exact reconciliation_step sha256 fresh cleared
  · trivial
  · intro connectorId record _ _ found member
    obtain ⟨⟨quarantineId,stored⟩,_⟩ := (mem_getQuarantineRecords s).mp member
    rw [emptied] at stored
    cases stored
  · exact new_quarantines sha256 distinct emptied

end steps

section examples

def billing : UUIDv7 := ⟨"01920000-0000-7000-8000-000000000002"⟩

def activeBilling : QuarantineService where
  lifecycleService := some ⟨Dict.empty.set billing {
    connectorId := billing
    tenantId := ⟨"tnt_acme",Eq.refl true⟩
    providerName := "stripe"
    capabilityType := "billing"
    status := .active
    createdAt := ⟨0⟩
    updatedAt := ⟨0⟩ }⟩

def divertCharge (quarantineId : String) (at_ : Int) : QuarantineCall :=
  ⟨.divert ⟨quarantineId⟩ ⟨"tnt_acme",Eq.refl true⟩ billing [] ⟨.breaking,["Missing required field 'id'"]⟩,⟨at_⟩⟩

def divertAndReprocess : List QuarantineCall :=
  [divertCharge "01920000-0000-7000-8000-00000000000a" 1,
    ⟨.reprocess ⟨"01920000-0000-7000-8000-00000000000a"⟩ "1.1.0",⟨2⟩⟩]

theorem reprocessed_connector_active :
    Along (quarantineStep id) (FailsCleanly id) activeBilling divertAndReprocess ∧
      Always (quarantineStep id) ActiveCleared activeBilling divertAndReprocess := by
  apply (active_cleared_iff id (by decide) rfl).mpr
  refine ⟨.inr (.inr ⟨_,rfl,.inl rfl⟩),?_,trivial⟩
  intro record stored _
  cases stored
  exact .inr (.inr ⟨_,rfl,.inl rfl⟩)

/-- A second payload drifts while the connector is in quarantine already: it is stored and counted, and
the call raises. -/
theorem second_drift_stored : ¬ Along (quarantineStep id) (FailsCleanly id) activeBilling
    [divertCharge "01920000-0000-7000-8000-00000000000a" 1,divertCharge "01920000-0000-7000-8000-00000000000b" 2] := by
  intro clean
  have same := clean.2.1 _ rfl
  exact absurd (congrArg (fun s => s.quarantineRecords.keys.length) same) (by decide)

end examples
end RevPilot.Connectors
