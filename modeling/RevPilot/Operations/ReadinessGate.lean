import RevPilot.Library.Runs
import RevPilot.Library.Text
import RevPilot.Library.Dict
import RevPilot.Shared.Errors
import RevPilot.Shared.Temporal

/-! The production readiness gate: canonical controls, their evaluation against evidence
artifacts, and the composite verdict. -/
namespace RevPilot.Operations
open Library Shared Runs

inductive GateControlStatus : Type
  | planned
  | notExecuted
  | unknown
  | blocked
  | evidenced
  | pass
  deriving DecidableEq

def GateControlStatus.value : GateControlStatus → String
  | planned => "PLANNED"
  | notExecuted => "NOT_EXECUTED"
  | unknown => "UNKNOWN"
  | blocked => "BLOCKED"
  | evidenced => "EVIDENCED"
  | pass => "PASS"

inductive GateVerdict : Type
  | productionReady
  | productionBlocked
  | pass
  | blocked
  deriving DecidableEq

def gateControlFailedError (message : String) (details : List (PyKey × PyValue)) : PyError :=
  .domain { code := "GATE_CONTROL_FAILED", message := message, details := details }

def evidenceDigestMismatchError (message : String) (details : List (PyKey × PyValue)) : PyError :=
  .domain { code := "EVIDENCE_DIGEST_MISMATCH", message := message, details := details }

structure EvidenceItem where
  artifactPath : String
  sha256Digest : String
  sizeBytes : Nat
  collectedAt : UtcDateTime
  collectorPrincipal : String
  metadata : List (PyKey × PyValue) := []

structure GateControlResult where
  controlId : String
  status : GateControlStatus
  evaluatedAt : UtcDateTime
  evaluatorPrincipal : String
  evidence : Option EvidenceItem := none
  message : String := ""

/-- `CANONICAL_GATE_CONTROLS`: the controls with their default status. -/
def canonicalGateControls : List (String × GateControlStatus) :=
  [("PRG-TEN-01",.planned),("PRG-TEN-02",.planned),("PRG-IAM-01",.planned),("PRG-IAM-02",.planned),
    ("PRG-SEC-01",.planned),("PRG-SEC-02",.planned),("PRG-CON-01",.planned),("PRG-CON-02",.planned),
    ("PRG-CON-03",.planned),("PRG-WF-01",.planned),("PRG-WF-02",.planned),("PRG-ACT-01",.planned),
    ("PRG-ACT-02",.planned),("PRG-ACT-03",.planned),("PRG-AUD-01",.planned),("PRG-AUD-02",.planned),
    ("PRG-EVD-01",.planned),("PRG-DAT-01",.planned),("PRG-DAT-02",.planned),("PRG-DAT-03",.planned),
    ("PRG-OBS-01",.planned),("PRG-OBS-02",.planned),("PRG-SRE-01",.notExecuted),("PRG-SRE-02",.planned),
    ("PRG-DR-01",.notExecuted),("PRG-FIN-01",.planned),("PRG-FIN-02",.planned),("PRG-AI-01",.planned),
    ("PRG-AI-02",.notExecuted),("PRG-REL-01",.planned),("PRG-INC-01",.notExecuted)]

def canonicalControlIds : List String := canonicalGateControls.map Prod.fst

structure GateAuditEvent where
  eventId : String
  occurredAt : String
  eventType : String
  entityId : String
  actorId : String
  details : List (PyKey × PyValue)

/-- What the file system holds at a path when it is read. -/
inductive ArtifactState : Type
  | missing
  | unreadable
  | file (content : List UInt8)

/-- A path with its texts and with what it leads to. -/
structure EvidenceArtifact where
  path : String
  resolved : String
  name : String
  state : ArtifactState

structure GateReading where
  now : UtcDateTime
  eventId : String

structure ProductionReadinessGateService where
  evaluatorPrincipal : String := "principal:sre-lead"
  auditLogs : List GateAuditEvent := []
  controls : Dict String GateControlResult := .empty

namespace ProductionReadinessGateService

def initializeCanonicalControls (s : ProductionReadinessGateService) (now : UtcDateTime) : ProductionReadinessGateService :=
  canonicalGateControls.foldl (fun s (controlId,defaultStatus) =>
    { s with
      controls := s.controls.set controlId
        ⟨controlId,defaultStatus,now,s.evaluatorPrincipal,none,
          "Initialized with canonical default status: " ++ defaultStatus.value⟩ }) s

/-- The service as its constructor leaves it. -/
def init (evaluatorPrincipal : String) (now : UtcDateTime) : ProductionReadinessGateService :=
  initializeCanonicalControls { evaluatorPrincipal := evaluatorPrincipal } now

def emitAudit (s : ProductionReadinessGateService) (eventType entityId : String) (details : List (PyKey × PyValue))
    (reading : GateReading) : ProductionReadinessGateService :=
  { s with
    auditLogs := s.auditLogs ++
      [⟨reading.eventId,reading.now.isoformat,eventType,entityId,s.evaluatorPrincipal,details⟩] }

variable (sha256 : List UInt8 → String) (lower : String → String)

def evaluateControl (s : ProductionReadinessGateService) (reading : GateReading) (controlId : String)
    (artifact : EvidenceArtifact) (expectedDigest : Option String := none) (passed : Bool := true)
    (message : String := "") : ProductionReadinessGateService × Except PyError GateControlResult :=
  if controlId ∉ canonicalControlIds then
    (s,.error (gateControlFailedError
      ("Control '" ++ controlId ++ "' is not in CANONICAL_GATE_CONTROLS (PRG-TEN-01..PRG-INC-01)")
      [(.str "control_id",.str controlId)]))
  else match artifact.state with
  | .missing =>
    (s.emitAudit "GATE_CONTROL_ARTIFACT_MISSING" controlId [(.str "path",.str artifact.path)] reading,
      .error (gateControlFailedError ("Evidence artifact not found or invalid: " ++ artifact.path)
        [(.str "control_id",.str controlId),(.str "path",.str artifact.path)]))
  | .unreadable => (s,.error (.runtime "OSError"))
  | .file content =>
    let computedDigest := sha256 content
    match expectedDigest.filter (fun expected => lower computedDigest ≠ lower expected) with
    | some expected =>
      (s.emitAudit "EVIDENCE_TAMPERING_DETECTED" controlId
        [(.str "expected_digest",.str expected),(.str "computed_digest",.str computedDigest),
          (.str "artifact_path",.str artifact.path)] reading,
        .error (evidenceDigestMismatchError
          ("Evidence tampering detected for " ++ controlId ++ ": digest mismatch (expected=" ++ expected ++
            ", computed=" ++ computedDigest ++ ")")
          [(.str "control_id",.str controlId),(.str "expected_digest",.str expected),
            (.str "computed_digest",.str computedDigest),(.str "path",.str artifact.path)]))
    | none =>
      let evidenceItem : EvidenceItem :=
        ⟨artifact.resolved,computedDigest,content.length,reading.now,s.evaluatorPrincipal,
          [(.str "filename",.str artifact.name)]⟩
      if passed = false then
        let result : GateControlResult :=
          ⟨controlId,.blocked,reading.now,s.evaluatorPrincipal,some evidenceItem,
            if message = "" then "Control validation check failed" else message⟩
        let stored := { s with controls := s.controls.set controlId result }
        (stored.emitAudit "GATE_CONTROL_FAILED" controlId
          [(.str "status",.str "BLOCKED"),(.str "message",.str message),(.str "digest",.str computedDigest)] reading,
          .error (gateControlFailedError
            ("Production control " ++ controlId ++ " validation failed: " ++ message)
            [(.str "control_id",.str controlId),(.str "message",.str message)]))
      else
        let result : GateControlResult :=
          ⟨controlId,.pass,reading.now,s.evaluatorPrincipal,some evidenceItem,
            if message = "" then "Control empirically verified and evidenced" else message⟩
        let stored := { s with controls := s.controls.set controlId result }
        (stored.emitAudit "GATE_CONTROL_EVIDENCED" controlId
          [(.str "status",.str "PASS"),(.str "digest",.str computedDigest)] reading,.ok result)

/-- The control is stored as PASS with its evidence. -/
def Passed (s : ProductionReadinessGateService) (controlId : String) : Prop :=
  ∃ result, s.controls.get? controlId = some result ∧ result.status = .pass ∧ result.evidence.isSome

instance (s : ProductionReadinessGateService) (controlId : String) : Decidable (s.Passed controlId) :=
  match stored : s.controls.get? controlId with
  | none => .isFalse (by rintro ⟨result,known,_⟩; rw [stored] at known; cases known)
  | some result =>
    decidable_of_iff (result.status = .pass ∧ result.evidence.isSome)
      ⟨fun held => ⟨result,stored,held⟩,fun ⟨_,known,held⟩ => Option.some.inj (stored.symm.trans known) ▸ held⟩

def getCompositeVerdict (s : ProductionReadinessGateService) : GateVerdict :=
  if ∀ controlId ∈ canonicalControlIds, s.Passed controlId then .productionReady else .productionBlocked

end ProductionReadinessGateService

structure EvaluateCall where
  reading : GateReading
  controlId : String
  artifact : EvidenceArtifact
  expectedDigest : Option String := none
  passed : Bool := true
  message : String := ""

section runs
open ProductionReadinessGateService
variable (sha256 : List UInt8 → String) (lower : String → String)

def ProductionReadinessGateService.evaluate (s : ProductionReadinessGateService) (call : EvaluateCall) :
    ProductionReadinessGateService × Except PyError GateControlResult :=
  s.evaluateControl sha256 lower call.reading call.controlId call.artifact call.expectedDigest call.passed call.message

/-- The gate of a run, with whether the last call on each control returned a PASS result. -/
structure GateRun where
  gate : ProductionReadinessGateService
  last : Dict String Bool := .empty

def returnedPass : Except PyError GateControlResult → Bool
  | .ok result => result.status = .pass
  | .error _ => false

def gateStep (r : GateRun) (call : EvaluateCall) : GateRun :=
  ⟨(r.gate.evaluate sha256 lower call).1,
    r.last.set call.controlId (returnedPass (r.gate.evaluate sha256 lower call).2)⟩

/-- The gate is ready if and only if every canonical control passed when it was last evaluated. -/
def VerdictOfHistory (r : GateRun) : Prop :=
  r.gate.getCompositeVerdict = .productionReady ↔
    ∀ controlId ∈ canonicalControlIds, r.last.get? controlId = some true

/-- The evidence is missing, cannot be read or has another digest than the expected one. -/
def EvaluateCall.Refused (call : EvaluateCall) : Prop :=
  match call.artifact.state with
  | .file content => ∃ expected, call.expectedDigest = some expected ∧ lower (sha256 content) ≠ lower expected
  | _ => True

/-- A refused call comes while some control is not PASS; a passing call completes the gate only when
no other control was refused since it passed. -/
def KeepsVerdict (r : GateRun) (call : EvaluateCall) : Prop :=
  call.controlId ∈ canonicalControlIds →
    (call.Refused sha256 lower → ¬ ∀ controlId ∈ canonicalControlIds, r.gate.Passed controlId) ∧
    (¬ call.Refused sha256 lower → call.passed = true →
      (∀ controlId ∈ canonicalControlIds, controlId ≠ call.controlId → r.gate.Passed controlId) →
      ∀ controlId ∈ canonicalControlIds, controlId ≠ call.controlId → r.last.get? controlId = some true)

/-- A control whose last call returned PASS is stored as PASS. -/
def PassesStored (r : GateRun) : Prop :=
  ∀ controlId ∈ canonicalControlIds, r.last.get? controlId = some true → r.gate.Passed controlId

variable {sha256 lower}

/-- All that a call does: nothing to the controls, or one result stored. -/
theorem evaluate_cases (s : ProductionReadinessGateService) (call : EvaluateCall) :
    (call.controlId ∉ canonicalControlIds ∧ (s.evaluate sha256 lower call).1 = s ∧
      returnedPass (s.evaluate sha256 lower call).2 = false) ∨
    (call.controlId ∈ canonicalControlIds ∧ call.Refused sha256 lower ∧
      (s.evaluate sha256 lower call).1.controls = s.controls ∧ returnedPass (s.evaluate sha256 lower call).2 = false) ∨
    ∃ result, call.controlId ∈ canonicalControlIds ∧ ¬ call.Refused sha256 lower ∧
      (s.evaluate sha256 lower call).1.controls = s.controls.set call.controlId result ∧ result.evidence.isSome ∧
      (result.status = .pass ↔ call.passed = true) ∧ returnedPass (s.evaluate sha256 lower call).2 = call.passed := by
  by_cases canonical : call.controlId ∈ canonicalControlIds
  · right
    cases state : call.artifact.state with
    | missing =>
      left
      simp [ProductionReadinessGateService.evaluate,evaluateControl,canonical,state,
        EvaluateCall.Refused,emitAudit,returnedPass]
    | unreadable =>
      left
      simp [ProductionReadinessGateService.evaluate,evaluateControl,canonical,state,
        EvaluateCall.Refused,returnedPass]
    | file content =>
      cases mismatch : call.expectedDigest.filter (fun expected => lower (sha256 content) ≠ lower expected) with
      | some expected =>
        left
        have differs := Option.filter_eq_some_iff.mp mismatch
        refine ⟨canonical,?_,?_,?_⟩
        · simp only [EvaluateCall.Refused,state]
          exact ⟨expected,differs.1,of_decide_eq_true differs.2⟩
        · simp only [ProductionReadinessGateService.evaluate,evaluateControl,state,mismatch,
            canonical,not_true,if_false,emitAudit]
        · simp only [ProductionReadinessGateService.evaluate,evaluateControl,state,mismatch,
            canonical,not_true,if_false,returnedPass]
      | none =>
        right
        have agreed : ¬ call.Refused sha256 lower := by
          simp only [EvaluateCall.Refused,state]
          rintro ⟨expected,given,differs⟩
          rw [given,Option.filter_some,if_pos (decide_eq_true differs)] at mismatch
          cases mismatch
        cases passed : call.passed with
        | false =>
          have stored : (s.evaluate sha256 lower call).1.controls = s.controls.set call.controlId
              ⟨call.controlId,.blocked,call.reading.now,s.evaluatorPrincipal,some ⟨call.artifact.resolved,sha256 content,
                content.length,call.reading.now,s.evaluatorPrincipal,[(.str "filename",.str call.artifact.name)]⟩,
                if call.message = "" then "Control validation check failed" else call.message⟩ := by
            simp only [ProductionReadinessGateService.evaluate,evaluateControl,state,mismatch,
              canonical,not_true,if_false,passed,if_true,emitAudit]
          refine ⟨_,canonical,agreed,stored,rfl,by simp,?_⟩
          simp only [ProductionReadinessGateService.evaluate,evaluateControl,state,mismatch,
            canonical,not_true,if_false,passed,if_true,returnedPass]
        | true =>
          have stored : (s.evaluate sha256 lower call).1.controls = s.controls.set call.controlId
              ⟨call.controlId,.pass,call.reading.now,s.evaluatorPrincipal,some ⟨call.artifact.resolved,sha256 content,
                content.length,call.reading.now,s.evaluatorPrincipal,[(.str "filename",.str call.artifact.name)]⟩,
                if call.message = "" then "Control empirically verified and evidenced" else call.message⟩ := by
            simp only [ProductionReadinessGateService.evaluate,evaluateControl,state,mismatch,
              canonical,not_true,if_false,passed,Bool.true_eq_false,emitAudit]
          refine ⟨_,canonical,agreed,stored,rfl,by simp,?_⟩
          simp only [ProductionReadinessGateService.evaluate,evaluateControl,state,mismatch,
            canonical,not_true,if_false,passed,Bool.true_eq_false,returnedPass,decide_true]
  · left
    simp [ProductionReadinessGateService.evaluate,evaluateControl,canonical,returnedPass]

variable {r : GateRun}

theorem passed_congr {s s' : ProductionReadinessGateService} (same : s'.controls = s.controls) (controlId : String) :
    s'.Passed controlId ↔ s.Passed controlId := by
  unfold Passed
  rw [same]

theorem passed_stored {s s' : ProductionReadinessGateService} {stored : String} {result : GateControlResult}
    (set : s'.controls = s.controls.set stored result) (evidenced : result.evidence.isSome) (controlId : String) :
    s'.Passed controlId ↔ if controlId = stored then result.status = .pass else s.Passed controlId := by
  unfold Passed
  rw [set,Dict.get?_set]
  split
  · simp [evidenced]
  · rfl

theorem verdict_ready_iff (s : ProductionReadinessGateService) :
    s.getCompositeVerdict = .productionReady ↔ ∀ controlId ∈ canonicalControlIds, s.Passed controlId := by
  unfold getCompositeVerdict
  split
  next all => exact iff_of_true rfl all
  next missed => exact iff_of_false nofun missed

theorem passesStored_step (stored : PassesStored r) (call : EvaluateCall) :
    PassesStored (gateStep sha256 lower r call) := by
  intro controlId canonical passed
  change (r.last.set call.controlId _).get? controlId = some true at passed
  rw [Dict.get?_set] at passed
  rcases @evaluate_cases sha256 lower r.gate call with ⟨outside,same,_⟩ | ⟨_,_,same,failed⟩ |
    ⟨result,_,_,set,evidenced,status,returned⟩
  · have other : controlId ≠ call.controlId := by
      intro own
      exact outside (own ▸ canonical)
    rw [if_neg other] at passed
    exact (passed_congr (congrArg ProductionReadinessGateService.controls same) controlId).mpr (stored controlId canonical passed)
  · by_cases own : controlId = call.controlId
    · rw [if_pos own,failed] at passed
      cases passed
    · rw [if_neg own] at passed
      exact (passed_congr same controlId).mpr (stored controlId canonical passed)
  · refine (passed_stored set evidenced controlId).mpr ?_
    by_cases own : controlId = call.controlId
    · rw [if_pos own,returned] at passed
      rw [if_pos own]
      exact status.mpr (Option.some.inj passed)
    · rw [if_neg own] at passed ⊢
      exact stored controlId canonical passed

/-- One call keeps the verdict true to the history exactly under its condition. -/
theorem verdict_step (stored : PassesStored r) (held : VerdictOfHistory r) (call : EvaluateCall) :
    KeepsVerdict sha256 lower r call ↔ VerdictOfHistory (gateStep sha256 lower r call) := by
  unfold VerdictOfHistory at held ⊢
  rw [verdict_ready_iff] at held ⊢
  have last (controlId : String) : (gateStep sha256 lower r call).last.get? controlId =
      if controlId = call.controlId then some (returnedPass (r.gate.evaluate sha256 lower call).2)
      else r.last.get? controlId := Dict.get?_set _ _ _ _
  rcases @evaluate_cases sha256 lower r.gate call with ⟨outside,same,_⟩ | ⟨canonical,refused,same,failed⟩ |
    ⟨result,canonical,agreed,set,evidenced,status,returned⟩
  · apply iff_of_true (fun canonical => absurd canonical outside)
    have gate : (gateStep sha256 lower r call).gate = r.gate := same
    rw [gate,held]
    apply forall₂_congr
    intro controlId canonical
    have other : controlId ≠ call.controlId := by
      intro own
      exact outside (own ▸ canonical)
    rw [last,if_neg other]
  · have missed : ¬ ∀ controlId ∈ canonicalControlIds, (gateStep sha256 lower r call).last.get? controlId = some true := by
      intro all
      have own := all call.controlId canonical
      rw [last,if_pos rfl,failed] at own
      cases own
    have passed : (∀ controlId ∈ canonicalControlIds, (gateStep sha256 lower r call).gate.Passed controlId) ↔
        ∀ controlId ∈ canonicalControlIds, r.gate.Passed controlId :=
      forall₂_congr fun controlId _ => passed_congr same controlId
    rw [iff_false_right missed,passed]
    constructor
    · intro keeps
      exact (keeps canonical).1 refused
    · intro blocked _
      exact ⟨fun _ => blocked,fun agreed => absurd refused agreed⟩
  · have passed (controlId : String) := @passed_stored r.gate (gateStep sha256 lower r call).gate _ result set evidenced controlId
    by_cases succeeded : call.passed = true
    · have others : (∀ controlId ∈ canonicalControlIds, (gateStep sha256 lower r call).gate.Passed controlId) ↔
          ∀ controlId ∈ canonicalControlIds, controlId ≠ call.controlId → r.gate.Passed controlId := by
        apply forall₂_congr
        intro controlId _
        rw [passed]
        by_cases own : controlId = call.controlId
        · simp [own,status.mpr succeeded]
        · simp [own]
      have lasts : (∀ controlId ∈ canonicalControlIds, (gateStep sha256 lower r call).last.get? controlId = some true) ↔
          ∀ controlId ∈ canonicalControlIds, controlId ≠ call.controlId → r.last.get? controlId = some true := by
        apply forall₂_congr
        intro controlId _
        rw [last]
        by_cases own : controlId = call.controlId
        · simp [own,returned,succeeded]
        · simp [own]
      rw [others,lasts]
      constructor
      · intro keeps
        refine ⟨(keeps canonical).2 agreed succeeded,?_⟩
        intro all controlId inside other
        exact stored controlId inside (all controlId inside other)
      · intro same _
        exact ⟨fun refused => absurd refused agreed,fun _ _ => same.mp⟩
    · have blocked : ¬ ∀ controlId ∈ canonicalControlIds, (gateStep sha256 lower r call).gate.Passed controlId := by
        intro all
        have own := (passed call.controlId).mp (all call.controlId canonical)
        rw [if_pos rfl] at own
        exact succeeded (status.mp own)
      have missed : ¬ ∀ controlId ∈ canonicalControlIds, (gateStep sha256 lower r call).last.get? controlId = some true := by
        intro all
        have own := all call.controlId canonical
        rw [last,if_pos rfl,returned] at own
        exact succeeded (Option.some.inj own)
      exact iff_of_true (fun _ => ⟨fun refused => absurd refused agreed,fun _ done => absurd done succeeded⟩)
        (iff_of_false blocked missed)

theorem init_unevidenced (evaluatorPrincipal : String) (now : UtcDateTime) (controlId : String)
    {result : GateControlResult}
    (known : (ProductionReadinessGateService.init evaluatorPrincipal now).controls.get? controlId = some result) :
    result.evidence = none := by
  have step (definitions : List (String × GateControlStatus)) (s : ProductionReadinessGateService)
      (bare : ∀ result, s.controls.get? controlId = some result → result.evidence = none) :
      ∀ result, (definitions.foldl (fun (s : ProductionReadinessGateService) (definition : String × GateControlStatus) =>
        { s with controls := s.controls.set definition.1 ⟨definition.1,definition.2,now,s.evaluatorPrincipal,none,
          "Initialized with canonical default status: " ++ definition.2.value⟩ }) s).controls.get? controlId = some result →
        result.evidence = none := by
    induction definitions generalizing s with
    | nil => exact bare
    | cons definition definitions ih =>
      apply ih
      intro result stored
      rw [Dict.get?_set] at stored
      split at stored
      · cases stored
        rfl
      · exact bare result stored
  apply step canonicalGateControls { evaluatorPrincipal := evaluatorPrincipal } nofun
  exact known

/-- The verdict is true to the history in every state of a run exactly if every call of the run
meets the condition. -/
theorem verdict_history_iff (evaluatorPrincipal : String) (now : UtcDateTime) (calls : List EvaluateCall) :
    Always (gateStep sha256 lower) VerdictOfHistory ⟨.init evaluatorPrincipal now,.empty⟩ calls ↔
      Along (gateStep sha256 lower) (KeepsVerdict sha256 lower) ⟨.init evaluatorPrincipal now,.empty⟩ calls := by
  have always : Along (gateStep sha256 lower) (fun _ _ => True) ⟨.init evaluatorPrincipal now,.empty⟩ calls :=
    (along_iff _ _ _ _).mpr (fun _ _ _ _ => trivial)
  symm
  apply always_iff_along (gateStep sha256 lower) (I := PassesStored) (F := fun _ _ => True)
  · intro r call stored _
    exact passesStored_step stored call
  · intro r call stored _ held
    exact verdict_step stored held call
  · intro controlId _ passed
    cases passed
  · have first : "PRG-TEN-01" ∈ canonicalControlIds := by simp [canonicalControlIds,canonicalGateControls]
    unfold VerdictOfHistory
    rw [verdict_ready_iff]
    apply iff_of_false
    · intro all
      obtain ⟨result,known,_,evidenced⟩ := all _ first
      rw [init_unevidenced _ _ _ known] at evidenced
      cases evidenced
    · intro all
      cases all _ first
  · exact always

end runs

section examples

/-- The digest of the empty file. -/
def emptyDigest : String := "e3b0c44298fc1c149afbf4c8996fb92427ae41e4649b934ca495991b7852b855"

def evaluateAt (controlId : String) (state : ArtifactState) : EvaluateCall where
  reading := ⟨⟨0⟩,"aud_prg_1"⟩
  controlId := controlId
  artifact := ⟨"report.json","/evidence/report.json","report.json",state⟩

def evidencedThenMissing : List EvaluateCall :=
  canonicalControlIds.map (evaluateAt · (.file [])) ++ [evaluateAt "PRG-TEN-01" .missing]

/-- All controls pass, one is evaluated again without its artifact, and the gate stays ready. -/
theorem missing_artifact_still_ready : ¬ Always (gateStep (fun _ => emptyDigest) id) VerdictOfHistory
    ⟨.init "principal:sre-lead" ⟨0⟩,.empty⟩ evidencedThenMissing := by
  intro always
  have held : VerdictOfHistory _ := always _ [] (List.append_nil _).symm
  have ready : (run (gateStep (fun _ => emptyDigest) id) ⟨.init "principal:sre-lead" ⟨0⟩,.empty⟩
    evidencedThenMissing).gate.getCompositeVerdict = .productionReady := by decide +kernel
  have passed := held.mp ready "PRG-TEN-01" (by decide +kernel)
  exact absurd passed (by decide +kernel)

end examples
end RevPilot.Operations
