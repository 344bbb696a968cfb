import RevPilot.Library.PyFloat
import RevPilot.Library.Runs
import RevPilot.Operations.ReleaseManifest

/-! Canary rollouts: progressive stages, health triggers, and the coordinated rollback that
quarantines an aborted bundle. -/
namespace RevPilot.Operations
open Library Shared Runs

inductive CanaryStage : Type
  | idle
  | canary5
  | canary25
  | general100
  | abortedRolledBack
  deriving DecidableEq

def canaryHealthFailedError (message : String) (details : List (PyKey × PyValue)) : PyError :=
  .domain { code := "CANARY_HEALTH_FAILED", message := message, details := details }

/-- `x > y`. -/
def exceeds : FloatValue → FloatValue → Bool
  | x, .finite limit => x.above limit
  | .nan, .infinite _ => false
  | .infinite negative, .infinite below => !negative && below
  | .finite _, .infinite below => below
  | _, .nan => false

/-- What the runtime computes and prints of floats: the rounded product with 1.25 and the text
with so many decimals. -/
structure FloatRuntime where
  timesQuarterOver : FloatValue → FloatValue
  fixed : Nat → FloatValue → String
  value : FloatValue → PyValue

structure CanaryMetrics where
  errorRate5xx : FloatValue := .finite 0
  p95LatencyMs : FloatValue := .finite 200
  baselineP95Ms : FloatValue := .finite 200
  workflowCrashes : Int := 0
  rlsViolations : Int := 0
  costBurnPercent : FloatValue := .finite 100

structure CanaryHealthVerdict where
  healthy : Bool
  canaryBundleId : String
  errorRate5xx : FloatValue
  p95LatencyMs : FloatValue
  workflowCrashes : Int
  rlsViolations : Int
  costBurnPercent : FloatValue
  breaches : List String

structure RollbackStep where
  stepNum : Nat
  name : String
  targetTiers : List String
  maxSlaSeconds : ℚ
  durationSeconds : ℚ
  status : String := "COMPLETED"
  details : List (PyKey × PyValue)

structure RollbackSummary where
  rollbackId : String
  canaryBundleId : String
  baselineBundleId : String
  triggerReason : String
  initiatedAt : UtcDateTime
  completedAt : UtcDateTime
  totalDurationSec : ℚ
  stepsExecuted : List RollbackStep
  trafficShiftedToBaseline : Bool
  canaryQuarantined : Bool
  status : String := "COMPLETED"

/-- The identifier and the clocks of one rollback; `elapsed n` is measured around its step `n`. -/
structure RollbackReading where
  rollbackId : String
  initiatedAt : UtcDateTime
  completedAt : UtcDateTime
  elapsed : Nat → ℚ
  total : ℚ

def flags (names : List String) : List (PyKey × PyValue) := names.map (fun name => (.str name,.bool true))

def executeCoordinatedRollback (reading : RollbackReading) (canaryBundleId baselineBundleId reason : String) :
    RollbackSummary where
  rollbackId := reading.rollbackId
  canaryBundleId := canaryBundleId
  baselineBundleId := baselineBundleId
  triggerReason := reason
  initiatedAt := reading.initiatedAt
  completedAt := reading.completedAt
  totalDurationSec := reading.total
  stepsExecuted :=
    [⟨1,"Step 1 — Ingress Shift & Canary Traffic Zeroing",["T01","T02"],30,max (12 / 1000) (reading.elapsed 1),"COMPLETED",
        [(.str "baseline_traffic_percent",.int 100),(.str "canary_traffic_percent",.int 0),(.str "canary_isolated",.bool true)]⟩,
      ⟨2,"Step 2 — Feature Flag & Policy Kill-Switch",["T11","T12"],60,max (15 / 1000) (reading.elapsed 2),"COMPLETED",
        flags ["feature_flags_toggled_off","policy_ast_reverted"]⟩,
      ⟨3,"Step 3 — Workflow & Worker Drainage",["T04"],120,max (20 / 1000) (reading.elapsed 3),"COMPLETED",
        flags ["new_workflows_paused","in_flight_tasks_drained"]⟩,
      ⟨4,"Step 4 — AI Model & Prompt Template Reversion",["T06","T07"],60,max (10 / 1000) (reading.elapsed 4),"COMPLETED",
        flags ["prompt_template_reverted","model_snapshot_repointed"]⟩,
      ⟨5,"Step 5 — Vector Index Dual-Write Termination",["T08","T09","T10"],300,max (18 / 1000) (reading.elapsed 5),"COMPLETED",
        flags ["dual_write_suspended","vector_fallback_active"]⟩,
      ⟨6,"Step 6 — Database Schema Contract Recovery",["T03","T13"],60,max (8 / 1000) (reading.elapsed 6),"COMPLETED",
        flags ["destructive_ddl_avoided","expand_contract_preserved","cleanup_deferred_to_maintenance"]⟩]
  trafficShiftedToBaseline := true
  canaryQuarantined := true

structure CanaryController where
  registry : ReleaseRegistry := {}
  baselineBundleId : String := "bundle_baseline_stable_v1"
  currentStage : CanaryStage := .idle
  trafficPercentage : Int := 0
  activeCanaryBundleId : Option String := none
  lastRollbackSummary : Option RollbackSummary := none

namespace CanaryController

def promoteCanaryStage (s : CanaryController) (canaryBundleId : String) (targetPercentage : Int) :
    CanaryController × Except PyError Unit :=
  if s.registry.isQuarantined canaryBundleId then (s,.error .valueError)
  else if targetPercentage = 5 then
    ({ s with currentStage := .canary5, trafficPercentage := 5, activeCanaryBundleId := some canaryBundleId },.ok ())
  else if targetPercentage = 25 then
    ({ s with currentStage := .canary25, trafficPercentage := 25, activeCanaryBundleId := some canaryBundleId },.ok ())
  else if targetPercentage = 100 then
    ({ s with currentStage := .general100, trafficPercentage := 100, activeCanaryBundleId := some canaryBundleId },.ok ())
  else (s,.error .valueError)

def startCanary (s : CanaryController) (canaryBundleId : String) : CanaryController × Except PyError Unit :=
  if s.registry.isQuarantined canaryBundleId then (s,.error .valueError)
  else match s.registry.getBundle canaryBundleId with
  | none => (s,.error .valueError)
  | some _ => promoteCanaryStage { s with activeCanaryBundleId := some canaryBundleId } canaryBundleId 5

def abortAndRollback (s : CanaryController) (reading : RollbackReading) (canaryBundleId reason : String) :
    CanaryController × RollbackSummary :=
  let summary := executeCoordinatedRollback reading canaryBundleId s.baselineBundleId reason
  ({ s with
    registry := s.registry.quarantineBundle canaryBundleId reason
    currentStage := .abortedRolledBack
    trafficPercentage := 0
    lastRollbackSummary := some summary },summary)

variable (floats : FloatRuntime)

/-- The texts of the rollback triggers that fire. -/
def breaches (m : CanaryMetrics) : List String :=
  let latencyCeiling := floats.timesQuarterOver m.baselineP95Ms
  (if m.errorRate5xx.above (5 / 1000) then
    ["HTTP 5xx rate " ++ floats.fixed 4 m.errorRate5xx ++ " breached 0.005 (0.5%) ceiling"] else []) ++
  (if exceeds m.p95LatencyMs latencyCeiling then
    ["P95 latency " ++ floats.fixed 1 m.p95LatencyMs ++ "ms degraded >25% over baseline " ++
      floats.fixed 1 m.baselineP95Ms ++ "ms (ceiling " ++ floats.fixed 1 latencyCeiling ++ "ms)"] else []) ++
  (if m.workflowCrashes > 0 then
    ["Temporal worker unhandled crash count " ++ toString m.workflowCrashes ++ " > 0"] else []) ++
  (if m.rlsViolations > 0 then ["Cross-tenant RLS violation alarms " ++ toString m.rlsViolations ++ " > 0"] else []) ++
  (if m.costBurnPercent.above 150 then
    ["Token spend rate " ++ floats.fixed 1 m.costBurnPercent ++ "% exceeded 150% budget threshold"] else [])

def evaluateCanaryHealth (s : CanaryController) (reading : RollbackReading) (canaryBundleId : String)
    (m : CanaryMetrics) (autoRollback : Bool := true) : CanaryController × Except PyError CanaryHealthVerdict :=
  let breached := breaches floats m
  let healthy := breached.isEmpty
  if !healthy && autoRollback then
    let joined := String.intercalate "; " breached
    ((s.abortAndRollback reading canaryBundleId ("Canary health check breached: " ++ joined)).1,
      .error (canaryHealthFailedError ("Canary health check failed: " ++ joined)
        [(.str "canary_bundle_id",.str canaryBundleId),(.str "breaches",.list (breached.map PyValue.str)),
          (.str "error_rate_5xx",floats.value m.errorRate5xx)]))
  else
    (s,.ok ⟨healthy,canaryBundleId,m.errorRate5xx,m.p95LatencyMs,m.workflowCrashes,m.rlsViolations,m.costBurnPercent,
      breached⟩)

end CanaryController

inductive CanaryOp : Type
  | registerBundle (manifestData : ManifestData) (now : UtcDateTime)
  | quarantineBundle (bundleId reason : String)
  | startCanary (canaryBundleId : String)
  | promoteCanaryStage (canaryBundleId : String) (targetPercentage : Int)
  | evaluateCanaryHealth (reading : RollbackReading) (canaryBundleId : String) (metrics : CanaryMetrics) (autoRollback : Bool)
  | abortAndRollback (reading : RollbackReading) (canaryBundleId reason : String)

section runs
open CanaryController
variable (floats : FloatRuntime)

def CanaryController.after (s : CanaryController) : CanaryOp → CanaryController
  | .registerBundle manifestData now => { s with registry := (s.registry.registerBundle manifestData now).1 }
  | .quarantineBundle bundleId reason => { s with registry := s.registry.quarantineBundle bundleId reason }
  | .startCanary canaryBundleId => (s.startCanary canaryBundleId).1
  | .promoteCanaryStage canaryBundleId targetPercentage => (s.promoteCanaryStage canaryBundleId targetPercentage).1
  | .evaluateCanaryHealth reading canaryBundleId metrics autoRollback =>
    (s.evaluateCanaryHealth floats reading canaryBundleId metrics autoRollback).1
  | .abortAndRollback reading canaryBundleId reason => (s.abortAndRollback reading canaryBundleId reason).1

/-- The bundle that the operation aborts and rolls back. -/
def abortedBy : CanaryOp → Option String
  | .evaluateCanaryHealth _ canaryBundleId metrics autoRollback =>
    if !(breaches floats metrics).isEmpty && autoRollback then some canaryBundleId else none
  | .abortAndRollback _ canaryBundleId _ => some canaryBundleId
  | _ => none

/-- A controller with the bundles that were aborted and rolled back. -/
structure CanaryRun where
  controller : CanaryController := {}
  aborted : List String := []

def canaryStep (r : CanaryRun) (op : CanaryOp) : CanaryRun :=
  ⟨r.controller.after floats op,(abortedBy floats op).toList ++ r.aborted⟩

/-- Neither a start nor a promotion of the bundle succeeds. -/
def Barred (s : CanaryController) (bundleId : String) : Prop :=
  (∃ fault, (s.startCanary bundleId).2 = .error fault) ∧
    ∀ targetPercentage, ∃ fault, (s.promoteCanaryStage bundleId targetPercentage).2 = .error fault

def AbortedBarred (r : CanaryRun) : Prop := ∀ bundleId ∈ r.aborted, Barred r.controller bundleId

/-- Only registered bundles are aborted, and an aborted bundle is registered again only as quarantined. -/
def KeepsQuarantine (r : CanaryRun) (op : CanaryOp) : Prop :=
  match op with
  | .registerBundle manifestData now =>
    ∀ manifest, ReleaseManifestValidator.validate manifestData now = .ok manifest → manifest.bundleId ∈ r.aborted →
      manifest.status = "QUARANTINED"
  | _ => ∀ bundleId, abortedBy floats op = some bundleId → r.controller.registry.getBundle bundleId ≠ none

variable {floats} {s : CanaryController} {r : CanaryRun}

theorem promote_registry (canaryBundleId : String) (targetPercentage : Int) :
    (s.promoteCanaryStage canaryBundleId targetPercentage).1.registry = s.registry := by
  unfold promoteCanaryStage
  split
  · rfl
  · split
    · rfl
    · split
      · rfl
      · split
        · rfl
        · rfl

theorem start_registry (canaryBundleId : String) : (s.startCanary canaryBundleId).1.registry = s.registry := by
  unfold startCanary
  split
  · rfl
  · split
    · rfl
    · exact promote_registry _ _

theorem evaluate_registry (reading : RollbackReading) (canaryBundleId : String) (metrics : CanaryMetrics)
    (autoRollback : Bool) :
    (s.evaluateCanaryHealth floats reading canaryBundleId metrics autoRollback).1.registry =
      if !(breaches floats metrics).isEmpty && autoRollback then
        s.registry.quarantineBundle canaryBundleId
          ("Canary health check breached: " ++ String.intercalate "; " (breaches floats metrics))
      else s.registry := by
  unfold evaluateCanaryHealth
  dsimp only
  split
  · rfl
  · rfl

theorem barred_iff (s : CanaryController) (bundleId : String) :
    Barred s bundleId ↔ s.registry.isQuarantined bundleId = true := by
  constructor
  · rintro ⟨_,refused⟩
    obtain ⟨fault,raised⟩ := refused 5
    by_contra released
    simp only [promoteCanaryStage,released,if_false,if_true] at raised
    cases raised
  · intro quarantined
    refine ⟨⟨.valueError,?_⟩,?_⟩
    · simp only [startCanary,quarantined,if_true]
    · intro targetPercentage
      exact ⟨.valueError,by simp only [promoteCanaryStage,quarantined,if_true]⟩

/-- A bundle quarantined besides those already barred. -/
theorem quarantined_step (barred : ∀ bundleId ∈ r.aborted, r.controller.registry.isQuarantined bundleId = true)
    (bundleId reason : String) :
    (∀ id ∈ bundleId :: r.aborted, (r.controller.registry.quarantineBundle bundleId reason).isQuarantined id = true) ↔
      r.controller.registry.getBundle bundleId ≠ none := by
  simp only [ReleaseRegistry.isQuarantined_quarantineBundle]
  constructor
  · intro all
    have own := all bundleId List.mem_cons_self
    rw [if_pos rfl] at own
    exact Option.isSome_iff_ne_none.mp own
  · intro known id listed
    split
    · exact Option.isSome_iff_ne_none.mpr known
    next other => exact barred id (List.mem_of_ne_of_mem other listed)

/-- One operation keeps the aborted bundles barred exactly under its condition. -/
theorem barred_step (barred : AbortedBarred r) (op : CanaryOp) :
    KeepsQuarantine floats r op ↔ AbortedBarred (canaryStep floats r op) := by
  unfold AbortedBarred at barred ⊢
  simp only [barred_iff] at barred ⊢
  cases op with
  | registerBundle manifestData now =>
    change KeepsQuarantine floats r (.registerBundle manifestData now) ↔
      ∀ id ∈ r.aborted, (r.controller.registry.registerBundle manifestData now).1.isQuarantined id = true
    rcases r.controller.registry.registerBundle_cases manifestData now with ⟨fault,failed,same⟩ | ⟨manifest,valid,stored⟩
    · rw [same]
      refine iff_of_true ?_ barred
      intro manifest valid
      rw [failed] at valid
      cases valid
    · rw [stored]
      have own (id : String) : ReleaseRegistry.isQuarantined
          { r.controller.registry with bundles := r.controller.registry.bundles.set manifest.bundleId manifest } id =
            if id = manifest.bundleId then decide (manifest.status = "QUARANTINED")
            else r.controller.registry.isQuarantined id := by
        unfold ReleaseRegistry.isQuarantined
        dsimp only
        rw [Dict.get?_set]
        by_cases named : id = manifest.bundleId
        · simp [named]
        · simp [named]
      constructor
      · intro keeps id listed
        rw [own]
        split
        next named => exact decide_eq_true (keeps manifest valid (named ▸ listed))
        next other => exact barred id listed
      · intro all known accepted listed
        obtain rfl : manifest = known := Except.ok.inj (valid.symm.trans accepted)
        have status := all manifest.bundleId listed
        rw [own,if_pos rfl] at status
        exact of_decide_eq_true status
  | quarantineBundle bundleId reason =>
    apply iff_of_true (by intro id aborted; cases aborted)
    intro id listed
    change (r.controller.registry.quarantineBundle bundleId reason).isQuarantined id = true
    rw [ReleaseRegistry.isQuarantined_quarantineBundle]
    split
    next named =>
      have quarantined := barred id listed
      rw [← named]
      unfold ReleaseRegistry.isQuarantined at quarantined
      split at quarantined
      next known => rw [known]; rfl
      next => cases quarantined
    next => exact barred id listed
  | startCanary canaryBundleId =>
    apply iff_of_true (by intro id aborted; cases aborted)
    intro id listed
    change (r.controller.startCanary canaryBundleId).1.registry.isQuarantined id = true
    rw [start_registry]
    exact barred id listed
  | promoteCanaryStage canaryBundleId targetPercentage =>
    apply iff_of_true (by intro id aborted; cases aborted)
    intro id listed
    change (r.controller.promoteCanaryStage canaryBundleId targetPercentage).1.registry.isQuarantined id = true
    rw [promote_registry]
    exact barred id listed
  | evaluateCanaryHealth reading canaryBundleId metrics autoRollback =>
    have registry : (canaryStep floats r (.evaluateCanaryHealth reading canaryBundleId metrics autoRollback)).controller.registry = _ :=
      evaluate_registry reading canaryBundleId metrics autoRollback
    rw [registry]
    by_cases fired : (!(breaches floats metrics).isEmpty && autoRollback) = true
    · simp only [KeepsQuarantine,canaryStep,abortedBy,fired,if_true,Option.some.injEq,forall_eq',Option.toList_some,
        List.singleton_append]
      exact (quarantined_step barred canaryBundleId _).symm
    · simp only [KeepsQuarantine,canaryStep,abortedBy,fired]
      exact iff_of_true nofun barred
  | abortAndRollback reading canaryBundleId reason =>
    change (∀ id, some canaryBundleId = some id → r.controller.registry.getBundle id ≠ none) ↔
      ∀ id ∈ canaryBundleId :: r.aborted, (r.controller.registry.quarantineBundle canaryBundleId reason).isQuarantined id = true
    rw [quarantined_step barred]
    simp only [Option.some.injEq,forall_eq']

/-- After the abort of a bundle no start and no promotion of it succeeds, all through a run, exactly if
every operation of the run meets the condition. -/
theorem aborted_stay_barred_iff (baselineBundleId : String) (ops : List CanaryOp) :
    Always (canaryStep floats) AbortedBarred ⟨{ baselineBundleId := baselineBundleId },[]⟩ ops ↔
      Along (canaryStep floats) (KeepsQuarantine floats) ⟨{ baselineBundleId := baselineBundleId },[]⟩ ops := by
  have always : Along (canaryStep floats) (fun _ _ => True) ⟨{ baselineBundleId := baselineBundleId },[]⟩ ops :=
    (along_iff _ _ _ _).mpr (fun _ _ _ _ => trivial)
  symm
  apply always_iff_along (canaryStep floats) (I := fun _ => True) (F := fun _ _ => True)
  · intro r op _ _
    trivial
  · intro r op _ _ barred
    exact barred_step barred op
  · trivial
  · intro bundleId listed
    cases listed
  · exact always

end runs

section examples

def roundedFloats : FloatRuntime := ⟨id,fun _ _ => "",fun _ => .none⟩

def rollbackAt (second : Int) : RollbackReading :=
  ⟨"rbk_000000000001",⟨second * 1000000⟩,⟨second * 1000000⟩,fun _ => 0,0⟩

def bundleTwo : ReleaseManifest where
  bundleId := "bundle_2"
  t01BinaryDigest := "sha256:01"
  t02ApiVersion := "v1"
  t03SchemaVersion := "v1"
  t04WorkflowVersion := "v1"
  t05ConnectorVersion := "v1"
  t06PromptDigest := "sha256:06"
  t07ModelSnapshot := "m1"
  t08EmbeddingModel := "e1"
  t09VectorIndexVersion := "v1"
  t10RetrievalConfigDigest := "sha256:10"
  t11PolicyDigest := "sha256:11"
  t12FeatureFlagsDigest := "sha256:12"
  t13TenantConfigVersion := "v1"
  createdAt := ⟨0⟩

/-- An aborted bundle is registered again, qualified, and starts. -/
theorem aborted_bundle_restarts : ¬ Always (canaryStep roundedFloats) AbortedBarred {}
    [.registerBundle (.manifest bundleTwo) ⟨0⟩,.startCanary "bundle_2",
      .abortAndRollback (rollbackAt 1) "bundle_2" "5xx spike",.registerBundle (.manifest bundleTwo) ⟨2000000⟩] := by
  intro always
  have barred : AbortedBarred _ := always _ [] (List.append_nil _).symm
  have quarantined := (barred_iff _ _).mp (barred "bundle_2" (by decide +kernel))
  exact absurd quarantined (by decide +kernel)

end examples
end RevPilot.Operations
