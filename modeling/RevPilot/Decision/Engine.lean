import RevPilot.Constraints.Domain
import RevPilot.Constraints.Evaluator
import RevPilot.Library.Dict
import RevPilot.Library.JsonSpelling
import RevPilot.Library.Sorting
import Mathlib.Data.Prod.Lex
import Mathlib.Data.String.Basic

/-! Decision requests and what the engine makes of them, over any type of money
and of floats. -/
namespace RevPilot.Decision
open Library Shared Constraints

inductive RecommendationStatus : Type
  | recommended | abstained | needMoreEvidence | blocked
  deriving DecidableEq

def RecommendationStatus.value : RecommendationStatus → String
  | .recommended => "RECOMMENDED"
  | .abstained => "ABSTAINED"
  | .needMoreEvidence => "NEED_MORE_EVIDENCE"
  | .blocked => "BLOCKED"

structure DecisionCandidate (Money Real : Type) extends CandidateIntervention Money where
  expectedCate : Real
  cateStandardError : Real
  confidenceInterval95 : Real × Real
  overlapSatisfied : Bool := true
  customRiskPenaltyUsd : Option Money := none
  deriving DecidableEq

structure DecisionRequest (Money Real : Type) where
  tenantId : TenantId
  customerId : String
  customerTier : String
  asOfTime : UtcDateTime
  candidates : List (DecisionCandidate Money Real)
  customerArrUsd : Money
  budgetLedger : BudgetLedgerEntry Money
  activeCapacityCount : Nat := 0
  maxCapacityLimit : Nat := 10
  customerHistoryTimestamps : List UtcDateTime := []
  quarterlyHistoryTimestamps : List UtcDateTime := []
  maxQuarterlyFrequency : Nat := 3
  customerOptOut : Bool := false
  isExcluded : Bool := false
  incidentTreatedCount : Nat := 0
  maxBlastRadius : Nat := 500
  featureTimestamp : UtcDateTime
  maxFeatureStalenessHours : Nat := 24
  riskAversionLambda : Real
  uncertaintyLambda : Real

/-- A request with the identifier it goes under. -/
structure IdentifiedRequest (Money Real : Type) extends DecisionRequest Money Real where
  requestId : UUIDv7

/-- One result of the utility computation. -/
structure ScoredCandidate (Money Real : Type) where
  candidate : DecisionCandidate Money Real
  expectedUtilityUsd : Money
  incrementalGainUsd : Money
  directCostUsd : Money
  riskPenaltyUsd : Money
  uncertaintyPenaltyUsd : Money

structure RankedAlternative (Money Real : Type) where
  candidateId : String
  name : String
  expectedUtilityUsd : Money
  expectedCate : Real
  incrementalGainUsd : Money
  directCostUsd : Money
  riskPenaltyUsd : Money
  uncertaintyPenaltyUsd : Money
  confidenceInterval95 : Real × Real
  rank : Nat

structure TopMetrics (Money Real : Type) where
  expectedUtilityUsd : Money
  expectedCate : Real
  directCostUsd : Money
  riskPenaltyUsd : Money
  uncertaintyPenaltyUsd : Money
  confidenceInterval95 : Real × Real

/-- The recommendation before it is sealed with its digest. -/
structure Recommendation (Money Real : Type) where
  status : RecommendationStatus
  selectedCandidate : Option (DecisionCandidate Money Real)
  topMetrics : TopMetrics Money Real
  rankedAlternatives : List (RankedAlternative Money Real)
  ineligibleCandidates : Dict String (List String)

/-- A recommendation with its digest; its metrics stand in fields of their own. -/
structure RecommendationRecord (Money Real : Type) where
  recommendationId : UUIDv7
  requestId : UUIDv7
  tenantId : TenantId
  selectedCandidateId : Option String
  topMetrics : TopMetrics Money Real
  rankedAlternatives : List (RankedAlternative Money Real)
  ineligibleCandidates : Dict String (List String)
  status : RecommendationStatus
  decisionDigest : String
  createdAt : UtcDateTime

def decisionError (code message : String) (details : List (PyKey × PyValue) := []) : PyError :=
  .domain { code := code, message := message, details := details }

end RevPilot.Decision

/-! The decision pipeline. The sealing step decides nothing: it writes the results
and the identifier that was generated for them into a manifest and hashes it. -/
namespace RevPilot.Decision
open Library Shared Constraints

/-- `format(x, ".1f")` of a float that is not negative. -/
def toFixed1 (x : ℚ) : String :=
  let tenths := halfEven (x * 10).num.natAbs (x * 10).den
  (tenths / 10).repr ++ "." ++ (tenths % 10).repr

namespace DecisionEngine
variable {Money Real : Type} (num : Numerics Money Real)

def baseRiskPenalty : RiskTier → Money
  | .low => num.literal (.finite false 0 (-1))
  | .medium => num.literal (.ofCents 2500)
  | .high => num.literal (.ofCents 10000)

variable (request : DecisionRequest Money Real)

def step1ValidateAuthAndContext : Except PyError Unit :=
  if Text.strip request.tenantId.value = "" then
    .error (decisionError "ERR_TENANT_MISMATCH" "Tenant ID must not be empty")
  else if Text.strip request.customerId = "" then
    .error (decisionError "ERR_INVALID_REQUEST" "Customer ID must not be empty")
  else .ok ()

def step2ValidateTemporalWatermark : Except PyError Unit :=
  if request.asOfTime < request.featureTimestamp then
    .error (decisionError "ERR_TEMPORAL_LEAKAGE" "Feature timestamp exceeds as-of watermark time"
      [(.str "feature_timestamp",.str request.featureTimestamp.isoformat),
        (.str "as_of_time",.str request.asOfTime.isoformat)])
  else
    let stalenessHours := toDouble (secondsBetween request.asOfTime request.featureTimestamp / 3600)
    if (request.maxFeatureStalenessHours : ℚ) < stalenessHours then
      let hours := toFixed1 stalenessHours
      let limit := request.maxFeatureStalenessHours
      .error (decisionError "ERR_STALE_FEATURES" s!"Feature staleness ({hours}h) exceeds limit ({limit}h)")
    else .ok ()

def validateCandidate (cand : DecisionCandidate Money Real) : Except PyError Unit := do
  let id := cand.candidateId
  if ← num.lt cand.estimatedCostUsd (num.literal (.finite false 0 (-1))) then
    throw (decisionError "ERR_INVALID_CANDIDATE_PARAMETERS" s!"Candidate {id} has negative estimated cost")
  if cand.eligibleTiers.isEmpty then
    throw (decisionError "ERR_INVALID_CANDIDATE_PARAMETERS" s!"Candidate {id} must specify eligible tiers")

def step3ValidateCandidateParameters : Except PyError Unit :=
  if request.candidates.isEmpty then
    .error (decisionError "ERR_EMPTY_CANDIDATES" "Decision request must contain at least one candidate intervention")
  else do
    let _ ← request.candidates.mapM (validateCandidate num)
    pure ()

def evaluatorRequest (candidate : DecisionCandidate Money Real) : ConstraintEvaluatorRequest Money where
  tenantId := request.tenantId
  customerId := request.customerId
  customerTier := request.customerTier
  intervention := candidate.toCandidateIntervention
  currentTime := request.asOfTime
  budgetLedger := request.budgetLedger
  activeCapacityCount := request.activeCapacityCount
  maxCapacityLimit := request.maxCapacityLimit
  customerHistoryTimestamps := request.customerHistoryTimestamps
  quarterlyHistoryTimestamps := request.quarterlyHistoryTimestamps
  maxQuarterlyFrequency := request.maxQuarterlyFrequency
  customerOptOut := request.customerOptOut
  isExcluded := request.isExcluded
  incidentTreatedCount := request.incidentTreatedCount
  maxBlastRadius := request.maxBlastRadius
  featureTimestamp := request.featureTimestamp
  maxFeatureStalenessHours := request.maxFeatureStalenessHours

/-- A candidate with the outcome of its hard constraints. -/
def evaluated (candidate : DecisionCandidate Money Real) :
    Except PyError (DecisionCandidate Money Real × ConstraintEvaluationOutcome) := do
  let outcome ← (evaluatorRequest request candidate).evaluateHardConstraints num
  pure (candidate,outcome)

def steps4To7ApplyHardConstraints :
    Except PyError (List (DecisionCandidate Money Real) × Dict String (List String)) := do
  let outcomes ← request.candidates.mapM (evaluated num request)
  let eligible := (outcomes.filter (fun pair => pair.2.isEligible)).map Prod.fst
  let ineligible := outcomes.filter (fun pair => !pair.2.isEligible)
  pure (eligible,ineligible.foldl (fun reasons pair => reasons.set pair.1.candidateId pair.2.violatedConstraints) .empty)

/-- The utility of one candidate. -/
def score (cand : DecisionCandidate Money Real) : Except PyError (ScoredCandidate Money Real) := do
  let customerArr := num.float request.customerArrUsd
  let lambdaRisk := num.decimal request.riskAversionLambda
  let lambdaUnc := num.decimal request.uncertaintyLambda
  let incrementalGainVal := num.roundReal (num.times cand.expectedCate customerArr) 4
  let incrementalGainUsd := num.decimal incrementalGainVal
  let directCostUsd := cand.estimatedCostUsd
  let baseRisk := cand.customRiskPenaltyUsd.getD (baseRiskPenalty num cand.riskTier)
  let riskPenaltyUsd ← num.round (← num.mul lambdaRisk baseRisk) 4
  let uncertaintyMonetary := num.roundReal (num.times cand.cateStandardError customerArr) 4
  let uncertaintyPenaltyUsd ← num.round (← num.mul lambdaUnc (num.decimal uncertaintyMonetary)) 4
  let afterCost ← num.sub incrementalGainUsd directCostUsd
  let afterRisk ← num.sub afterCost riskPenaltyUsd
  let expectedUtilityUsd ← num.sub afterRisk uncertaintyPenaltyUsd
  pure { candidate := cand, expectedUtilityUsd := expectedUtilityUsd, incrementalGainUsd := incrementalGainUsd
         directCostUsd := directCostUsd, riskPenaltyUsd := riskPenaltyUsd
         uncertaintyPenaltyUsd := uncertaintyPenaltyUsd }

def step8ComputeExpectedUtility (eligible : List (DecisionCandidate Money Real)) :
    Except PyError (List (ScoredCandidate Money Real)) := eligible.mapM (score num request)

/-- Higher quantized utility first, then lower cost, lower uncertainty and the identifier. -/
def sortKey (item : ScoredCandidate Money Real) : Real ×ₗ Real ×ₗ Real ×ₗ String :=
  let quantizedU := num.roundReal (num.float item.expectedUtilityUsd) 3
  toLex (num.neg quantizedU,toLex (num.float item.directCostUsd,
    toLex (item.candidate.cateStandardError,item.candidate.candidateId)))

def step9RankCandidates [LinearOrder Real] (items : List (ScoredCandidate Money Real)) :
    List (ScoredCandidate Money Real) := sortedBy (sortKey num) items

/-- The record of one alternative, which accepts numbers only. -/
def rankedAlternative (item : ScoredCandidate Money Real) (rank : Nat) :
    Except PyError (RankedAlternative Money Real) :=
  if [item.expectedUtilityUsd,item.incrementalGainUsd,item.directCostUsd,item.riskPenaltyUsd,
      item.uncertaintyPenaltyUsd].all num.accepts then
    .ok { candidateId := item.candidate.candidateId, name := item.candidate.name
          expectedUtilityUsd := item.expectedUtilityUsd, expectedCate := item.candidate.expectedCate
          incrementalGainUsd := item.incrementalGainUsd, directCostUsd := item.directCostUsd
          riskPenaltyUsd := item.riskPenaltyUsd, uncertaintyPenaltyUsd := item.uncertaintyPenaltyUsd
          confidenceInterval95 := item.candidate.confidenceInterval95, rank := rank }
  else .error .validationError

def step10BuildRankedAlternatives (ranked : List (ScoredCandidate Money Real)) :
    Except PyError (List (RankedAlternative Money Real)) :=
  (ranked.zipIdx 1).mapM (fun pair => rankedAlternative num pair.1 pair.2)

def zeroMetrics : TopMetrics Money Real where
  expectedUtilityUsd := num.literal (.finite false 0 (-1))
  expectedCate := num.zero
  directCostUsd := num.literal (.finite false 0 (-1))
  riskPenaltyUsd := num.literal (.finite false 0 (-1))
  uncertaintyPenaltyUsd := num.literal (.finite false 0 (-1))
  confidenceInterval95 := (num.zero,num.zero)

def topMetrics (top : RankedAlternative Money Real) : TopMetrics Money Real where
  expectedUtilityUsd := top.expectedUtilityUsd
  expectedCate := top.expectedCate
  directCostUsd := top.directCostUsd
  riskPenaltyUsd := top.riskPenaltyUsd
  uncertaintyPenaltyUsd := top.uncertaintyPenaltyUsd
  confidenceInterval95 := top.confidenceInterval95

/-- The eligible candidates by identifier. -/
def candMap (eligible : List (DecisionCandidate Money Real)) : Dict String (DecisionCandidate Money Real) :=
  eligible.foldl (fun map c => map.set c.candidateId c) .empty

def step11DetermineStatus (eligible : List (DecisionCandidate Money Real))
    (alternatives : List (RankedAlternative Money Real)) :
    Except PyError (RecommendationStatus × Option (DecisionCandidate Money Real) × TopMetrics Money Real) :=
  if eligible.isEmpty then .ok (.blocked,none,zeroMetrics num)
  else
    match alternatives with
    | [] => .error (.runtime "list index out of range")
    | topAlt :: _ =>
      match (candMap eligible).get? topAlt.candidateId with
      | none => .error (.runtime "KeyError")
      | some topCand =>
        if topCand.overlapSatisfied = false then .ok (.needMoreEvidence,none,zeroMetrics num)
        else do
          if ← num.le topAlt.expectedUtilityUsd (num.literal (.finite false 0 (-1))) then
            pure (.abstained,none,zeroMetrics num)
          else pure (.recommended,some topCand,topMetrics topAlt)

def executeDecisionPipeline [LinearOrder Real] : Except PyError (Recommendation Money Real) := do
  step1ValidateAuthAndContext request
  step2ValidateTemporalWatermark request
  step3ValidateCandidateParameters num request
  let (eligible,ineligible) ← steps4To7ApplyHardConstraints num request
  let computed ← step8ComputeExpectedUtility num request eligible
  let ranked := step9RankCandidates num computed
  let alternatives ← step10BuildRankedAlternatives num ranked
  let (status,selected,metrics) ← step11DetermineStatus num eligible alternatives
  pure { status := status, selectedCandidate := selected, topMetrics := metrics
         rankedAlternatives := alternatives, ineligibleCandidates := ineligible }

section sealing
open JsonText PyValue

/-- `sha256(text).hexdigest()`, `str` of a decimal and `repr` of a float. -/
structure ManifestTexts (Money Real : Type) where
  sha256 : String → String
  str : Money → String
  repr : Real → FloatText

variable (texts : ManifestTexts Money Real) (identified : IdentifiedRequest Money Real)

def manifest (recommendationId : UUIDv7) (recommendation : Recommendation Money Real) : List (PyKey × PyValue) :=
  [(.str "version",.str "1.0"),(.str "recommendation_id",.str recommendationId.value),
    (.str "request_id",.str identified.requestId.value),(.str "tenant_id",.str identified.tenantId.value),
    (.str "customer_id",.str identified.customerId),(.str "as_of_time",.str identified.asOfTime.isoformat),
    (.str "customer_arr_usd",.str (texts.str identified.customerArrUsd)),
    (.str "risk_aversion_lambda",.float (texts.repr identified.riskAversionLambda)),
    (.str "uncertainty_lambda",.float (texts.repr identified.uncertaintyLambda)),
    (.str "status",.str recommendation.status.value),
    (.str "selected_candidate_id",(recommendation.selectedCandidate.map (fun c => PyValue.str c.candidateId)).getD .none),
    (.str "expected_utility_usd",.str (texts.str recommendation.topMetrics.expectedUtilityUsd)),
    (.str "ranked_candidate_ids",.list (recommendation.rankedAlternatives.map (fun alt => .str alt.candidateId))),
    (.str "ineligible_candidate_ids",
      .list ((sortedBy String.toList recommendation.ineligibleCandidates.keys).map .str))]

def step12ComputeReproducibilityDigest (recommendationId : UUIDv7) (recommendation : Recommendation Money Real) :
    String :=
  texts.sha256 (((PyValue.dict (manifest texts identified recommendationId recommendation)).dumps
    ⟨true,false⟩ noDefault).getD "")

def sealedRecord (recommendationId : UUIDv7) (createdAt : UtcDateTime) (recommendation : Recommendation Money Real) :
    RecommendationRecord Money Real where
  recommendationId := recommendationId
  requestId := identified.requestId
  tenantId := identified.tenantId
  selectedCandidateId := recommendation.selectedCandidate.map (fun c => c.candidateId)
  topMetrics := recommendation.topMetrics
  rankedAlternatives := recommendation.rankedAlternatives
  ineligibleCandidates := recommendation.ineligibleCandidates
  status := recommendation.status
  decisionDigest := step12ComputeReproducibilityDigest texts identified recommendationId recommendation
  createdAt := createdAt

/-- The record of a recommendation accepts numbers only. -/
def TopMetrics.accepted (metrics : TopMetrics Money Real) : Bool :=
  [metrics.expectedUtilityUsd,metrics.directCostUsd,metrics.riskPenaltyUsd,metrics.uncertaintyPenaltyUsd].all num.accepts

/-- One execution of the whole pipeline, with the identifier that it generates and what it reads of the clock. -/
def executeAndSeal [LinearOrder Real] (recommendationId : UUIDv7) (createdAt : UtcDateTime) :
    Except PyError (RecommendationRecord Money Real) := do
  let recommendation ← executeDecisionPipeline num identified.toDecisionRequest
  if TopMetrics.accepted num recommendation.topMetrics then
    return sealedRecord texts identified recommendationId createdAt recommendation
  else throw .validationError

/-- The members of the manifest as they are written. -/
def manifestTrees (recommendationId : UUIDv7) (recommendation : Recommendation Money Real) : List (String × Tree) :=
  [("version",.str "1.0"),("recommendation_id",.str recommendationId.value),
    ("request_id",.str identified.requestId.value),("tenant_id",.str identified.tenantId.value),
    ("customer_id",.str identified.customerId),("as_of_time",.str identified.asOfTime.isoformat),
    ("customer_arr_usd",.str (texts.str identified.customerArrUsd)),
    ("risk_aversion_lambda",.float (texts.repr identified.riskAversionLambda)),
    ("uncertainty_lambda",.float (texts.repr identified.uncertaintyLambda)),
    ("status",.str recommendation.status.value),
    ("selected_candidate_id",(recommendation.selectedCandidate.map (fun c => Tree.str c.candidateId)).getD .null),
    ("expected_utility_usd",.str (texts.str recommendation.topMetrics.expectedUtilityUsd)),
    ("ranked_candidate_ids",.arr (recommendation.rankedAlternatives.map (fun alt => .str alt.candidateId))),
    ("ineligible_candidate_ids",
      .arr ((sortedBy String.toList recommendation.ineligibleCandidates.keys).map .str))]

variable {texts identified}

theorem manifest_written (recommendationId : UUIDv7) (recommendation : Recommendation Money Real) :
    List.Forall₂ (Written noDefault) (manifest texts identified recommendationId recommendation)
      (manifestTrees texts identified recommendationId recommendation) := by
  have list {A : Type} (f : A → String) (xs : List A) :
      toTree noDefault (.list (xs.map (fun x => .str (f x)))) = some (.arr (xs.map (fun x => .str (f x)))) := by
    rw [toTree,toTrees_eq_some.mpr]
    · rfl
    · simp [List.forall₂_map_left_iff,List.forall₂_map_right_iff,List.forall₂_same,toTree]
  have selected : toTree noDefault ((recommendation.selectedCandidate.map (fun c => PyValue.str c.candidateId)).getD .none) =
      some ((recommendation.selectedCandidate.map (fun c => Tree.str c.candidateId)).getD .null) := by
    cases recommendation.selectedCandidate <;> rfl
  unfold manifest manifestTrees
  repeat' apply List.Forall₂.cons
  all_goals try exact ⟨rfl,rfl⟩
  · exact ⟨rfl,selected⟩
  · exact ⟨rfl,list _ _⟩
  · exact ⟨rfl,list _ _⟩
  · exact .nil

theorem digest_eq_iff (injective : Function.Injective texts.sha256) (first second : UUIDv7)
    (recommendation : Recommendation Money Real) :
    step12ComputeReproducibilityDigest texts identified first recommendation =
        step12ComputeReproducibilityDigest texts identified second recommendation ↔ first = second := by
  constructor
  · intro same
    have written := injective same
    rw [dumps,dumps,toTree_dict (manifest_written first recommendation),
      toTree_dict (manifest_written second recommendation)] at written
    have sorted := Tree.obj.inj (render_injective ⟨true,false⟩ written)
    have distinct : ((manifestTrees texts identified first recommendation).map Prod.fst).Nodup := by
      simp [manifestTrees]
    have perm := (sorted_pairs_eq_iff distinct).mp sorted
    have inside : ("recommendation_id",Tree.str first.value) ∈ manifestTrees texts identified second recommendation :=
      perm.mem_iff.mp (by simp [manifestTrees])
    obtain ⟨value⟩ := first
    obtain ⟨other⟩ := second
    simpa [manifestTrees] using inside
  · rintro rfl
    rfl

variable {num}

variable [LinearOrder Real]

theorem executeAndSeal_ok {recommendationId : UUIDv7} {createdAt : UtcDateTime}
    {record : RecommendationRecord Money Real} :
    executeAndSeal num texts identified recommendationId createdAt = .ok record ↔
      ∃ recommendation, executeDecisionPipeline num identified.toDecisionRequest = .ok recommendation ∧
        TopMetrics.accepted num recommendation.topMetrics = true ∧
        record = sealedRecord texts identified recommendationId createdAt recommendation := by
  unfold executeAndSeal
  cases executeDecisionPipeline num identified.toDecisionRequest with
  | error e => simp [bind,Except.bind]
  | ok recommendation =>
    cases accepted : TopMetrics.accepted num recommendation.topMetrics with
    | false => simp [bind,Except.bind,accepted,throw,throwThe,MonadExceptOf.throw]
    | true =>
      simp only [bind,Except.bind,accepted,if_pos,pure,Except.pure,Except.ok.injEq,exists_eq_left',true_and]
      exact eq_comm

theorem executeAndSeal_total {recommendationId : UUIDv7} {createdAt : UtcDateTime}
    {record : RecommendationRecord Money Real}
    (ran : executeAndSeal num texts identified recommendationId createdAt = .ok record) (other : UUIDv7)
    (time : UtcDateTime) : ∃ again, executeAndSeal num texts identified other time = .ok again := by
  obtain ⟨recommendation,decided,accepted,_⟩ := executeAndSeal_ok.mp ran
  exact ⟨_,executeAndSeal_ok.mpr ⟨recommendation,decided,accepted,rfl⟩⟩

theorem runs_digest_iff (injective : Function.Injective texts.sha256) {first second : UUIDv7}
    {firstTime secondTime : UtcDateTime} {a b : RecommendationRecord Money Real}
    (ran : executeAndSeal num texts identified first firstTime = .ok a)
    (again : executeAndSeal num texts identified second secondTime = .ok b) :
    a.decisionDigest = b.decisionDigest ↔ first = second := by
  obtain ⟨recommendation,decided,_,rfl⟩ := executeAndSeal_ok.mp ran
  obtain ⟨other,decided',_,rfl⟩ := executeAndSeal_ok.mp again
  rw [decided] at decided'
  obtain rfl := Except.ok.inj decided'
  exact digest_eq_iff injective first second recommendation

/-- The executions on a request agree on the digest exactly when none of them yields a record; of two that do, the
digests agree when the generated identifiers do. -/
theorem reproducible_iff (texts : ManifestTexts Money Real) (injective : Function.Injective texts.sha256)
    (num : Numerics Money Real) (identified : IdentifiedRequest Money Real) :
    ((∀ first second firstTime secondTime a b, executeAndSeal num texts identified first firstTime = .ok a →
        executeAndSeal num texts identified second secondTime = .ok b → a.decisionDigest = b.decisionDigest) ↔
      ∀ recommendationId createdAt, ∃ raised, executeAndSeal num texts identified recommendationId createdAt =
        .error raised) ∧
    ∀ first second firstTime secondTime a b, executeAndSeal num texts identified first firstTime = .ok a →
      executeAndSeal num texts identified second secondTime = .ok b →
      (a.decisionDigest = b.decisionDigest ↔ first = second) := by
  refine ⟨⟨?_,?_⟩,fun _ _ _ _ _ _ ran again => runs_digest_iff injective ran again⟩
  · intro agree recommendationId createdAt
    cases ran : executeAndSeal num texts identified recommendationId createdAt with
    | error raised => exact ⟨raised,rfl⟩
    | ok record =>
      let drawn : UUIDv7 := ⟨"01920000-0000-7000-8000-000000000001"⟩
      let redrawn : UUIDv7 := ⟨"01920000-0000-7000-8000-000000000002"⟩
      obtain ⟨a,first⟩ := executeAndSeal_total ran drawn createdAt
      obtain ⟨b,second⟩ := executeAndSeal_total ran redrawn createdAt
      have same : drawn = redrawn := (runs_digest_iff injective first second).mp (agree _ _ _ _ _ _ first second)
      exact absurd same (by decide)
  · intro raises first second firstTime secondTime a b ran
    obtain ⟨raised,failed⟩ := raises first firstTime
    rw [failed] at ran
    cases ran

/-- A request for a customer who opted out. -/
def optedOut : IdentifiedRequest ℚ ℚ where
  requestId := ⟨"01920000-0000-7000-8000-00000000000a"⟩
  tenantId := ⟨"tnt_acme",Eq.refl true⟩
  customerId := "cus_1"
  customerTier := "gold"
  asOfTime := ⟨0⟩
  candidates :=
    [{ candidateId := "int_reship", name := "reship", actionType := "RESHIP", estimatedCostUsd := 10
       eligibleTiers := ["gold"], maxFrequencyDays := 0, riskTier := .low, expectedCate := 1/2
       cateStandardError := 0, confidenceInterval95 := (0,0) }]
  customerArrUsd := 1000
  budgetLedger :=
    { tenantId := ⟨"tnt_acme",Eq.refl true⟩, ledgerDate := "2026-10-01", totalAllocatedUsd := 100
      committedExpenditureUsd := 0, remainingBalanceUsd := 100, version := 1 }
  customerOptOut := true
  featureTimestamp := ⟨0⟩
  riskAversionLambda := 1/2
  uncertaintyLambda := 1/2

def optedOutManifest (recommendationId : String) : String :=
  "\x7b\"as_of_time\":\"1970-01-01T00:00:00.000000Z\",\"customer_arr_usd\":\"1000\",\"customer_id\":\"cus_1\"," ++
    "\"expected_utility_usd\":\"0.0\",\"ineligible_candidate_ids\":[\"int_reship\"],\"ranked_candidate_ids\":[]," ++
    "\"recommendation_id\":\"" ++ recommendationId ++ "\",\"request_id\":\"01920000-0000-7000-8000-00000000000a\"," ++
    "\"risk_aversion_lambda\":0.5,\"selected_candidate_id\":null,\"status\":\"BLOCKED\",\"tenant_id\":\"tnt_acme\"," ++
    "\"uncertainty_lambda\":0.5,\"version\":\"1.0\"\x7d"

/-- SHA-256 on the manifests of two executions, and the texts of the numbers in them. -/
def sampleTexts : ManifestTexts ℚ ℚ where
  sha256 := tabled ("preimage of " ++ ·)
    [(optedOutManifest "01920000-0000-7000-8000-000000000001",
        "b525e3afc9f10b1a88155f8f953be5c2b2d3eccfc5b704193d96c1c4c393d196"),
      (optedOutManifest "01920000-0000-7000-8000-000000000002",
        "3d5f028b05660e9ac674a120407b1525a76e3b9907ecc78efa7eaf0c1b2381de")]
  str amount := if amount = 0 then "0.0" else amount.num.repr
  repr _ := ⟨['0','.','5'],Eq.refl true⟩

theorem sampleTexts_injective : Function.Injective sampleTexts.sha256 := by
  apply tabled_injective (fun _ _ same => (String.append_right_inj _).mp same) (by decide +kernel)
  intro entry member text same
  have head := congrArg (fun digest => digest.toList.head?) same
  fin_cases member <;> simp at head

def digestOfRun (recommendationId : String) (createdAt : UtcDateTime) : Option String :=
  (executeAndSeal exactRationals sampleTexts optedOut ⟨recommendationId⟩ createdAt).toOption.map
    (fun record => record.decisionDigest)

/-- The characters of the manifest that an execution seals. -/
def charsOfRun (recommendationId : String) : Option (List Char) :=
  (executeDecisionPipeline exactRationals optedOut.toDecisionRequest).toOption.bind fun recommendation =>
    if TopMetrics.accepted exactRationals recommendation.topMetrics = true then
      (toTree noDefault (.dict (manifest sampleTexts optedOut ⟨recommendationId⟩ recommendation))).map (print ⟨true,false⟩)
    else Option.none

theorem digest_of_chars {recommendationId : String} {chars : List Char} (createdAt : UtcDateTime)
    (written : charsOfRun recommendationId = some chars) :
    digestOfRun recommendationId createdAt = some (sampleTexts.sha256 (String.ofList chars)) := by
  unfold charsOfRun at written
  cases decided : executeDecisionPipeline exactRationals optedOut.toDecisionRequest with
  | error raised =>
    rw [decided] at written
    cases written
  | ok recommendation =>
    rw [decided] at written
    change (if TopMetrics.accepted exactRationals recommendation.topMetrics = true then _ else Option.none) = some chars at written
    split at written
    next accepted =>
      obtain ⟨tree,read,rfl⟩ := Option.map_eq_some_iff.mp written
      have ran : executeAndSeal exactRationals sampleTexts optedOut ⟨recommendationId⟩ createdAt =
          .ok (sealedRecord sampleTexts optedOut ⟨recommendationId⟩ createdAt recommendation) :=
        executeAndSeal_ok.mpr ⟨recommendation,decided,accepted,rfl⟩
      unfold digestOfRun
      rw [ran]
      change some (step12ComputeReproducibilityDigest sampleTexts optedOut ⟨recommendationId⟩ recommendation) = _
      rw [step12ComputeReproducibilityDigest,dumps,read]
      rfl
    next => cases written

theorem tabled_cons_self (other : String → String) (table : List (String × String)) (key value : String) :
    tabled other ((key,value) :: table) key = value := by
  rw [tabled,List.lookup_cons_self]
  rfl

theorem tabled_cons_ne {other : String → String} {table : List (String × String)} {key first value : String}
    (apart : key ≠ first) : tabled other ((first,value) :: table) key = tabled other table key := by
  rw [tabled,List.lookup_cons,beq_eq_false_iff_ne.mpr apart]
  rfl

theorem sampleTexts_sha256 : sampleTexts.sha256 = tabled ("preimage of " ++ ·)
    [(optedOutManifest "01920000-0000-7000-8000-000000000001",
        "b525e3afc9f10b1a88155f8f953be5c2b2d3eccfc5b704193d96c1c4c393d196"),
      (optedOutManifest "01920000-0000-7000-8000-000000000002",
        "3d5f028b05660e9ac674a120407b1525a76e3b9907ecc78efa7eaf0c1b2381de")] := rfl

theorem append_of_chars {s t : String} {xs ys : List Char} (left : s = String.ofList xs) (right : t = String.ofList ys) :
    s ++ t = String.ofList (xs ++ ys) := by
  rw [left,right,String.ofList_append]

theorem digest_of_text {recommendationId digest : String} {chars : List Char} (createdAt : UtcDateTime)
    (text : optedOutManifest recommendationId = String.ofList chars) (written : charsOfRun recommendationId = some chars)
    (hash : sampleTexts.sha256 (optedOutManifest recommendationId) = digest) :
    digestOfRun recommendationId createdAt = some digest := by
  rw [digest_of_chars createdAt written,← text,hash]

theorem optedOutManifest_injective : Function.Injective optedOutManifest := by
  intro first second same
  unfold optedOutManifest at same
  simpa only [String.append_left_inj,String.append_right_inj] using same

set_option maxRecDepth 4000 in
theorem first_digest : digestOfRun "01920000-0000-7000-8000-000000000001" ⟨1⟩ =
    some "b525e3afc9f10b1a88155f8f953be5c2b2d3eccfc5b704193d96c1c4c393d196" := by
  have text : optedOutManifest "01920000-0000-7000-8000-000000000001" = String.ofList _ :=
    append_of_chars (append_of_chars (append_of_chars (append_of_chars (append_of_chars (append_of_chars rfl rfl) rfl)
      rfl) rfl) rfl) rfl
  exact digest_of_text ⟨1⟩ text (by decide +kernel) (by rw [sampleTexts_sha256,tabled_cons_self])

set_option maxRecDepth 4000 in
theorem second_digest : digestOfRun "01920000-0000-7000-8000-000000000002" ⟨2⟩ =
    some "3d5f028b05660e9ac674a120407b1525a76e3b9907ecc78efa7eaf0c1b2381de" := by
  have text : optedOutManifest "01920000-0000-7000-8000-000000000002" = String.ofList _ :=
    append_of_chars (append_of_chars (append_of_chars (append_of_chars (append_of_chars (append_of_chars rfl rfl) rfl)
      rfl) rfl) rfl) rfl
  have other : optedOutManifest "01920000-0000-7000-8000-000000000002" ≠
      optedOutManifest "01920000-0000-7000-8000-000000000001" :=
    fun same => absurd (optedOutManifest_injective same) (by decide)
  exact digest_of_text ⟨2⟩ text (by decide +kernel)
    (by rw [sampleTexts_sha256,tabled_cons_ne other,tabled_cons_self])

theorem record_of_digest {recommendationId digest : String} {createdAt : UtcDateTime}
    (found : digestOfRun recommendationId createdAt = some digest) : ∃ record,
      executeAndSeal exactRationals sampleTexts optedOut ⟨recommendationId⟩ createdAt = .ok record ∧
      record.decisionDigest = digest := by
  obtain ⟨record,returned,same⟩ := Option.map_eq_some_iff.mp found
  cases ran : executeAndSeal exactRationals sampleTexts optedOut ⟨recommendationId⟩ createdAt with
  | error raised =>
    rw [ran] at returned
    cases returned
  | ok other =>
    rw [ran] at returned
    obtain rfl := Option.some.inj returned
    exact ⟨other,rfl,same⟩

theorem optedOut_digests_differ :
    ¬ ∀ (identified : IdentifiedRequest ℚ ℚ) (first second : UUIDv7) (firstTime secondTime : UtcDateTime)
      (a b : RecommendationRecord ℚ ℚ), executeAndSeal exactRationals sampleTexts identified first firstTime = .ok a →
      executeAndSeal exactRationals sampleTexts identified second secondTime = .ok b →
      a.decisionDigest = b.decisionDigest := by
  intro reproducible
  obtain ⟨a,ran,digest⟩ := record_of_digest first_digest
  obtain ⟨b,again,digest'⟩ := record_of_digest second_digest
  have same := reproducible optedOut _ _ _ _ a b ran again
  rw [digest,digest'] at same
  exact absurd same (by decide)

theorem optedOut_never_reproducible :
    ¬ ∀ first second firstTime secondTime a b,
      executeAndSeal exactRationals sampleTexts optedOut first firstTime = .ok a →
      executeAndSeal exactRationals sampleTexts optedOut second secondTime = .ok b →
      a.decisionDigest = b.decisionDigest := by
  intro agree
  have raises := (reproducible_iff sampleTexts sampleTexts_injective exactRationals optedOut).1.mp agree
  obtain ⟨raised,failed⟩ := raises ⟨"01920000-0000-7000-8000-000000000001"⟩ ⟨1⟩
  obtain ⟨record,ran,_⟩ := record_of_digest first_digest
  rw [failed] at ran
  cases ran

end sealing
end DecisionEngine
end RevPilot.Decision
