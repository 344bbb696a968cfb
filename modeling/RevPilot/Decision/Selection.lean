import RevPilot.Decision.Engine

/-! The candidate that a recommendation selects against the one that is ranked
first. The lookup by identifier finds the last eligible candidate of a name. -/
namespace RevPilot.Decision
open Library Shared Constraints Outcome

namespace DecisionEngine
variable {Money Real : Type} (num : Numerics Money Real) (request : DecisionRequest Money Real)

/-- The amounts of an item are accepted by the record of its alternative. -/
def Accepted (item : ScoredCandidate Money Real) : Prop :=
  [item.expectedUtilityUsd,item.incrementalGainUsd,item.directCostUsd,item.riskPenaltyUsd,
    item.uncertaintyPenaltyUsd].all num.accepts = true

def metricsOf (item : ScoredCandidate Money Real) : TopMetrics Money Real where
  expectedUtilityUsd := item.expectedUtilityUsd
  expectedCate := item.candidate.expectedCate
  directCostUsd := item.directCostUsd
  riskPenaltyUsd := item.riskPenaltyUsd
  uncertaintyPenaltyUsd := item.uncertaintyPenaltyUsd
  confidenceInterval95 := item.candidate.confidenceInterval95

/-- The expected utility is above zero. -/
def Viable (item : ScoredCandidate Money Real) : Prop :=
  num.le item.expectedUtilityUsd (num.literal (.finite false 0 (-1))) = .ok false

theorem score_candidate {cand : DecisionCandidate Money Real} {item : ScoredCandidate Money Real}
    (ok : score num request cand = .ok item) : item.candidate = cand := by
  simp only [score,bind_eq_ok,pure_eq_ok] at ok
  obtain ⟨_,_,_,_,_,_,_,_,_,_,_,_,_,_,rfl⟩ := ok
  rfl

variable {num}

theorem rankedAlternative_ok {item : ScoredCandidate Money Real} {rank : Nat} {alt : RankedAlternative Money Real}
    (ok : rankedAlternative num item rank = .ok alt) : alt.candidateId = item.candidate.candidateId ∧
      alt.expectedUtilityUsd = item.expectedUtilityUsd ∧ topMetrics alt = metricsOf item := by
  unfold rankedAlternative at ok
  split at ok
  next =>
    cases ok
    exact ⟨rfl,rfl,rfl⟩
  next => cases ok

theorem accepted_iff (item : ScoredCandidate Money Real) (rank : Nat) :
    (∃ alt, rankedAlternative num item rank = .ok alt) ↔ Accepted num item := by
  unfold rankedAlternative Accepted
  split
  next accepted => simp [accepted]
  next refused => simp [refused]

/-- The first alternative is the record of the item that is ranked first. -/
theorem alternatives_head {ranked : List (ScoredCandidate Money Real)}
    {alternatives : List (RankedAlternative Money Real)} (ok : step10BuildRankedAlternatives num ranked = .ok alternatives)
    {item : ScoredCandidate Money Real} (first : ranked.head? = some item) :
    ∃ alt rest, alternatives = alt :: rest ∧ rankedAlternative num item 1 = .ok alt := by
  cases ranked with
  | nil => cases first
  | cons head tail =>
    obtain rfl := Option.some.inj first
    rw [step10BuildRankedAlternatives,List.zipIdx_cons,mapM_eq_ok] at ok
    cases alternatives with
    | nil => cases ok
    | cons alt rest => exact ⟨alt,rest,rfl,(List.cons.inj ok).1⟩

theorem alternatives_ok {ranked : List (ScoredCandidate Money Real)} (accepted : ∀ item ∈ ranked, Accepted num item) :
    ∃ alternatives, step10BuildRankedAlternatives num ranked = .ok alternatives := by
  unfold step10BuildRankedAlternatives
  generalize 1 = start
  induction ranked generalizing start with
  | nil => exact ⟨[],rfl⟩
  | cons item rest ih =>
    obtain ⟨alt,ok⟩ := (accepted_iff item start).mpr (accepted item List.mem_cons_self)
    obtain ⟨alternatives,others⟩ := ih (fun other inside => accepted other (List.mem_cons_of_mem item inside)) (start + 1)
    refine ⟨alt :: alternatives,?_⟩
    rw [mapM_eq_ok] at others ⊢
    simp [List.zipIdx_cons,ok,others]

theorem alternatives_accepted {ranked : List (ScoredCandidate Money Real)}
    {alternatives : List (RankedAlternative Money Real)} (ok : step10BuildRankedAlternatives num ranked = .ok alternatives) :
    ∀ item ∈ ranked, Accepted num item := by
  unfold step10BuildRankedAlternatives at ok
  generalize 1 = start at ok
  induction ranked generalizing start alternatives with
  | nil => nofun
  | cons item rest ih =>
    rw [mapM_eq_ok,List.zipIdx_cons] at ok
    cases alternatives with
    | nil => cases ok
    | cons alt others =>
      obtain ⟨first,later⟩ := List.cons.inj ok
      intro other inside
      rcases List.mem_cons.mp inside with rfl | inside
      · exact (accepted_iff other start).mp ⟨alt,first⟩
      · exact ih (start + 1) (mapM_eq_ok.mpr later) other inside

/-- The lookup finds the last eligible candidate with the identifier. -/
theorem candMap_get (eligible : List (DecisionCandidate Money Real)) (id : String) :
    (candMap eligible).get? id = eligible.reverse.find? (fun c => c.candidateId = id) := by
  rw [candMap,Dict.get?_foldl_set]
  simp

theorem eligible_spec {eligible : List (DecisionCandidate Money Real)} {reasons : Dict String (List String)}
    (ok : steps4To7ApplyHardConstraints num request = .ok (eligible,reasons)) {cand : DecisionCandidate Money Real}
    (inside : cand ∈ eligible) : cand ∈ request.candidates ∧ (evaluatorRequest request cand).Passes num := by
  simp only [steps4To7ApplyHardConstraints,bind_eq_ok,pure_eq_ok,Prod.mk.injEq] at ok
  obtain ⟨outcomes,all,rfl,_⟩ := ok
  obtain ⟨pair,kept,rfl⟩ := List.mem_map.mp inside
  obtain ⟨stored,eligible⟩ := List.mem_filter.mp kept
  rw [mapM_eq_ok] at all
  have source : Except.ok pair ∈ request.candidates.map (evaluated num request) := by
    rw [all]
    exact List.mem_map_of_mem stored
  obtain ⟨cand,requested,evaluation⟩ := List.mem_map.mp source
  simp only [evaluated,bind_eq_ok,pure_eq_ok] at evaluation
  obtain ⟨outcome,ok,rfl⟩ := evaluation
  exact ⟨requested,ConstraintEvaluatorRequest.eligible_passes num _ ok eligible⟩

theorem recommended_iff {eligible : List (DecisionCandidate Money Real)}
    {alternatives : List (RankedAlternative Money Real)} {selected : Option (DecisionCandidate Money Real)}
    {metrics : TopMetrics Money Real} :
    step11DetermineStatus num eligible alternatives = .ok (.recommended,selected,metrics) ↔
      ∃ topAlt rest topCand, alternatives = topAlt :: rest ∧ (candMap eligible).get? topAlt.candidateId = some topCand ∧
        topCand.overlapSatisfied = true ∧
        num.le topAlt.expectedUtilityUsd (num.literal (.finite false 0 (-1))) = .ok false ∧
        selected = some topCand ∧ metrics = topMetrics topAlt := by
  constructor
  · intro ok
    unfold step11DetermineStatus at ok
    split at ok
    next => cases ok
    next =>
      split at ok
      next => cases ok
      next topAlt rest =>
        split at ok
        next => cases ok
        next topCand found =>
          split at ok
          next => cases ok
          next overlap =>
            obtain ⟨worthless,compared,result⟩ := bind_eq_ok.mp ok
            split at result
            next => cases pure_eq_ok.mp result
            next positive =>
              cases pure_eq_ok.mp result
              have above : worthless = false := by simpa using positive
              exact ⟨topAlt,rest,topCand,rfl,found,by simpa using overlap,above ▸ compared,rfl,rfl⟩
  · rintro ⟨topAlt,rest,topCand,rfl,found,overlap,positive,rfl,rfl⟩
    have some_eligible : ¬ eligible.isEmpty = true := by
      intro empty
      rw [List.isEmpty_iff.mp empty] at found
      cases found
    simp [step11DetermineStatus,some_eligible,found,overlap,positive,bind,Except.bind,pure,Except.pure]

variable (num)

/-- The request passes the checks, and these are its eligible candidates and their utilities. -/
structure Prepared (eligible : List (DecisionCandidate Money Real)) (computed : List (ScoredCandidate Money Real)) :
    Prop where
  auth : step1ValidateAuthAndContext request = .ok ()
  watermark : step2ValidateTemporalWatermark request = .ok ()
  parameters : step3ValidateCandidateParameters num request = .ok ()
  constraints : ∃ reasons, steps4To7ApplyHardConstraints num request = .ok (eligible,reasons)
  utilities : step8ComputeExpectedUtility num request eligible = .ok computed
  numbers : ∀ item ∈ computed, Accepted num item

theorem computed_source {num : Numerics Money Real} {request : DecisionRequest Money Real}
    {eligible : List (DecisionCandidate Money Real)} {computed : List (ScoredCandidate Money Real)}
    (ok : step8ComputeExpectedUtility num request eligible = .ok computed) {item : ScoredCandidate Money Real}
    (inside : item ∈ computed) : item.candidate ∈ eligible ∧ score num request item.candidate = .ok item := by
  have source : Except.ok item ∈ eligible.map (score num request) := by
    rw [mapM_eq_ok.mp ok]
    exact List.mem_map_of_mem inside
  obtain ⟨cand,eligible,ok⟩ := List.mem_map.mp source
  rw [score_candidate num request ok]
  exact ⟨eligible,ok⟩

variable [LinearOrder Real]

theorem execute_ok {recommendation : Recommendation Money Real} :
    executeDecisionPipeline num request = .ok recommendation ↔
      ∃ eligible reasons computed alternatives status selected metrics,
        step1ValidateAuthAndContext request = .ok () ∧ step2ValidateTemporalWatermark request = .ok () ∧
        step3ValidateCandidateParameters num request = .ok () ∧
        steps4To7ApplyHardConstraints num request = .ok (eligible,reasons) ∧
        step8ComputeExpectedUtility num request eligible = .ok computed ∧
        step10BuildRankedAlternatives num (step9RankCandidates num computed) = .ok alternatives ∧
        step11DetermineStatus num eligible alternatives = .ok (status,selected,metrics) ∧
        recommendation = ⟨status,selected,metrics,alternatives,reasons⟩ := by
  constructor
  · intro ok
    simp only [executeDecisionPipeline,bind_eq_ok,pure_eq_ok] at ok
    obtain ⟨_,auth,_,watermark,_,parameters,⟨eligible,reasons⟩,constraints,computed,utilities,alternatives,records,
      ⟨status,selected,metrics⟩,decided,rfl⟩ := ok
    exact ⟨eligible,reasons,computed,alternatives,status,selected,metrics,auth,watermark,parameters,constraints,
      utilities,records,decided,rfl⟩
  · rintro ⟨eligible,reasons,computed,alternatives,status,selected,metrics,auth,watermark,parameters,constraints,
      utilities,records,decided,rfl⟩
    simp [executeDecisionPipeline,auth,watermark,parameters,constraints,utilities,records,decided,bind,Except.bind]

/-- A recommendation and the items behind it. -/
theorem execute_recommended (selected : Option (DecisionCandidate Money Real)) (metrics : TopMetrics Money Real) :
    (∃ recommendation, executeDecisionPipeline num request = .ok recommendation ∧
      recommendation.status = .recommended ∧ recommendation.selectedCandidate = selected ∧
      recommendation.topMetrics = metrics) ↔
    ∃ eligible computed best chosen, Prepared num request eligible computed ∧
      computed.argmin (sortKey num) = some best ∧ Viable num best ∧
      eligible.reverse.find? (fun c => c.candidateId = best.candidate.candidateId) = some chosen ∧
      chosen.overlapSatisfied = true ∧ selected = some chosen ∧ metrics = metricsOf best := by
  have accepted_ranked (computed : List (ScoredCandidate Money Real)) :
      (∀ item ∈ step9RankCandidates num computed, Accepted num item) ↔ ∀ item ∈ computed, Accepted num item := by
    simp [step9RankCandidates,mem_sortedBy]
  constructor
  · rintro ⟨recommendation,ok,status,rfl,rfl⟩
    obtain ⟨eligible,reasons,computed,alternatives,_,_,_,auth,watermark,parameters,constraints,utilities,records,
      decided,rfl⟩ := (execute_ok num request).mp ok
    obtain rfl := status
    obtain ⟨topAlt,rest,topCand,rfl,found,overlap,positive,rfl,rfl⟩ := recommended_iff.mp decided
    have numbers := (accepted_ranked computed).mp (alternatives_accepted records)
    cases first : (step9RankCandidates num computed).head? with
    | none =>
      rw [List.head?_eq_none_iff] at first
      rw [first] at records
      cases records
    | some best =>
      obtain ⟨alt,others,same,record⟩ := alternatives_head records first
      obtain ⟨rfl,_⟩ := List.cons.inj same
      obtain ⟨id,utility,figures⟩ := rankedAlternative_ok record
      rw [step9RankCandidates,head_sortedBy] at first
      rw [candMap_get,id] at found
      rw [utility] at positive
      exact ⟨eligible,computed,best,topCand,⟨auth,watermark,parameters,⟨reasons,constraints⟩,utilities,numbers⟩,first,
        positive,found,overlap,rfl,figures⟩
  · rintro ⟨eligible,computed,best,chosen,prepared,least,viable,found,overlap,rfl,rfl⟩
    obtain ⟨reasons,constraints⟩ := prepared.constraints
    obtain ⟨alternatives,records⟩ := alternatives_ok ((accepted_ranked computed).mpr prepared.numbers)
    have first : (step9RankCandidates num computed).head? = some best := by
      rw [step9RankCandidates,head_sortedBy,least]
    obtain ⟨alt,rest,rfl,record⟩ := alternatives_head records first
    obtain ⟨id,utility,figures⟩ := rankedAlternative_ok record
    have decided : step11DetermineStatus num eligible (alt :: rest) = .ok (.recommended,some chosen,metricsOf best) := by
      refine recommended_iff.mpr ⟨alt,rest,chosen,rfl,?_,overlap,?_,rfl,figures.symm⟩
      · rw [candMap_get,id,found]
      · rw [utility]
        exact viable
    have ok : executeDecisionPipeline num request = .ok ⟨.recommended,some chosen,metricsOf best,alt :: rest,reasons⟩ :=
      (execute_ok num request).mpr ⟨eligible,reasons,computed,alt :: rest,.recommended,some chosen,metricsOf best,
        prepared.auth,prepared.watermark,prepared.parameters,constraints,prepared.utilities,records,decided,rfl⟩
    exact ⟨_,ok,rfl,rfl,rfl⟩

/-- The item that the ranking puts first. -/
def RankedFirst (item : ScoredCandidate Money Real) : Prop :=
  ∃ eligible reasons computed, steps4To7ApplyHardConstraints num request = .ok (eligible,reasons) ∧
    step8ComputeExpectedUtility num request eligible = .ok computed ∧
    (step9RankCandidates num computed).head? = some item

/-- A selected candidate of the request that passes the hard constraints, has
overlap and positive utility, is ranked first and gave the metrics. -/
structure SelectedSoundly (metrics : TopMetrics Money Real) (selected : DecisionCandidate Money Real) : Prop where
  requested : selected ∈ request.candidates
  passes : (evaluatorRequest request selected).Passes num
  overlap : selected.overlapSatisfied = true
  first : ∃ item, RankedFirst num request item ∧ score num request selected = .ok item ∧ Viable num item ∧
    metrics = metricsOf item

/-- The last eligible candidate that bears the identifier of the best one is the
best one, unless it lacks overlap or the best one has no positive utility. -/
def Unambiguous : Prop :=
  ∀ eligible computed best chosen, Prepared num request eligible computed →
    computed.argmin (sortKey num) = some best → Viable num best →
    eligible.reverse.find? (fun c => c.candidateId = best.candidate.candidateId) = some chosen →
    chosen.overlapSatisfied = true → chosen = best.candidate

/-- Every recommendation selects soundly exactly when the request is unambiguous. -/
theorem recommendation_sound_iff :
    (∀ recommendation, executeDecisionPipeline num request = .ok recommendation →
      recommendation.status = .recommended → ∃ selected, recommendation.selectedCandidate = some selected ∧
        SelectedSoundly num request recommendation.topMetrics selected) ↔ Unambiguous num request := by
  constructor
  · intro sound eligible computed best chosen prepared least viable found overlap
    obtain ⟨recommendation,ok,status,selection,_⟩ := (execute_recommended num request (some chosen) (metricsOf best)).mpr
      ⟨eligible,computed,best,chosen,prepared,least,viable,found,overlap,rfl,rfl⟩
    obtain ⟨selected,chosen_selected,soundly⟩ := sound recommendation ok status
    rw [selection] at chosen_selected
    obtain rfl := Option.some.inj chosen_selected
    obtain ⟨item,⟨eligible',reasons',computed',constraints',utilities',first⟩,scored,_⟩ := soundly.first
    obtain ⟨reasons,constraints⟩ := prepared.constraints
    rw [constraints] at constraints'
    obtain ⟨rfl,_⟩ := Prod.mk.inj (Except.ok.inj constraints')
    rw [prepared.utilities] at utilities'
    obtain rfl := Except.ok.inj utilities'
    rw [step9RankCandidates,head_sortedBy,least] at first
    obtain rfl := Option.some.inj first
    exact (score_candidate num request scored).symm
  · intro unambiguous recommendation ok status
    obtain ⟨eligible,computed,best,chosen,prepared,least,viable,found,overlap,selection,metrics⟩ :=
      (execute_recommended num request _ _).mp ⟨recommendation,ok,status,rfl,rfl⟩
    obtain rfl := unambiguous eligible computed best chosen prepared least viable found overlap
    obtain ⟨inside,scored⟩ := computed_source prepared.utilities (List.argmin_mem least)
    obtain ⟨reasons,constraints⟩ := prepared.constraints
    obtain ⟨requested,passes⟩ := eligible_spec request constraints inside
    have first : (step9RankCandidates num computed).head? = some best := by
      rw [step9RankCandidates,head_sortedBy,least]
    exact ⟨best.candidate,selection,requested,passes,overlap,
      ⟨best,⟨eligible,reasons,computed,constraints,prepared.utilities,first⟩,scored,viable,metrics⟩⟩

def acme : TenantId := ⟨"tnt_acme",Eq.refl true⟩

/-- An eligible candidate of the request below. -/
def reship (name : String) (expectedCate : ℚ) (overlapSatisfied : Bool) : DecisionCandidate ℚ ℚ where
  candidateId := "int_reship"
  name := name
  actionType := "RESHIP"
  estimatedCostUsd := 10
  eligibleTiers := ["gold"]
  maxFrequencyDays := 0
  riskTier := .low
  expectedCate := expectedCate
  cateStandardError := 0
  confidenceInterval95 := (0,0)
  overlapSatisfied := overlapSatisfied

/-- Two candidates of one identifier; the better one lacks overlap. -/
def twinRequest : DecisionRequest ℚ ℚ where
  tenantId := acme
  customerId := "cus_1"
  customerTier := "gold"
  asOfTime := ⟨0⟩
  candidates := [reship "fast" (1/2) false,reship "slow" (1/10) true]
  customerArrUsd := 1000
  budgetLedger :=
    { tenantId := acme, ledgerDate := "2026-10-01", totalAllocatedUsd := 100, committedExpenditureUsd := 0
      remainingBalanceUsd := 100, version := 1 }
  featureTimestamp := ⟨0⟩
  riskAversionLambda := 1/2
  uncertaintyLambda := 1/2

theorem twin_selected_without_first :
    ¬ ∀ (request : DecisionRequest ℚ ℚ) (recommendation : Recommendation ℚ ℚ),
      executeDecisionPipeline exactRationals request = .ok recommendation → recommendation.status = .recommended →
      ∃ selected, recommendation.selectedCandidate = some selected ∧
        SelectedSoundly exactRationals request recommendation.topMetrics selected := by
  intro sound
  have outcome : (executeDecisionPipeline exactRationals twinRequest).toOption.map (fun recommendation =>
      (recommendation.status,recommendation.selectedCandidate,recommendation.topMetrics.expectedUtilityUsd)) =
      some (.recommended,some (reship "slow" (1/10) true),490) := by decide +kernel
  obtain ⟨recommendation,returned,fields⟩ := Option.map_eq_some_iff.mp outcome
  obtain ⟨status,selection,utility⟩ : recommendation.status = .recommended ∧
      recommendation.selectedCandidate = some (reship "slow" (1/10) true) ∧
      recommendation.topMetrics.expectedUtilityUsd = 490 := by simpa using fields
  have ok : executeDecisionPipeline exactRationals twinRequest = .ok recommendation := by
    cases result : executeDecisionPipeline exactRationals twinRequest with
    | error failure =>
      rw [result] at returned
      cases returned
    | ok other =>
      rw [result] at returned
      exact congrArg Except.ok (Option.some.inj returned)
  obtain ⟨selected,chosen,soundly⟩ := sound twinRequest recommendation ok status
  rw [selection] at chosen
  obtain rfl := Option.some.inj chosen
  obtain ⟨item,_,scored,_,metrics⟩ := soundly.first
  have own : (score exactRationals twinRequest (reship "slow" (1/10) true)).toOption.map
      ScoredCandidate.expectedUtilityUsd = some 90 := by decide +kernel
  rw [scored] at own
  have lower : item.expectedUtilityUsd = 90 := Option.some.inj own
  rw [metrics] at utility
  rw [show (metricsOf item).expectedUtilityUsd = 90 from lower] at utility
  norm_num at utility

end DecisionEngine
end RevPilot.Decision
