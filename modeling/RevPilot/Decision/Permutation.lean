import RevPilot.Decision.Selection

/-! The recommendation does not depend on the order of candidates with distinct
identifiers. -/
namespace RevPilot.Decision
open Library Shared Constraints Outcome

namespace DecisionEngine
variable {Money Real : Type}

/-- A lookup among distinct identifiers finds what bears the identifier. -/
theorem find_iff {eligible : List (DecisionCandidate Money Real)}
    (distinct : (eligible.map (fun c => c.candidateId)).Nodup) (id : String) (c : DecisionCandidate Money Real) :
    eligible.find? (fun c => c.candidateId = id) = some c ↔ c ∈ eligible ∧ c.candidateId = id := by
  induction eligible with
  | nil => simp
  | cons first rest ih =>
    rw [List.map_cons,List.nodup_cons] at distinct
    obtain ⟨absent,rest_distinct⟩ := distinct
    by_cases here : first.candidateId = id
    · simp only [List.find?_cons,here,decide_true,Option.some.injEq,List.mem_cons]
      constructor
      · rintro rfl
        exact ⟨.inl rfl,here⟩
      · rintro ⟨rfl | inside,same⟩
        · rfl
        · rw [here,← same] at absent
          exact absurd (List.mem_map_of_mem inside) absent
    · simp only [List.find?_cons,here,decide_false,ih rest_distinct,List.mem_cons]
      constructor
      · rintro ⟨inside,same⟩
        exact ⟨.inr inside,same⟩
      · rintro ⟨rfl | inside,same⟩
        · exact absurd same here
        · exact ⟨inside,same⟩

theorem candMap_perm {eligible eligible' : List (DecisionCandidate Money Real)} (perm : eligible.Perm eligible')
    (distinct : (eligible.map (fun c => c.candidateId)).Nodup) (id : String) :
    (candMap eligible).get? id = (candMap eligible').get? id := by
  have reversed {xs : List (DecisionCandidate Money Real)} (apart : (xs.map (fun c => c.candidateId)).Nodup) :
      (xs.reverse.map (fun c => c.candidateId)).Nodup := by
    rw [List.map_reverse]
    exact List.nodup_reverse.mpr apart
  have distinct' := (perm.map (fun c => c.candidateId)).nodup_iff.mp distinct
  apply Option.ext
  intro c
  rw [candMap_get,candMap_get,find_iff (reversed distinct),find_iff (reversed distinct'),List.mem_reverse,
    List.mem_reverse,perm.mem_iff]

variable (num : Numerics Money Real)

theorem status_perm {eligible eligible' : List (DecisionCandidate Money Real)} (perm : eligible.Perm eligible')
    (distinct : (eligible.map (fun c => c.candidateId)).Nodup) (alternatives : List (RankedAlternative Money Real)) :
    step11DetermineStatus num eligible alternatives = step11DetermineStatus num eligible' alternatives := by
  simp only [step11DetermineStatus,perm.isEmpty_eq,candMap_perm perm distinct]

variable (request : DecisionRequest Money Real)

/-- The same request with its candidates in another order. -/
def reordered (candidates : List (DecisionCandidate Money Real)) : DecisionRequest Money Real :=
  { request with candidates := candidates }

variable {num request}
variable {candidates : List (DecisionCandidate Money Real)}

theorem parameters_perm (perm : request.candidates.Perm candidates)
    (ok : step3ValidateCandidateParameters num request = .ok ()) :
    step3ValidateCandidateParameters num (reordered request candidates) = .ok () := by
  unfold step3ValidateCandidateParameters at ok ⊢
  split at ok
  next => cases ok
  next some_candidate =>
    obtain ⟨checked,all,_⟩ := bind_eq_ok.mp ok
    obtain ⟨checked',all',_⟩ := mapM_perm perm all
    have some_left : ¬ (reordered request candidates).candidates.isEmpty = true := by
      change ¬ candidates.isEmpty = true
      rwa [← perm.isEmpty_eq]
    rw [if_neg some_left,bind_eq_ok]
    exact ⟨checked',all',rfl⟩

theorem constraints_perm (perm : request.candidates.Perm candidates) {eligible : List (DecisionCandidate Money Real)}
    {reasons : Dict String (List String)} (ok : steps4To7ApplyHardConstraints num request = .ok (eligible,reasons)) :
    ∃ eligible' reasons', steps4To7ApplyHardConstraints num (reordered request candidates) = .ok (eligible',reasons') ∧
      eligible.Perm eligible' := by
  simp only [steps4To7ApplyHardConstraints,bind_eq_ok,pure_eq_ok,Prod.mk.injEq] at ok ⊢
  obtain ⟨outcomes,all,rfl,_⟩ := ok
  obtain ⟨outcomes',all',moved⟩ := mapM_perm perm all
  exact ⟨_,_,⟨outcomes',all',rfl,rfl⟩,(moved.filter _).map Prod.fst⟩

/-- The eligible candidates are some of the candidates. -/
theorem eligible_distinct {eligible : List (DecisionCandidate Money Real)} {reasons : Dict String (List String)}
    (ok : steps4To7ApplyHardConstraints num request = .ok (eligible,reasons))
    (distinct : (request.candidates.map (fun c => c.candidateId)).Nodup) :
    (eligible.map (fun c => c.candidateId)).Nodup := by
  simp only [steps4To7ApplyHardConstraints,bind_eq_ok,pure_eq_ok,Prod.mk.injEq] at ok
  obtain ⟨outcomes,all,rfl,-⟩ := ok
  have sources : outcomes.map Prod.fst = request.candidates := by
    rw [mapM_eq_ok] at all
    generalize request.candidates = candidates at all
    induction candidates generalizing outcomes with
    | nil =>
      cases outcomes with
      | nil => rfl
      | cons => cases all
    | cons cand rest ih =>
      cases outcomes with
      | nil => cases all
      | cons pair outcomes =>
        obtain ⟨first,others⟩ := List.cons.inj all
        simp only [evaluated,bind_eq_ok,pure_eq_ok] at first
        obtain ⟨outcome,_,rfl⟩ := first
        rw [List.map_cons,ih outcomes others]
  rw [← sources] at distinct
  exact distinct.sublist ((List.filter_sublist.map Prod.fst).map _)

variable [LinearOrder Real]

theorem ranking_perm {eligible eligible' : List (DecisionCandidate Money Real)}
    {computed : List (ScoredCandidate Money Real)} (perm : eligible.Perm eligible')
    (distinct : (eligible.map (fun c => c.candidateId)).Nodup)
    (ok : step8ComputeExpectedUtility num request eligible = .ok computed) :
    ∃ computed', step8ComputeExpectedUtility num (reordered request candidates) eligible' = .ok computed' ∧
      step9RankCandidates num computed' = step9RankCandidates num computed := by
  obtain ⟨computed',ok',moved⟩ := mapM_perm perm ok
  refine ⟨computed',ok',(sortedBy_congr (sortKey num) moved ?_).symm⟩
  intro x first y second same
  have ids : x.candidate.candidateId = y.candidate.candidateId := by
    have keys := congrArg (fun key => (ofLex (ofLex (ofLex key).2).2).2) same
    exact keys
  obtain ⟨x_eligible,x_score⟩ := computed_source ok first
  obtain ⟨y_eligible,y_score⟩ := computed_source ok second
  have candidate := List.inj_on_of_nodup_map distinct x_eligible y_eligible ids
  rw [candidate,y_score] at x_score
  exact (Except.ok.inj x_score).symm

/-- What a reordering keeps of a recommendation: all but the order of the reasons. -/
def decided (recommendation : Recommendation Money Real) : RecommendationStatus × Option (DecisionCandidate Money Real) ×
    TopMetrics Money Real × List (RankedAlternative Money Real) :=
  (recommendation.status,recommendation.selectedCandidate,recommendation.topMetrics,recommendation.rankedAlternatives)

theorem execute_reordered (perm : request.candidates.Perm candidates)
    (distinct : (request.candidates.map (fun c => c.candidateId)).Nodup) {recommendation : Recommendation Money Real}
    (ok : executeDecisionPipeline num request = .ok recommendation) :
    ∃ recommendation', executeDecisionPipeline num (reordered request candidates) = .ok recommendation' ∧
      decided recommendation' = decided recommendation := by
  obtain ⟨eligible,reasons,computed,alternatives,status,selected,metrics,auth,watermark,parameters,constraints,
    utilities,records,result,rfl⟩ := (execute_ok num request).mp ok
  obtain ⟨eligible',reasons',constraints',moved⟩ := constraints_perm perm constraints
  have apart := eligible_distinct constraints distinct
  obtain ⟨computed',utilities',same⟩ := ranking_perm moved apart utilities
  rw [← same] at records
  rw [status_perm num moved apart] at result
  refine ⟨⟨status,selected,metrics,alternatives,reasons'⟩,?_,rfl⟩
  exact (execute_ok num _).mpr ⟨eligible',reasons',computed',alternatives,status,selected,metrics,auth,watermark,
    parameters_perm perm parameters,constraints',utilities',records,result,rfl⟩

variable (num request)

/-- Requests that differ in the order of their candidates only either both fail
or have the same status, selection, metrics and ranking. -/
theorem recommendation_reordered (perm : request.candidates.Perm candidates)
    (distinct : (request.candidates.map (fun c => c.candidateId)).Nodup) :
    (executeDecisionPipeline num (reordered request candidates)).toOption.map decided =
      (executeDecisionPipeline num request).toOption.map decided := by
  have distinct' : ((reordered request candidates).candidates.map (fun c => c.candidateId)).Nodup :=
    (perm.map (fun c => c.candidateId)).nodup_iff.mp distinct
  cases there : executeDecisionPipeline num request with
  | ok recommendation =>
    obtain ⟨recommendation',ok,same⟩ := execute_reordered perm distinct there
    rw [ok]
    exact congrArg some same
  | error failure =>
    cases here : executeDecisionPipeline num (reordered request candidates) with
    | error other => rfl
    | ok recommendation =>
      obtain ⟨back,ok,_⟩ := @execute_reordered _ _ num (reordered request candidates) request.candidates _ perm.symm
        distinct' _ here
      have original : executeDecisionPipeline num request = .ok back := ok
      rw [there] at original
      cases original

/-- Two candidates in the other order, in exact rationals. -/
theorem swapped_recommendation :
    (executeDecisionPipeline exactRationals
      (reordered twinRequest [{ reship "slow" (1/10) true with candidateId := "int_call" },reship "fast" (1/2) true])).toOption.map
        decided =
      (executeDecisionPipeline exactRationals
        (reordered twinRequest [reship "fast" (1/2) true,{ reship "slow" (1/10) true with candidateId := "int_call" }])).toOption.map
        decided :=
  recommendation_reordered exactRationals
    (reordered twinRequest [reship "fast" (1/2) true,{ reship "slow" (1/10) true with candidateId := "int_call" }])
    (List.Perm.swap _ _ []) (by decide +kernel)

end DecisionEngine
end RevPilot.Decision
